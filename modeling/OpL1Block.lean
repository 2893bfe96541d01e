import OpL1Block.U256
import OpL1Block.Info
import OpL1Block.DataGas
import OpL1Block.Cost
import OpL1Block.Fetch
import OpL1Block.Pipeline
import OpL1Block.Getter
import OpL1Block.Store
