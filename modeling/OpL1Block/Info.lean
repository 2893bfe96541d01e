import OpL1Block.U256

/-!
  The data model of `l1block.rs`: the protocol versions the fee rules are gated
  on, the costs and the storage layout of the `L1Block` contract, and
  `L1BlockInfo`, the per-block record the loader builds and the fee calculator
  reads.
-/

namespace OpL1Block

/-- Modelled from the spec: the Optimism protocol versions (`OpSpecId`, declared outside
    `l1block.rs`) that the core is gated on, in activation order. -/
inductive OpSpecId where
  | bedrock
  | regolith
  | ecotone
  | fjord
  deriving DecidableEq, Repr

namespace OpSpecId

/-- The position of a version in the activation order. -/
def toNat : OpSpecId → ℕ
  | bedrock => 0
  | regolith => 1
  | ecotone => 2
  | fjord => 3

/-- `is_enabled_in`: the rules of `other` are in effect at `self`. -/
def isEnabledIn (self other : OpSpecId) : Bool := other.toNat ≤ self.toNat

theorem isEnabledIn_iff {s o : OpSpecId} : s.isEnabledIn o ↔ o.toNat ≤ s.toNat := by
  simp [isEnabledIn]

theorem isEnabledIn_trans {s o o' : OpSpecId} (h : s.isEnabledIn o) (h' : o.isEnabledIn o') :
    s.isEnabledIn o' := by
  rw [isEnabledIn_iff] at *; omega

end OpSpecId

/-! ## Constants -/

/-- `ZERO_BYTE_COST`. -/
def zeroByteCost : UInt64 := 4

/-- `NON_ZERO_BYTE_COST`. -/
def nonZeroByteCost : UInt64 := 16

/-- `BASE_FEE_SCALAR_OFFSET`: byte offset of the 4-byte `baseFeeScalar` in its slot. -/
def baseFeeScalarOffset : ℕ := 16

/-- `BLOB_BASE_FEE_SCALAR_OFFSET`: byte offset of the 4-byte `blobBaseFeeScalar`. -/
def blobBaseFeeScalarOffset : ℕ := 20

/-- `L1_BASE_FEE_SLOT`. -/
def l1BaseFeeSlot : U256 := 1

/-- `L1_OVERHEAD_SLOT`. -/
def l1OverheadSlot : U256 := 5

/-- `L1_SCALAR_SLOT`. -/
def l1ScalarSlot : U256 := 6

/-- `ECOTONE_L1_BLOB_BASE_FEE_SLOT`. -/
def ecotoneL1BlobBaseFeeSlot : U256 := 7

/-- `ECOTONE_L1_FEE_SCALARS_SLOT`: the two scalars, packed with the sequence number. -/
def ecotoneL1FeeScalarsSlot : U256 := 3

/-- `EMPTY_SCALARS`: an empty 64-bit set of scalar values. -/
def emptyScalars : List UInt8 := List.replicate 8 0

/-- `L1_BLOCK_CONTRACT`. -/
def l1BlockContract : Address := 0x4200000000000000000000000000000000000015

/-! ## `L1BlockInfo` -/

/-- `L1BlockInfo`: the L1 fee parameters of one L2 block.  The field defaults are those of
    `Default::default()`. -/
structure L1BlockInfo where
  /-- The base fee of the L1 origin block. -/
  l1BaseFee : U256 := 0
  /-- The L1 fee overhead; `none` if Ecotone is activated. -/
  l1FeeOverhead : Option U256 := none
  /-- The L1 fee scalar. -/
  l1BaseFeeScalar : U256 := 0
  /-- The L1 blob base fee; `none` if Ecotone is not activated. -/
  l1BlobBaseFee : Option U256 := none
  /-- The L1 blob base fee scalar; `none` if Ecotone is not activated. -/
  l1BlobBaseFeeScalar : Option U256 := none
  /-- Ecotone is activated, but the L1 fee scalars have not been set yet. -/
  emptyScalars : Bool := false
  deriving DecidableEq, Repr

end OpL1Block
