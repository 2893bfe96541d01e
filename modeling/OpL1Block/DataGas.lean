import OpL1Block.Info

/-!
  `L1BlockInfo::data_gas`: the L1 gas charged for a transaction's bytes.

  Before Fjord the bytes are priced one by one in a `u64` accumulator, and before
  Regolith the cost of 68 non-zero bytes is added; from Fjord on the gas is the
  compressed-size estimate at the non-zero-byte cost.  The estimator
  `estimate_tx_compressed_size` is not in `l1block.rs`: the model takes it as the
  parameter `estimateTxCompressedSize`, with the `u64` result the code converts
  with `U256::from`.

  * `toNat_foldl_byteCost`: the `u64` fold is the exact byte count while it cannot
    wrap;
  * `dataGas_eq`: the data gas of every input shorter than `2^60` bytes, in every
    version;
  * `toNat_dataGas_bedrock`: on every input, Bedrock charges 1088 more than
    Regolith;
  * `toNat_dataGas_lt`: on every input, however long, the data gas stays below
    `2^65`.
-/

namespace OpL1Block

variable (estimateTxCompressedSize : List UInt8 → UInt64)

/-- `tx_estimated_size_fjord`: the estimated compressed size, in bytes scaled by `1e6`. -/
def txEstimatedSizeFjord (input : List UInt8) : U256 :=
  U256.ofU64 (estimateTxCompressedSize input)

/-- `L1BlockInfo::data_gas` (it reads no field of the record). -/
def dataGas (input : List UInt8) (specId : OpSpecId) : U256 :=
  if specId.isEnabledIn .fjord then
    U256.wrappingDiv
      (U256.saturatingMul (txEstimatedSizeFjord estimateTxCompressedSize input)
        (U256.ofU64 nonZeroByteCost))
      1000000
  else
    let rollupDataGasCost := U256.ofU64 (input.foldl (fun acc byte =>
      acc + if byte = 0x00 then zeroByteCost else nonZeroByteCost) 0)
    -- Prior to Regolith, an extra 68 non-zero bytes were included in the rollup data costs.
    if !specId.isEnabledIn .regolith then
      rollupDataGasCost + U256.ofU64 nonZeroByteCost * 68
    else rollupDataGasCost

/-- The byte-cost fold of `data_gas` is the exact sum while the `u64` accumulator cannot
    wrap. -/
theorem toNat_foldl_byteCost (l : List UInt8) (acc : UInt64)
    (h : acc.toNat + 16 * l.length < 2 ^ 64) :
    (l.foldl (fun acc byte => acc + if byte = 0x00 then zeroByteCost else nonZeroByteCost)
      acc).toNat = acc.toNat + 4 * l.count 0 + 16 * l.countP (· != 0) := by
  induction l generalizing acc with
  | nil => simp
  | cons b l ih =>
    simp only [List.length_cons] at h
    have hadd : (acc + if b = 0x00 then zeroByteCost else nonZeroByteCost).toNat =
        acc.toNat + if b = 0 then 4 else 16 := by
      have hc : (if b = 0x00 then zeroByteCost else nonZeroByteCost).toNat =
          if b = 0 then 4 else 16 := by
        split <;> rfl
      rw [UInt64.toNat_add, hc, UInt64.size]
      split <;> omega
    rw [List.foldl_cons, ih _ (by rw [hadd]; split <;> omega), hadd, List.count_cons,
      List.countP_cons]
    by_cases hb : b = 0 <;> simp [hb] <;> omega

theorem toNat_foldl_byteCost_lt (l : List UInt8) :
    (l.foldl (fun acc byte => acc + if byte = 0x00 then zeroByteCost else nonZeroByteCost)
      0).toNat < 2 ^ 64 :=
  UInt64.toBitVec _ |>.isLt

/-- **`data_gas`.**  From Fjord on it is the estimate at 16 gas per byte, scaled back by `1e6`;
    before, on every input shorter than `2^60` bytes, it is 4 gas per zero byte and 16 per
    non-zero byte, plus 1088 before Regolith, with no wrap of the `u64` sum. -/
theorem dataGas_eq {x : List UInt8} (hx : x.length < 2 ^ 60) (s : OpSpecId) :
    (dataGas estimateTxCompressedSize x s).toNat =
      if s.isEnabledIn .fjord then 16 * (estimateTxCompressedSize x).toNat / 10 ^ 6
      else 4 * x.count 0 + 16 * x.countP (· != 0) + if s.isEnabledIn .regolith then 0 else 1088 := by
  have h16 : (U256.ofU64 nonZeroByteCost).toNat = 16 := rfl
  unfold dataGas
  split
  · have he : (estimateTxCompressedSize x).toNat < 2 ^ 64 :=
      (estimateTxCompressedSize x).toBitVec.isLt
    rw [U256.toNat_wrappingDiv, U256.toNat_saturatingMul, txEstimatedSizeFjord, U256.toNat_ofU64,
      h16, clamp, min_eq_left (by unfold MAX; omega), Nat.mul_comm]
    rfl
  · have hf := toNat_foldl_byteCost x 0 (by simp; omega)
    have hlt := toNat_foldl_byteCost_lt x
    rw [UInt64.toNat_zero, Nat.zero_add] at hf
    rw [hf] at hlt
    have h68 : (68 : U256).toNat = 68 := rfl
    cases s.isEnabledIn .regolith <;>
      simp only [Bool.not_false, Bool.not_true, ite_true, ite_false, Bool.false_eq_true,
        BitVec.toNat_add, BitVec.toNat_mul, h16, h68, U256.toNat_ofU64, hf] <;> omega

theorem dataGas_eq_facade :
    [0xFA, 0x00, 0xCA, 0x00, 0xDE].length < 2 ^ 60 ∧
      (dataGas (fun _ => 100000000) [0xFA, 0x00, 0xCA, 0x00, 0xDE] .bedrock).toNat = 1144 :=
  ⟨by decide, (dataGas_eq _ (by decide) _).trans (by decide)⟩

/-- On every input, however long, Bedrock charges the cost of 68 non-zero bytes more than
    Regolith: the `U256` addition never wraps. -/
theorem toNat_dataGas_bedrock (x : List UInt8) :
    (dataGas estimateTxCompressedSize x .bedrock).toNat =
      (dataGas estimateTxCompressedSize x .regolith).toNat + 1088 := by
  have hlt := toNat_foldl_byteCost_lt x
  have h16 : (U256.ofU64 nonZeroByteCost).toNat = 16 := rfl
  have h68 : (68 : U256).toNat = 68 := rfl
  simp only [dataGas, OpSpecId.isEnabledIn, OpSpecId.toNat, Nat.reduceLeDiff, decide_False,
    decide_True, Bool.false_eq_true, ite_false, Bool.not_false, Bool.not_true, ite_true,
    BitVec.toNat_add, BitVec.toNat_mul, h16, h68, U256.toNat_ofU64]
  omega

/-- On every input, however long, and in every version the data gas stays below `2^65`: the
    `u64` fold bounds it before Fjord, the `u64` estimate from Fjord on. -/
theorem toNat_dataGas_lt (x : List UInt8) (s : OpSpecId) :
    (dataGas estimateTxCompressedSize x s).toNat < 2 ^ 65 := by
  have hlt := toNat_foldl_byteCost_lt x
  have he : (estimateTxCompressedSize x).toNat < 2 ^ 64 :=
    (estimateTxCompressedSize x).toBitVec.isLt
  have h16 : (U256.ofU64 nonZeroByteCost).toNat = 16 := rfl
  have h68 : (68 : U256).toNat = 68 := rfl
  have h6 : (1000000 : U256).toNat = 1000000 := rfl
  unfold dataGas
  split
  · have hc := min_le_left ((estimateTxCompressedSize x).toNat * 16) MAX
    rw [U256.toNat_wrappingDiv, U256.toNat_saturatingMul, txEstimatedSizeFjord, U256.toNat_ofU64,
      h16, h6, clamp]
    exact lt_of_le_of_lt (Nat.div_le_div_right hc) (by omega)
  · split <;>
      simp only [BitVec.toNat_add, BitVec.toNat_mul, h16, h68, U256.toNat_ofU64] <;> omega

end OpL1Block
