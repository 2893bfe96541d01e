import OpL1Block.DataGas

/-!
  The fee calculator of `l1block.rs`: `calculate_tx_l1_cost` and the three
  formulas it dispatches to, with `calculate_l1_fee_scaled_ecotone`, the scaled
  fee shared by Ecotone and Fjord.

  Every multiplication and the one addition saturate at `U256::MAX`; the last
  step is a floor division.  Over `ℕ` each saturating chain is its exact result
  clamped once (`clamp_mul_clamp`, `clamp_add_clamp`):

  * `toNat_calculateL1FeeScaledEcotone` and one `toNat_` lemma per formula;
  * `l1CostExact`, the fee over unbounded naturals with one clamp before the
    division, and `toNat_calculateTxL1Cost`: the calculator computes it for every
    record, every input and every version;
  * `calculateTxL1Cost_fjord_congr`: from Fjord on, the fee does not read the
    overhead or the empty-scalars flag;
  * `calculateTxL1Cost_mono`: saturation keeps the fee monotone in every price,
    overhead and scalar the formulas read;
  * `calculateTxL1Cost_unsaturated`: with every price, overhead and scalar below
    `2^64` no operation saturates, on any input, and the fee is `l1CostUnbounded`;
  * `calculateTxL1CostEcotone_precise`: the Ecotone formula as computed lies between
    the formula of its code comment rounded down and rounded up.
-/

namespace OpL1Block

variable (estimateTxCompressedSize : List UInt8 → UInt64)

/-- `calculate_l1_fee_scaled_ecotone`:
    `l1BaseFee*16*l1BaseFeeScalar + l1BlobBaseFee*l1BlobBaseFeeScalar`. -/
def calculateL1FeeScaledEcotone (i : L1BlockInfo) : U256 :=
  let calldataCostPerByte :=
    U256.saturatingMul (U256.saturatingMul i.l1BaseFee (U256.ofU64 nonZeroByteCost))
      i.l1BaseFeeScalar
  let blobCostPerByte :=
    U256.saturatingMul (i.l1BlobBaseFee.getD 0) (i.l1BlobBaseFeeScalar.getD 0)
  U256.saturatingAdd calldataCostPerByte blobCostPerByte

/-- `calculate_tx_l1_cost_bedrock`: the cost before Ecotone. -/
def calculateTxL1CostBedrock (i : L1BlockInfo) (input : List UInt8) (specId : OpSpecId) : U256 :=
  let rollupDataGasCost := dataGas estimateTxCompressedSize input specId
  U256.wrappingDiv
    (U256.saturatingMul
      (U256.saturatingMul (U256.saturatingAdd rollupDataGasCost (i.l1FeeOverhead.getD 0))
        i.l1BaseFee)
      i.l1BaseFeeScalar)
    1000000

/-- `calculate_tx_l1_cost_ecotone`:
    `calldataGas*(l1BaseFee*16*l1BaseFeeScalar + l1BlobBaseFee*l1BlobBaseFeeScalar)/16e6`,
    or the Bedrock cost in the first Ecotone block, where the scalars are unset. -/
def calculateTxL1CostEcotone (i : L1BlockInfo) (input : List UInt8) (specId : OpSpecId) : U256 :=
  if i.emptyScalars then calculateTxL1CostBedrock estimateTxCompressedSize i input specId
  else
    let rollupDataGasCost := dataGas estimateTxCompressedSize input specId
    let l1FeeScaled := calculateL1FeeScaledEcotone i
    U256.wrappingDiv (U256.saturatingMul l1FeeScaled rollupDataGasCost)
      (U256.ofU64 (1000000 * nonZeroByteCost))

/-- `calculate_tx_l1_cost_fjord`:
    `estimatedSize*(baseFeeScalar*l1BaseFee*16 + blobFeeScalar*l1BlobBaseFee)/1e12`. -/
def calculateTxL1CostFjord (i : L1BlockInfo) (input : List UInt8) : U256 :=
  let l1FeeScaled := calculateL1FeeScaledEcotone i
  let estimatedSize := txEstimatedSizeFjord estimateTxCompressedSize input
  U256.wrappingDiv (U256.saturatingMul estimatedSize l1FeeScaled) (U256.ofU64 1000000000000)

/-- `calculate_tx_l1_cost`: zero for an empty input or a deposit (type `0x7F`), otherwise the
    formula of the newest active version. -/
def calculateTxL1Cost (i : L1BlockInfo) (input : List UInt8) (specId : OpSpecId) : U256 :=
  if input.isEmpty || input.head? == some 0x7F then 0
  else if specId.isEnabledIn .fjord then calculateTxL1CostFjord estimateTxCompressedSize i input
  else if specId.isEnabledIn .ecotone then
    calculateTxL1CostEcotone estimateTxCompressedSize i input specId
  else calculateTxL1CostBedrock estimateTxCompressedSize i input specId

/-! ## The formulas over `ℕ` -/

/-- `l1BaseFee*16*l1BaseFeeScalar + l1BlobBaseFee*l1BlobBaseFeeScalar` over `ℕ`, absent blob
    fields counting as zero. -/
def l1FeeScaled (i : L1BlockInfo) : ℕ :=
  16 * i.l1BaseFee.toNat * i.l1BaseFeeScalar.toNat +
    (i.l1BlobBaseFee.getD 0).toNat * (i.l1BlobBaseFeeScalar.getD 0).toNat

theorem toNat_calculateL1FeeScaledEcotone (i : L1BlockInfo) :
    (calculateL1FeeScaledEcotone i).toNat = clamp (l1FeeScaled i) := by
  have h16 : (U256.ofU64 nonZeroByteCost).toNat = 16 := rfl
  simp only [calculateL1FeeScaledEcotone, U256.toNat_saturatingAdd, U256.toNat_saturatingMul, h16,
    clamp_mul_clamp, clamp_add_clamp, l1FeeScaled, Nat.mul_comm _ 16]

section
variable (i : L1BlockInfo) (input : List UInt8) (specId : OpSpecId)

theorem toNat_calculateTxL1CostBedrock :
    (calculateTxL1CostBedrock estimateTxCompressedSize i input specId).toNat =
      clamp (((dataGas estimateTxCompressedSize input specId).toNat +
          (i.l1FeeOverhead.getD 0).toNat) * i.l1BaseFee.toNat * i.l1BaseFeeScalar.toNat) /
        10 ^ 6 := by
  simp only [calculateTxL1CostBedrock, U256.toNat_wrappingDiv, U256.toNat_saturatingMul,
    U256.toNat_saturatingAdd, clamp_mul_clamp]
  rfl

theorem toNat_calculateTxL1CostEcotone :
    (calculateTxL1CostEcotone estimateTxCompressedSize i input specId).toNat =
      if i.emptyScalars then
        (calculateTxL1CostBedrock estimateTxCompressedSize i input specId).toNat
      else clamp ((dataGas estimateTxCompressedSize input specId).toNat * l1FeeScaled i) /
        (16 * 10 ^ 6) := by
  unfold calculateTxL1CostEcotone
  split
  · rfl
  · simp only [U256.toNat_wrappingDiv, U256.toNat_saturatingMul,
      toNat_calculateL1FeeScaledEcotone, clamp_mul_clamp, Nat.mul_comm (l1FeeScaled i)]
    rfl

theorem toNat_calculateTxL1CostFjord :
    (calculateTxL1CostFjord estimateTxCompressedSize i input).toNat =
      clamp ((estimateTxCompressedSize input).toNat * l1FeeScaled i) / 10 ^ 12 := by
  simp only [calculateTxL1CostFjord, U256.toNat_wrappingDiv, U256.toNat_saturatingMul,
    toNat_calculateL1FeeScaledEcotone, clamp_mul_clamp', txEstimatedSizeFjord, U256.toNat_ofU64]
  rfl

end

/-- The L1 cost over unbounded naturals, clamped once at `MAX` before the final division: zero
    for an empty input or a deposit; from Fjord on the estimate times the scaled fee over `1e12`;
    in Ecotone with set scalars the data gas times the scaled fee over `16e6`; otherwise the
    data gas plus overhead, times base fee and scalar, over `1e6`. -/
def l1CostExact (i : L1BlockInfo) (input : List UInt8) (s : OpSpecId) : ℕ :=
  if input = [] ∨ input.head? = some 0x7F then 0
  else if s.isEnabledIn .fjord then
    clamp ((estimateTxCompressedSize input).toNat * l1FeeScaled i) / 10 ^ 12
  else if s.isEnabledIn .ecotone ∧ !i.emptyScalars then
    clamp ((dataGas estimateTxCompressedSize input s).toNat * l1FeeScaled i) / (16 * 10 ^ 6)
  else
    clamp (((dataGas estimateTxCompressedSize input s).toNat + (i.l1FeeOverhead.getD 0).toNat) *
      i.l1BaseFee.toNat * i.l1BaseFeeScalar.toNat) / 10 ^ 6

/-- `calculate_tx_l1_cost` charges one of three formulas: Fjord's from Fjord on, Ecotone's in
    Ecotone with set scalars, and Bedrock's otherwise (the Ecotone fallback included). -/
theorem calculateTxL1Cost_eq (i : L1BlockInfo) (x : List UInt8) (s : OpSpecId) :
    calculateTxL1Cost estimateTxCompressedSize i x s =
      if x = [] ∨ x.head? = some 0x7F then 0
      else if s.isEnabledIn .fjord then calculateTxL1CostFjord estimateTxCompressedSize i x
      else if s.isEnabledIn .ecotone ∧ !i.emptyScalars then
        calculateTxL1CostEcotone estimateTxCompressedSize i x s
      else calculateTxL1CostBedrock estimateTxCompressedSize i x s := by
  have hdep : (x.isEmpty || x.head? == some 0x7F) = true ↔ x = [] ∨ x.head? = some 0x7F := by
    simp
  unfold calculateTxL1Cost
  by_cases h₀ : x = [] ∨ x.head? = some 0x7F
  · rw [if_pos (hdep.2 h₀), if_pos h₀]
  rw [if_neg (mt hdep.1 h₀), if_neg h₀]
  by_cases he : s.isEnabledIn .ecotone <;> cases hi : i.emptyScalars <;>
    simp [he, hi, calculateTxL1CostEcotone]

/-- **The saturating chains compute the clamped exact fee**, for every record, every input and
    every version. -/
theorem toNat_calculateTxL1Cost (i : L1BlockInfo) (x : List UInt8) (s : OpSpecId) :
    (calculateTxL1Cost estimateTxCompressedSize i x s).toNat =
      l1CostExact estimateTxCompressedSize i x s := by
  rw [calculateTxL1Cost_eq, l1CostExact]
  split
  · rfl
  split
  · exact toNat_calculateTxL1CostFjord ..
  split
  · next h => rw [toNat_calculateTxL1CostEcotone, if_neg (by simpa using h.2)]
  · exact toNat_calculateTxL1CostBedrock ..

/-- From Fjord on, the fee reads neither the overhead nor the empty-scalars flag. -/
theorem calculateTxL1Cost_fjord_congr (i : L1BlockInfo) (o : Option U256) (b : Bool)
    (x : List UInt8) {s : OpSpecId} (hs : s.isEnabledIn .fjord) :
    calculateTxL1Cost estimateTxCompressedSize { i with l1FeeOverhead := o, emptyScalars := b } x s =
      calculateTxL1Cost estimateTxCompressedSize i x s := by
  simp only [calculateTxL1Cost, hs, ite_true, calculateTxL1CostFjord, calculateL1FeeScaledEcotone]

theorem calculateTxL1Cost_fjord_congr_priced :
    OpSpecId.fjord.isEnabledIn .fjord ∧
      calculateTxL1Cost (fun _ => 100000000)
          { ({ l1BaseFee := 1000, l1BaseFeeScalar := 1000 } : L1BlockInfo) with
            l1FeeOverhead := some 1, emptyScalars := true } [0xFA] .fjord =
        calculateTxL1Cost (fun _ => 100000000) { l1BaseFee := 1000, l1BaseFeeScalar := 1000 }
          [0xFA] .fjord :=
  ⟨rfl, calculateTxL1Cost_fjord_congr _ _ _ _ _ rfl⟩

/-! ## Monotonicity in the prices -/

/-- `i'` asks at least the prices, overhead and scalars of `i` that the formulas read, with the
    same empty-scalars flag. -/
structure L1BlockInfo.PricesLe (i i' : L1BlockInfo) : Prop where
  l1BaseFee : i.l1BaseFee ≤ i'.l1BaseFee
  l1FeeOverhead : i.l1FeeOverhead.getD 0 ≤ i'.l1FeeOverhead.getD 0
  l1BaseFeeScalar : i.l1BaseFeeScalar ≤ i'.l1BaseFeeScalar
  l1BlobBaseFee : i.l1BlobBaseFee.getD 0 ≤ i'.l1BlobBaseFee.getD 0
  l1BlobBaseFeeScalar : i.l1BlobBaseFeeScalar.getD 0 ≤ i'.l1BlobBaseFeeScalar.getD 0
  emptyScalars : i.emptyScalars = i'.emptyScalars

theorem l1FeeScaled_le {i i' : L1BlockInfo} (h : i.PricesLe i') :
    l1FeeScaled i ≤ l1FeeScaled i' := by
  unfold l1FeeScaled
  gcongr
  exacts [h.l1BaseFee, h.l1BaseFeeScalar, h.l1BlobBaseFee, h.l1BlobBaseFeeScalar]

/-- **Higher prices never lower the fee.**  Saturation keeps each formula monotone, so a record
    whose prices, overhead and scalars are each at least those of another, with the same
    empty-scalars flag, charges at least as much for every transaction in every version. -/
theorem calculateTxL1Cost_mono {i i' : L1BlockInfo} (h : i.PricesLe i') (x : List UInt8)
    (s : OpSpecId) :
    calculateTxL1Cost estimateTxCompressedSize i x s ≤
      calculateTxL1Cost estimateTxCompressedSize i' x s := by
  have hf := l1FeeScaled_le h
  rw [BitVec.le_def, calculateTxL1Cost_eq, calculateTxL1Cost_eq, h.emptyScalars]
  split
  · exact le_rfl
  split
  · simp only [toNat_calculateTxL1CostFjord]
    gcongr
  split
  · next he =>
    have hi' : i'.emptyScalars = false := by simpa using he.2
    simp only [toNat_calculateTxL1CostEcotone, h.emptyScalars, hi', Bool.false_eq_true, ite_false]
    gcongr
  · simp only [toNat_calculateTxL1CostBedrock]
    gcongr
    exacts [h.l1FeeOverhead, h.l1BaseFee, h.l1BaseFeeScalar]

theorem calculateTxL1Cost_mono_baseFee :
    L1BlockInfo.PricesLe { l1BaseFee := 1, l1BaseFeeScalar := 1 }
        { l1BaseFee := 1000, l1BaseFeeScalar := 1000 } ∧
      calculateTxL1Cost (fun _ => 0) { l1BaseFee := 1, l1BaseFeeScalar := 1 } [0xFA] .regolith ≤
        calculateTxL1Cost (fun _ => 0) { l1BaseFee := 1000, l1BaseFeeScalar := 1000 } [0xFA]
          .regolith :=
  have h : L1BlockInfo.PricesLe { l1BaseFee := 1, l1BaseFeeScalar := 1 }
      { l1BaseFee := 1000, l1BaseFeeScalar := 1000 } :=
    ⟨by decide, by decide, by decide, by decide, by decide, rfl⟩
  ⟨h, calculateTxL1Cost_mono _ h _ _⟩

/-! ## Saturation and precision -/

/-- Every price, overhead and scalar the formulas read is below `b`. -/
structure L1BlockInfo.PricesLt (i : L1BlockInfo) (b : ℕ) : Prop where
  l1BaseFee : i.l1BaseFee.toNat < b
  l1FeeOverhead : (i.l1FeeOverhead.getD 0).toNat < b
  l1BaseFeeScalar : i.l1BaseFeeScalar.toNat < b
  l1BlobBaseFee : (i.l1BlobBaseFee.getD 0).toNat < b
  l1BlobBaseFeeScalar : (i.l1BlobBaseFeeScalar.getD 0).toNat < b

/-- The L1 cost over unbounded naturals with no saturation anywhere: the formulas of the code
    comments, Ecotone's in the form the code computes (`calldataGas*l1FeeScaled/16e6`). -/
def l1CostUnbounded (i : L1BlockInfo) (input : List UInt8) (s : OpSpecId) : ℕ :=
  if input = [] ∨ input.head? = some 0x7F then 0
  else if s.isEnabledIn .fjord then
    (estimateTxCompressedSize input).toNat * l1FeeScaled i / 10 ^ 12
  else if s.isEnabledIn .ecotone ∧ !i.emptyScalars then
    (dataGas estimateTxCompressedSize input s).toNat * l1FeeScaled i / (16 * 10 ^ 6)
  else
    ((dataGas estimateTxCompressedSize input s).toNat + (i.l1FeeOverhead.getD 0).toNat) *
      i.l1BaseFee.toNat * i.l1BaseFeeScalar.toNat / 10 ^ 6

theorem l1FeeScaled_lt {i : L1BlockInfo} (h : i.PricesLt (2 ^ 64)) : l1FeeScaled i < 2 ^ 133 :=
  calc l1FeeScaled i
      ≤ 16 * 2 ^ 64 * 2 ^ 64 + 2 ^ 64 * 2 ^ 64 := by
        obtain ⟨hb, -, hsc, hbb, hbs⟩ := h
        unfold l1FeeScaled
        gcongr
    _ < 2 ^ 133 := by norm_num

/-- **Saturation never triggers at realistic prices.**  When the base fee, overhead, scalar, blob
    base fee and blob scalar are each below `2^64`, no saturating operation saturates, on every
    input however long and in every version: the calculator charges the unbounded fee. -/
theorem calculateTxL1Cost_unsaturated {i : L1BlockInfo} (h : i.PricesLt (2 ^ 64))
    (x : List UInt8) (s : OpSpecId) :
    (calculateTxL1Cost estimateTxCompressedSize i x s).toNat =
      l1CostUnbounded estimateTxCompressedSize i x s := by
  have hS := l1FeeScaled_lt h
  have hg := toNat_dataGas_lt estimateTxCompressedSize x s
  have he : (estimateTxCompressedSize x).toNat < 2 ^ 64 :=
    (estimateTxCompressedSize x).toBitVec.isLt
  rw [calculateTxL1Cost_eq, l1CostUnbounded]
  split
  · rfl
  split
  · rw [toNat_calculateTxL1CostFjord, clamp_eq_self]
    calc _ ≤ 2 ^ 64 * 2 ^ 133 := Nat.mul_le_mul he.le hS.le
      _ ≤ MAX := by norm_num [MAX]
  split
  · next hE =>
    rw [toNat_calculateTxL1CostEcotone, if_neg (by simpa using hE.2), clamp_eq_self]
    calc _ ≤ 2 ^ 65 * 2 ^ 133 := Nat.mul_le_mul hg.le hS.le
      _ ≤ MAX := by norm_num [MAX]
  · rw [toNat_calculateTxL1CostBedrock, clamp_eq_self]
    obtain ⟨hb, ho, hsc, -, -⟩ := h
    calc _ ≤ (2 ^ 65 + 2 ^ 64) * 2 ^ 64 * 2 ^ 64 := by gcongr
      _ ≤ MAX := by norm_num [MAX]

theorem calculateTxL1Cost_unsaturated_regolith :
    L1BlockInfo.PricesLt { l1BaseFee := 1000, l1FeeOverhead := some 1000, l1BaseFeeScalar := 1000 }
        (2 ^ 64) ∧
      (calculateTxL1Cost (fun _ => 0)
          { l1BaseFee := 1000, l1FeeOverhead := some 1000, l1BaseFeeScalar := 1000 } [0xFA]
          .regolith).toNat =
        l1CostUnbounded (fun _ => 0)
          { l1BaseFee := 1000, l1FeeOverhead := some 1000, l1BaseFeeScalar := 1000 } [0xFA]
          .regolith :=
  have h : L1BlockInfo.PricesLt
      { l1BaseFee := 1000, l1FeeOverhead := some 1000, l1BaseFeeScalar := 1000 } (2 ^ 64) :=
    ⟨by decide, by decide, by decide, by decide, by decide⟩
  ⟨h, calculateTxL1Cost_unsaturated _ h _ _⟩

/-- Multiplying before dividing by `16` lies between dividing first with the quotient rounded down
    and rounded up, and is the same for a multiple of `16`. -/
theorem div_sixteen_between (g S d : ℕ) :
    g / 16 * S / d ≤ g * S / (16 * d) ∧ g * S / (16 * d) ≤ (g + 15) / 16 * S / d ∧
      (16 ∣ g → g * S / (16 * d) = g / 16 * S / d) := by
  rw [← Nat.div_div_eq_div_mul]
  have hlo : g / 16 * S / d ≤ g * S / 16 / d := by
    apply Nat.div_le_div_right
    rw [Nat.le_div_iff_mul_le (by norm_num), Nat.mul_right_comm]
    exact Nat.mul_le_mul_right _ (Nat.div_mul_le_self g 16)
  have hhi : g * S / 16 / d ≤ (g + 15) / 16 * S / d := by
    apply Nat.div_le_div_right
    apply Nat.div_le_of_le_mul
    rw [← Nat.mul_assoc]
    exact Nat.mul_le_mul_right _ (by omega)
  refine ⟨hlo, hhi, fun h16 => le_antisymm ?_ hlo⟩
  rwa [show (g + 15) / 16 = g / 16 by omega] at hhi

/-- **Ecotone computes the formula of its comment, more precisely.**  The comment of
    `calculate_tx_l1_cost_ecotone` gives `(calldataGas/16)*l1FeeScaled/1e6` and the code computes
    `calldataGas*l1FeeScaled/16e6`: short of saturation the charge lies between the comment's
    formula with `calldataGas/16` rounded down and rounded up, so the two agree whenever the
    calldata gas is a multiple of 16. -/
theorem calculateTxL1CostEcotone_precise (i : L1BlockInfo) (x : List UInt8) (s : OpSpecId)
    (he : i.emptyScalars = false)
    (hsat : (dataGas estimateTxCompressedSize x s).toNat * l1FeeScaled i ≤ MAX) :
    (dataGas estimateTxCompressedSize x s).toNat / 16 * l1FeeScaled i / 10 ^ 6 ≤
        (calculateTxL1CostEcotone estimateTxCompressedSize i x s).toNat ∧
      (calculateTxL1CostEcotone estimateTxCompressedSize i x s).toNat ≤
        ((dataGas estimateTxCompressedSize x s).toNat + 15) / 16 * l1FeeScaled i / 10 ^ 6 ∧
      (16 ∣ (dataGas estimateTxCompressedSize x s).toNat →
        (calculateTxL1CostEcotone estimateTxCompressedSize i x s).toNat =
          (dataGas estimateTxCompressedSize x s).toNat / 16 * l1FeeScaled i / 10 ^ 6) := by
  rw [toNat_calculateTxL1CostEcotone, if_neg (by simp [he]), clamp_eq_self hsat]
  exact div_sixteen_between _ _ _

theorem calculateTxL1CostEcotone_precise_facade :
    ({ l1BaseFee := 1000, l1BaseFeeScalar := 1000 } : L1BlockInfo).emptyScalars = false ∧
      (dataGas (fun _ => 0) [0xFA, 0xCA, 0xDE] .ecotone).toNat *
          l1FeeScaled { l1BaseFee := 1000, l1BaseFeeScalar := 1000 } ≤ MAX ∧
      (dataGas (fun _ => 0) [0xFA, 0xCA, 0xDE] .ecotone).toNat / 16 *
            l1FeeScaled { l1BaseFee := 1000, l1BaseFeeScalar := 1000 } / 10 ^ 6 ≤
          (calculateTxL1CostEcotone (fun _ => 0) { l1BaseFee := 1000, l1BaseFeeScalar := 1000 }
            [0xFA, 0xCA, 0xDE] .ecotone).toNat ∧
        (calculateTxL1CostEcotone (fun _ => 0) { l1BaseFee := 1000, l1BaseFeeScalar := 1000 }
            [0xFA, 0xCA, 0xDE] .ecotone).toNat ≤
          ((dataGas (fun _ => 0) [0xFA, 0xCA, 0xDE] .ecotone).toNat + 15) / 16 *
            l1FeeScaled { l1BaseFee := 1000, l1BaseFeeScalar := 1000 } / 10 ^ 6 ∧
        (16 ∣ (dataGas (fun _ => 0) [0xFA, 0xCA, 0xDE] .ecotone).toNat →
          (calculateTxL1CostEcotone (fun _ => 0) { l1BaseFee := 1000, l1BaseFeeScalar := 1000 }
            [0xFA, 0xCA, 0xDE] .ecotone).toNat =
            (dataGas (fun _ => 0) [0xFA, 0xCA, 0xDE] .ecotone).toNat / 16 *
              l1FeeScaled { l1BaseFee := 1000, l1BaseFeeScalar := 1000 } / 10 ^ 6) :=
  have hg : (dataGas (fun _ => 0) [0xFA, 0xCA, 0xDE] .ecotone).toNat = 48 := rfl
  ⟨rfl, by rw [hg]; decide, calculateTxL1CostEcotone_precise _ _ _ _ rfl (by rw [hg]; decide)⟩

end OpL1Block
