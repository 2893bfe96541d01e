import OpL1Block.Cost
import OpL1Block.Fetch

/-!
  Loading and charging together: the records the loader can produce, and the fee
  they make the calculator charge.

  * `tryFetch_ok`: a load that succeeds returns the decoded slot values;
  * `tryFetch_populated`: every loaded record carries the optional fields its era
    calls for (overhead before Ecotone or with empty scalars, blob fields from
    Ecotone on);
  * `tryFetch_packScalars`: a slot 3 packed as `l1block.rs` lays it out loads its
    two scalars, and the record is empty exactly when they and the blob base fee are
    zero;
  * `calculateTxL1Cost_tryFetch`: the fee of every transaction of a loaded block
    as a function of the slot values (`chainStateFee`);
  * `calculateTxL1Cost_of_emptyScalars`: a record loaded with empty scalars has a
    zero base-fee scalar, so before Fjord its fallback to the Bedrock formula
    charges nothing, on every chain state and every transaction;
    `firstEcotoneBlock_fallback` is the case of the fallback test's values, where
    the Bedrock cost of the same slots is 1048.
-/

namespace OpL1Block

variable {ε α : Type}

theorem ChainState.outcome_ok (cs : ChainState ε α) {plan : List Read} {i i' : L1BlockInfo}
    {log : List Read} (h : (cs.outcome plan i log).1 = .ok i') : i' = i := by
  unfold ChainState.outcome at h
  split at h <;> cases h
  rfl

theorem tryFetch_ok {cancun : OpSpecId → Bool} {cs : ChainState ε α} {s : OpSpecId}
    {log : List Read} {i : L1BlockInfo} (h : ((tryFetch cancun cs.recording s).run log).1 = .ok i) :
    i = cs.decoded (s.isEnabledIn .ecotone) := by
  rw [tryFetch_recording] at h
  exact cs.outcome_ok h

/-- The chain state of the first Ecotone block in the fallback test of `l1block.rs`: base fee,
    overhead and legacy scalar 1000, the blob base fee and the packed scalars still zero. -/
def firstEcotoneBlock : ChainState Unit Unit where
  basic _ := .ok none
  storage _ k :=
    .ok (if k = l1BaseFeeSlot ∨ k = l1OverheadSlot ∨ k = l1ScalarSlot then 1000 else 0)

theorem ChainState.outcome_of_issue (cs : ChainState ε α) {plan : List Read} (i : L1BlockInfo)
    (log : List Read) (h : (cs.issue plan).2 = none) : (cs.outcome plan i log).1 = .ok i := by
  simp [ChainState.outcome, h]

/-- Every read of `firstEcotoneBlock` succeeds, so every load does. -/
theorem firstEcotoneBlock_load (cancun : OpSpecId → Bool) (s : OpSpecId) :
    ((tryFetch cancun firstEcotoneBlock.recording s).run []).1 =
      .ok (firstEcotoneBlock.decoded (s.isEnabledIn .ecotone)) := by
  rw [tryFetch_recording]
  exact firstEcotoneBlock.outcome_of_issue _ _ (by cases cancun s <;> cases s <;> decide)

/-- The optional fields a record of an era carries, after the field comments of `L1BlockInfo`:
    the overhead before Ecotone, and from Ecotone on when the scalars are empty (a case the
    comment of `l1_fee_overhead` leaves out); the two blob fields from Ecotone on; and empty
    scalars only from Ecotone on. -/
def Populated (ecotone : Bool) (i : L1BlockInfo) : Prop :=
  i.l1FeeOverhead.isSome = (!ecotone || i.emptyScalars) ∧ i.l1BlobBaseFee.isSome = ecotone ∧
    i.l1BlobBaseFeeScalar.isSome = ecotone ∧ (i.emptyScalars → ecotone)

/-- Every record the loader returns is populated as its era says. -/
theorem tryFetch_populated {cancun : OpSpecId → Bool} {cs : ChainState ε α} {s : OpSpecId}
    {log : List Read} {i : L1BlockInfo} (h : ((tryFetch cancun cs.recording s).run log).1 = .ok i) :
    Populated (s.isEnabledIn .ecotone) i := by
  rw [tryFetch_ok h]
  cases s.isEnabledIn .ecotone
  · simp [Populated, ChainState.decoded]
  · simp only [Populated, ChainState.decoded, ite_true]
    split <;> simp_all

theorem tryFetch_populated_firstEcotoneBlock :
    ((tryFetch (fun _ => false) firstEcotoneBlock.recording .ecotone).run []).1 =
        .ok (firstEcotoneBlock.decoded (OpSpecId.ecotone.isEnabledIn .ecotone)) ∧
      Populated (OpSpecId.ecotone.isEnabledIn .ecotone)
        (firstEcotoneBlock.decoded (OpSpecId.ecotone.isEnabledIn .ecotone)) :=
  ⟨firstEcotoneBlock_load _ _, tryFetch_populated (firstEcotoneBlock_load (fun _ => false) _)⟩

/-- **The packed scalars round-trip through the loader.**  From Ecotone on, a chain state whose
    slot 3 holds the base-fee scalar `a` at byte offset 16 and the blob-base-fee scalar `b` at
    offset 20, whatever its other bytes, loads `a` and `b`, and its record counts as empty exactly
    when the blob base fee in slot 7 and both scalars are zero. -/
theorem tryFetch_packScalars {cancun : OpSpecId → Bool} {cs : ChainState ε α} {s : OpSpecId}
    (hs : s.isEnabledIn .ecotone) {high : ℕ} {a b : UInt32} {n : UInt64}
    (hw : cs.storage l1BlockContract ecotoneL1FeeScalarsSlot = .ok (packScalars high a b n))
    {log : List Read} {i : L1BlockInfo}
    (h : ((tryFetch cancun cs.recording s).run log).1 = .ok i) :
    i.l1BaseFeeScalar = BitVec.ofNat 256 a.toNat ∧
      i.l1BlobBaseFeeScalar = some (BitVec.ofNat 256 b.toNat) ∧
      i.emptyScalars = decide (cs.slot ecotoneL1BlobBaseFeeSlot = 0 ∧ a = 0 ∧ b = 0) := by
  have hi := tryFetch_ok h
  rw [hs] at hi
  subst hi
  obtain ⟨ha, hb⟩ := packScalars_windows high a b n
  simp only [ChainState.decoded, ite_true, cs.slot_of_ok hw, ha, hb]
  simp [UInt32.ext_iff]

theorem tryFetch_packScalars_firstEcotoneBlock :
    OpSpecId.ecotone.isEnabledIn .ecotone ∧
      (firstEcotoneBlock.withSlot ecotoneL1FeeScalarsSlot (.ok (packScalars 5 7 9 42))).storage
          l1BlockContract ecotoneL1FeeScalarsSlot = .ok (packScalars 5 7 9 42) ∧
      ((tryFetch (fun _ => false) (firstEcotoneBlock.withSlot ecotoneL1FeeScalarsSlot
          (.ok (packScalars 5 7 9 42))).recording .ecotone).run []).1 =
        .ok ((firstEcotoneBlock.withSlot ecotoneL1FeeScalarsSlot
          (.ok (packScalars 5 7 9 42))).decoded true) ∧
      ((firstEcotoneBlock.withSlot ecotoneL1FeeScalarsSlot
          (.ok (packScalars 5 7 9 42))).decoded true).l1BaseFeeScalar = BitVec.ofNat 256 7 ∧
      ((firstEcotoneBlock.withSlot ecotoneL1FeeScalarsSlot
          (.ok (packScalars 5 7 9 42))).decoded true).l1BlobBaseFeeScalar =
        some (BitVec.ofNat 256 9) ∧
      ((firstEcotoneBlock.withSlot ecotoneL1FeeScalarsSlot
          (.ok (packScalars 5 7 9 42))).decoded true).emptyScalars =
        decide ((firstEcotoneBlock.withSlot ecotoneL1FeeScalarsSlot
          (.ok (packScalars 5 7 9 42))).slot ecotoneL1BlobBaseFeeSlot = 0 ∧
          (7 : UInt32) = 0 ∧ (9 : UInt32) = 0) :=
  have hw : (firstEcotoneBlock.withSlot ecotoneL1FeeScalarsSlot
      (.ok (packScalars 5 7 9 42))).storage l1BlockContract ecotoneL1FeeScalarsSlot =
        .ok (packScalars 5 7 9 42) := by simp [ChainState.withSlot]
  have hl : ((tryFetch (fun _ => false) (firstEcotoneBlock.withSlot ecotoneL1FeeScalarsSlot
      (.ok (packScalars 5 7 9 42))).recording .ecotone).run []).1 =
        .ok ((firstEcotoneBlock.withSlot ecotoneL1FeeScalarsSlot
          (.ok (packScalars 5 7 9 42))).decoded true) := by
    rw [tryFetch_recording]
    exact ChainState.outcome_of_issue _ _ _ (by decide)
  ⟨rfl, hw, hl, tryFetch_packScalars (s := .ecotone) rfl hw hl⟩

variable (estimateTxCompressedSize : List UInt8 → UInt64)

/-- The fee of the transaction `x` in a block with chain state `cs`, from the slot values: the
    scaled fee of Ecotone and Fjord reads the base fee, the blob base fee and the two scalar
    windows of the packed slot; the formula before Ecotone reads the base fee, the overhead and
    the legacy scalar; the Ecotone fallback charges nothing. -/
def chainStateFee (cs : ChainState ε α) (x : List UInt8) (s : OpSpecId) : ℕ :=
  let w := (cs.slot ecotoneL1FeeScalarsSlot).toNat
  let scaled := 16 * (cs.slot l1BaseFeeSlot).toNat * (w / 2 ^ 96 % 2 ^ 32) +
    (cs.slot ecotoneL1BlobBaseFeeSlot).toNat * (w / 2 ^ 64 % 2 ^ 32)
  let g := (dataGas estimateTxCompressedSize x s).toNat
  if x = [] ∨ x.head? = some 0x7F then 0
  else if s.isEnabledIn .fjord then clamp ((estimateTxCompressedSize x).toNat * scaled) / 10 ^ 12
  else if s.isEnabledIn .ecotone then
    if (cs.decoded true).emptyScalars then 0 else clamp (g * scaled) / (16 * 10 ^ 6)
  else
    clamp ((g + (cs.slot l1OverheadSlot).toNat) * (cs.slot l1BaseFeeSlot).toNat *
      (cs.slot l1ScalarSlot).toNat) / 10 ^ 6

theorem toNat_decoded_scalars (cs : ChainState ε α) :
    (cs.decoded true).l1BaseFeeScalar.toNat =
        (cs.slot ecotoneL1FeeScalarsSlot).toNat / 2 ^ 96 % 2 ^ 32 ∧
      ((cs.decoded true).l1BlobBaseFeeScalar.getD 0).toNat =
        (cs.slot ecotoneL1FeeScalarsSlot).toNat / 2 ^ 64 % 2 ^ 32 := by
  have h : ∀ n : ℕ, n % 2 ^ 32 < 2 ^ 256 := fun n =>
    (Nat.mod_lt _ (by positivity)).trans (by norm_num)
  simp only [ChainState.decoded, ite_true, Option.getD_some, BitVec.toNat_ofNat,
    Nat.mod_eq_of_lt (h _), and_self]

/-- **The fee a loaded block charges.**  On every chain state where the load succeeds, the
    calculator charges `chainStateFee` for every transaction in every version. -/
theorem calculateTxL1Cost_tryFetch {cancun : OpSpecId → Bool} {cs : ChainState ε α}
    {s : OpSpecId} {log : List Read} {i : L1BlockInfo}
    (h : ((tryFetch cancun cs.recording s).run log).1 = .ok i) (x : List UInt8) :
    (calculateTxL1Cost estimateTxCompressedSize i x s).toNat =
      chainStateFee estimateTxCompressedSize cs x s := by
  have hi := tryFetch_ok h
  obtain ⟨hsc, hbsc⟩ := toNat_decoded_scalars cs
  rw [calculateTxL1Cost_eq, chainStateFee]
  split
  · rfl
  split
  · next hf =>
    rw [OpSpecId.isEnabledIn_trans hf (by decide : OpSpecId.fjord.isEnabledIn .ecotone)] at hi
    subst hi
    rw [toNat_calculateTxL1CostFjord, l1FeeScaled, hsc, hbsc]
    rfl
  cases he : s.isEnabledIn .ecotone <;> rw [he] at hi <;> subst hi
  · simp only [Bool.false_eq_true, false_and, ite_false, toNat_calculateTxL1CostBedrock]
    rfl
  · by_cases hE : (cs.decoded true).emptyScalars
    · simp only [hE, ite_true, Bool.not_true, Bool.false_eq_true, and_false, ite_false,
        toNat_calculateTxL1CostBedrock]
      simp only [ChainState.decoded, ite_true, decide_eq_true_eq] at hE
      rw [hsc, hE.2.1, Nat.mul_zero]
      rfl
    · simp only [hE, ite_true, Bool.not_false, and_self, ite_false, Bool.false_eq_true,
        toNat_calculateTxL1CostEcotone, l1FeeScaled, hsc, hbsc]
      rfl

theorem calculateTxL1Cost_tryFetch_firstEcotoneBlock :
    ((tryFetch (fun _ => false) firstEcotoneBlock.recording .regolith).run []).1 =
        .ok (firstEcotoneBlock.decoded (OpSpecId.regolith.isEnabledIn .ecotone)) ∧
      (calculateTxL1Cost (fun _ => 0)
          (firstEcotoneBlock.decoded (OpSpecId.regolith.isEnabledIn .ecotone)) [0xFA, 0xCA, 0xDE]
          .regolith).toNat =
        chainStateFee (fun _ => 0) firstEcotoneBlock [0xFA, 0xCA, 0xDE] .regolith :=
  ⟨firstEcotoneBlock_load _ _,
    calculateTxL1Cost_tryFetch _ (firstEcotoneBlock_load (fun _ => false) _) _⟩

/-- The first-Ecotone-block fallback charges nothing: empty scalars are only set from Ecotone on
    and when the decoded base-fee scalar is zero, and the Bedrock formula multiplies by it. -/
theorem calculateTxL1Cost_of_emptyScalars {cancun : OpSpecId → Bool} {cs : ChainState ε α}
    {s : OpSpecId} (hf : s.isEnabledIn .fjord = false) {log : List Read} {i : L1BlockInfo}
    (h : ((tryFetch cancun cs.recording s).run log).1 = .ok i) (he : i.emptyScalars)
    (x : List UInt8) : calculateTxL1Cost estimateTxCompressedSize i x s = 0 := by
  have hi := tryFetch_ok h
  cases hs : s.isEnabledIn .ecotone <;> rw [hs] at hi <;> subst hi
  · simp [ChainState.decoded] at he
  have h0 : (cs.decoded true).l1BaseFeeScalar.toNat = 0 := by
    simp only [ChainState.decoded, ite_true, decide_eq_true_eq] at he
    rw [(toNat_decoded_scalars cs).1, he.2.1]
  rw [calculateTxL1Cost_eq]
  simp only [hf, hs, he, Bool.not_true, Bool.false_eq_true, and_false, ite_false]
  split
  · rfl
  apply BitVec.eq_of_toNat_eq
  rw [toNat_calculateTxL1CostBedrock, h0, Nat.mul_zero]
  rfl

/-- At the first Ecotone block the loaded record charges `0` for `0xFACADE`, where the Bedrock
    cost on the legacy slots, the record the same chain state loads under Regolith, is `1048`. -/
theorem firstEcotoneBlock_fallback (cancun : OpSpecId → Bool) :
    ∃ i i', ((tryFetch cancun firstEcotoneBlock.recording .ecotone).run []).1 = .ok i ∧
      i.emptyScalars = true ∧
      ((tryFetch cancun firstEcotoneBlock.recording .regolith).run []).1 = .ok i' ∧
      calculateTxL1Cost estimateTxCompressedSize i [0xFA, 0xCA, 0xDE] .ecotone = 0 ∧
      calculateTxL1Cost estimateTxCompressedSize i' [0xFA, 0xCA, 0xDE] .regolith = 1048 := by
  have h₁ := firstEcotoneBlock_load cancun .ecotone
  have he : (firstEcotoneBlock.decoded (OpSpecId.ecotone.isEnabledIn .ecotone)).emptyScalars =
      true := by decide
  refine ⟨_, _, h₁, he, firstEcotoneBlock_load cancun .regolith, calculateTxL1Cost_of_emptyScalars
    _ (show OpSpecId.ecotone.isEnabledIn .fjord = false from rfl) h₁ he _, ?_⟩
  have hd : firstEcotoneBlock.decoded (OpSpecId.regolith.isEnabledIn .ecotone) =
      { l1BaseFee := 1000, l1FeeOverhead := some 1000, l1BaseFeeScalar := 1000 } := by decide
  have hg : dataGas estimateTxCompressedSize [0xFA, 0xCA, 0xDE] .regolith = 48 := rfl
  rw [hd, calculateTxL1Cost, if_neg (by decide), if_neg (by decide), if_neg (by decide)]
  apply BitVec.eq_of_toNat_eq
  rw [toNat_calculateTxL1CostBedrock, hg]
  decide

end OpL1Block
