import OpL1Block.Info

/-!
  `L1BlockInfo::try_fetch`: loading the L1 fee parameters from the storage of
  the `L1Block` contract.

  The store is the `Database` the code is generic over: every read may change its
  state (`&mut DB`) and may fail with `DB::Error`, and the loader returns the
  first failure unchanged (the `?` operator).  `tryFetch` runs in
  `ExceptT ε (StateM σ)`, so a failed read ends the load but keeps the store's
  state.

  * `Database.read` and `ChainState.answer`: a read and its answer, one function
    over the two kinds of read, so each fact about reads is stated once;
  * `ChainState.recording`: the store of a fixed chain state that serves each
    read from it and records the read (`recording_read`);
  * `decode_baseFeeScalar`, `decode_blobBaseFeeScalar`, `decode_emptyScalars`:
    the byte windows of the packed scalar slot as digit ranges of the word, and
    `packScalars_windows`: the windows of a word packed as `l1block.rs` lays the
    slot out hold its two scalars;
  * `tryFetch_recording`: on every chain state and every version, the loader
    issues the planned reads up to the first failure and returns that failure,
    or the record the slot values decode to.
-/

namespace OpL1Block

/-- A read the loader issues: `Database::basic` or `Database::storage`. -/
inductive Read where
  | basic (address : Address)
  | storage (address : Address) (index : U256)
  deriving DecidableEq, Repr

/-- What a read returns: an account for `basic`, a storage word for `storage`. -/
@[reducible]
def Read.Answer (α : Type) : Read → Type
  | .basic _ => Option α
  | .storage _ _ => U256

/-- A store behind `&mut DB` with state `σ`, error type `ε` (`DB::Error`) and account type `α`:
    each read may change the state and may fail. -/
structure Database (σ ε α : Type) where
  basic : Address → StateM σ (Except ε (Option α))
  storage : Address → U256 → StateM σ (Except ε U256)

variable {σ ε α : Type}

/-- The read `r` on the store `db`. -/
def Database.read (db : Database σ ε α) : (r : Read) → StateM σ (Except ε (r.Answer α))
  | .basic a => db.basic a
  | .storage a k => db.storage a k

section
variable (cancun : OpSpecId → Bool)

/-- `L1BlockInfo::try_fetch`.  Whether `spec_id.is_enabled_in(SpecId::CANCUN)` holds is decided
    by the mapping of Optimism versions to Ethereum ones, which is not in `l1block.rs`: the
    loader takes it as the parameter `cancun`. -/
def tryFetch (db : Database σ ε α) (specId : OpSpecId) : ExceptT ε (StateM σ) L1BlockInfo := do
  if cancun specId then
    let _ ← ExceptT.mk (db.basic l1BlockContract)
  let l1BaseFee ← ExceptT.mk (db.storage l1BlockContract l1BaseFeeSlot)
  if !specId.isEnabledIn .ecotone then
    let l1FeeOverhead ← ExceptT.mk (db.storage l1BlockContract l1OverheadSlot)
    let l1FeeScalar ← ExceptT.mk (db.storage l1BlockContract l1ScalarSlot)
    return { l1BaseFee, l1FeeOverhead := some l1FeeOverhead, l1BaseFeeScalar := l1FeeScalar }
  else
    let l1BlobBaseFee ← ExceptT.mk (db.storage l1BlockContract ecotoneL1BlobBaseFeeSlot)
    let l1FeeScalars :=
      U256.toBeBytes (← ExceptT.mk (db.storage l1BlockContract ecotoneL1FeeScalarsSlot))
    let l1BaseFeeScalar :=
      U256.fromBeSlice (slice l1FeeScalars baseFeeScalarOffset (baseFeeScalarOffset + 4))
    let l1BlobBaseFeeScalar :=
      U256.fromBeSlice (slice l1FeeScalars blobBaseFeeScalarOffset (blobBaseFeeScalarOffset + 4))
    -- Empty scalars: the first Ecotone block, which uses the Bedrock cost function.
    let emptyScalars := l1BlobBaseFee == 0 &&
      slice l1FeeScalars baseFeeScalarOffset (blobBaseFeeScalarOffset + 4) == OpL1Block.emptyScalars
    let l1FeeOverhead ← if emptyScalars then
        some <$> ExceptT.mk (db.storage l1BlockContract l1OverheadSlot)
      else pure none
    return { l1BaseFee, l1BaseFeeScalar, l1BlobBaseFee := some l1BlobBaseFee,
             l1BlobBaseFeeScalar := some l1BlobBaseFeeScalar, emptyScalars, l1FeeOverhead }

end

/-! ## Decoding the packed scalars -/

/-- A 4-byte window of a storage word, as the loader decodes it. -/
theorem fromBeSlice_window (w : U256) {i : ℕ} (h : i + 4 ≤ 32) :
    U256.fromBeSlice (slice w.toBeBytes i (i + 4)) =
      BitVec.ofNat 256 (w.toNat / 256 ^ (32 - (i + 4)) % 2 ^ 32) := by
  rw [U256.fromBeSlice, U256.toBeBytes, fromBeSlice_slice_toBeBytes _ h,
    show (256 : ℕ) ^ 4 = 2 ^ 32 by decide]

theorem decode_baseFeeScalar (w : U256) :
    U256.fromBeSlice (slice w.toBeBytes baseFeeScalarOffset (baseFeeScalarOffset + 4)) =
      BitVec.ofNat 256 (w.toNat / 2 ^ 96 % 2 ^ 32) :=
  fromBeSlice_window w (by decide)

theorem decode_blobBaseFeeScalar (w : U256) :
    U256.fromBeSlice (slice w.toBeBytes blobBaseFeeScalarOffset (blobBaseFeeScalarOffset + 4)) =
      BitVec.ofNat 256 (w.toNat / 2 ^ 64 % 2 ^ 32) :=
  fromBeSlice_window w (by decide)

/-- The empty-scalars check reads the two scalar windows together: it holds iff the blob base
    fee and both decoded scalars are zero. -/
theorem decode_emptyScalars (b w : U256) :
    (b == 0 && slice w.toBeBytes baseFeeScalarOffset (blobBaseFeeScalarOffset + 4) ==
      OpL1Block.emptyScalars) =
      decide (b = 0 ∧ w.toNat / 2 ^ 96 % 2 ^ 32 = 0 ∧ w.toNat / 2 ^ 64 % 2 ^ 32 = 0) := by
  have h := slice_toBeBytes (n := 32) w.toNat (i := 16) (k := 8) (by omega)
  simp only [U256.toBeBytes, baseFeeScalarOffset, blobBaseFeeScalarOffset] at h ⊢
  rw [h, OpL1Block.emptyScalars, Bool.eq_iff_iff]
  simp only [Bool.and_eq_true, beq_iff_eq, decide_eq_true_eq, toBeBytes_eq_replicate_zero,
    Nat.reduceAdd, Nat.reduceSub, Nat.reducePow, and_congr_right_iff]
  omega

/-- A word of the packed scalar slot, laid out as `l1block.rs` describes it: the 4-byte
    base-fee scalar at byte offset 16 (`BASE_FEE_SCALAR_OFFSET`), the 4-byte blob-base-fee
    scalar at offset 20 (`BLOB_BASE_FEE_SCALAR_OFFSET`), and any other bytes: the 8 bytes below
    them and the bytes `high` above. -/
def packScalars (high : ℕ) (baseFeeScalar blobBaseFeeScalar : UInt32) (sequenceNumber : UInt64) :
    U256 :=
  BitVec.ofNat 256 (high * 2 ^ 128 + baseFeeScalar.toNat * 2 ^ 96 +
    blobBaseFeeScalar.toNat * 2 ^ 64 + sequenceNumber.toNat)

/-- The two scalar windows of a packed word hold the two scalars, whatever its other bytes. -/
theorem packScalars_windows (high : ℕ) (a b : UInt32) (n : UInt64) :
    (packScalars high a b n).toNat / 2 ^ 96 % 2 ^ 32 = a.toNat ∧
      (packScalars high a b n).toNat / 2 ^ 64 % 2 ^ 32 = b.toNat := by
  have ha : a.toNat < 2 ^ 32 := a.toBitVec.isLt
  have hb : b.toNat < 2 ^ 32 := b.toBitVec.isLt
  have hn : n.toNat < 2 ^ 64 := n.toBitVec.isLt
  simp only [packScalars, BitVec.toNat_ofNat]
  omega

/-! ## A fixed chain state -/

/-- A chain state: the answer of the store to each read. -/
structure ChainState (ε α : Type) where
  basic : Address → Except ε (Option α)
  storage : Address → U256 → Except ε U256

namespace ChainState
variable (cs : ChainState ε α)

/-- The store of `cs` that serves each read from `cs` and records it. -/
def recording : Database (List Read) ε α where
  basic a := modifyGet fun log => (cs.basic a, log ++ [.basic a])
  storage a k := modifyGet fun log => (cs.storage a k, log ++ [.storage a k])

/-- The answer of `cs` to the read `r`. -/
def answer : (r : Read) → Except ε (r.Answer α)
  | .basic a => cs.basic a
  | .storage a k => cs.storage a k

/-- The recording store answers a read as `cs` does and appends it to the log. -/
theorem recording_read (r : Read) (log : List Read) :
    (cs.recording.read r).run log = (cs.answer r, log ++ [r]) := by
  cases r <;> rfl

/-- The error of a read, if the store fails it. -/
def error? : Read → Option ε
  | .basic a => match cs.basic a with
    | .ok _ => none
    | .error e => some e
  | .storage a k => match cs.storage a k with
    | .ok _ => none
    | .error e => some e

/-- The reads of a list the store serves: those up to and including the first that fails,
    with the error of that one. -/
def issue : List Read → List Read × Option ε
  | [] => ([], none)
  | r :: rs => match cs.error? r with
    | some e => ([r], some e)
    | none => (r :: (issue rs).1, (issue rs).2)

/-- What a load that plans the reads `plan` and builds `i` returns, from the log `log`: the
    reads the store serves, and the first failure or else `i`. -/
def outcome (plan : List Read) (i : L1BlockInfo) (log : List Read) :
    Except ε L1BlockInfo × List Read :=
  ((match (cs.issue plan).2 with
    | some e => .error e
    | none => .ok i), log ++ (cs.issue plan).1)

theorem outcome_nil (i : L1BlockInfo) (log : List Read) : cs.outcome [] i log = (.ok i, log) := by
  simp [outcome, issue]

/-- One read of the loader against the plan: a failure ends both, a success continues both. -/
theorem read_bind_outcome {r : Read} {f : r.Answer α → ExceptT ε (StateM (List Read)) L1BlockInfo}
    {rs : List Read} {i : L1BlockInfo} {log : List Read}
    (h : ∀ v, cs.answer r = .ok v → (f v).run (log ++ [r]) = cs.outcome rs i (log ++ [r])) :
    (ExceptT.mk (cs.recording.read r) >>= f).run log = cs.outcome (r :: rs) i log := by
  have he : cs.error? r = match cs.answer r with | .ok _ => none | .error e => some e := by
    cases r <;> simp only [error?, answer] <;> split <;> simp only [*]
  rw [ExceptT.run_bind, ExceptT.run_mk]
  show StateT.run (_ >>= _) log = _
  rw [StateT.run_bind, recording_read]
  cases ha : cs.answer r with
  | error e => simp [outcome, issue, he, ha]
  | ok v =>
    show (f v).run (log ++ [r]) = _
    rw [h v ha]
    simp [outcome, issue, he, ha]

/-- The value of a slot of the `L1Block` contract (`0` if its read fails). -/
def slot (k : U256) : U256 :=
  match cs.storage l1BlockContract k with
  | .ok v => v
  | .error _ => 0

theorem slot_of_ok {k v : U256} (h : cs.storage l1BlockContract k = .ok v) : cs.slot k = v := by
  simp [slot, h]

/-- The record the slot values stand for, before Ecotone or from it on: the base fee from
    slot 1; before Ecotone the overhead and scalar from slots 5 and 6; from Ecotone on the blob
    base fee from slot 7, the scalars from bits 96-127 and 64-95 of slot 3, and the overhead
    from slot 5 only when the blob base fee and both scalars are zero. -/
def decoded (ecotone : Bool) : L1BlockInfo :=
  if ecotone then
    let w := (cs.slot ecotoneL1FeeScalarsSlot).toNat
    let b := cs.slot ecotoneL1BlobBaseFeeSlot
    let empty := decide (b = 0 ∧ w / 2 ^ 96 % 2 ^ 32 = 0 ∧ w / 2 ^ 64 % 2 ^ 32 = 0)
    { l1BaseFee := cs.slot l1BaseFeeSlot
      l1BaseFeeScalar := BitVec.ofNat 256 (w / 2 ^ 96 % 2 ^ 32)
      l1BlobBaseFee := some b
      l1BlobBaseFeeScalar := some (BitVec.ofNat 256 (w / 2 ^ 64 % 2 ^ 32))
      emptyScalars := empty
      l1FeeOverhead := if empty then some (cs.slot l1OverheadSlot) else none }
  else
    { l1BaseFee := cs.slot l1BaseFeeSlot, l1FeeOverhead := some (cs.slot l1OverheadSlot)
      l1BaseFeeScalar := cs.slot l1ScalarSlot }

/-- `cs` with the answer `r` to the read of slot `k` of the `L1Block` contract. -/
def withSlot (k : U256) (r : Except ε U256) : ChainState ε α :=
  { cs with storage := fun a k' => if a = l1BlockContract ∧ k' = k then r else cs.storage a k' }

theorem issue_congr {cs' : ChainState ε α} (h : cs.error? = cs'.error?) (l : List Read) :
    cs.issue l = cs'.issue l := by
  induction l with
  | nil => rfl
  | cons r rs ih => simp only [issue, h, ih]

/-- Two successful answers to one slot fail the same reads. -/
theorem error?_withSlot_ok (k w w' : U256) :
    (cs.withSlot k (.ok w)).error? = (cs.withSlot k (.ok w')).error? := by
  funext r
  cases r with
  | basic a => rfl
  | storage a k' =>
    simp only [error?, withSlot]
    by_cases hk : a = l1BlockContract ∧ k' = k
    · rw [if_pos hk, if_pos hk]
    · rw [if_neg hk, if_neg hk]

theorem slot_withSlot_ok (k w k' : U256) :
    (cs.withSlot k (.ok w)).slot k' = if k' = k then w else cs.slot k' := by
  by_cases h : k' = k <;> simp [slot, withSlot, h]

end ChainState

/-- The reads of the loader in order: the account when Cancun is active, the base fee, then
    the legacy overhead and scalar before Ecotone, or the blob base fee and the packed scalars
    followed, for empty scalars, by the legacy overhead. -/
def fetchPlan (cancun ecotone empty : Bool) : List Read :=
  (if cancun then [.basic l1BlockContract] else []) ++
    .storage l1BlockContract l1BaseFeeSlot ::
      if ecotone then
        .storage l1BlockContract ecotoneL1BlobBaseFeeSlot ::
          .storage l1BlockContract ecotoneL1FeeScalarsSlot ::
            if empty then [.storage l1BlockContract l1OverheadSlot] else []
      else [.storage l1BlockContract l1OverheadSlot, .storage l1BlockContract l1ScalarSlot]

/-- **The loader on a chain state.**  It issues the planned reads up to the first failure and
    returns that failure unchanged, or, when every read succeeds, the record the slot values
    stand for. -/
theorem tryFetch_recording (cancun : OpSpecId → Bool) (cs : ChainState ε α) (s : OpSpecId)
    (log : List Read) :
    (tryFetch cancun cs.recording s).run log =
      cs.outcome (fetchPlan (cancun s) (s.isEnabledIn .ecotone) (cs.decoded true).emptyScalars)
        (cs.decoded (s.isEnabledIn .ecotone)) log := by
  unfold tryFetch fetchPlan
  cases cancun s <;>
    simp only [ite_true, ite_false, Bool.false_eq_true, bind_assoc, pure_bind, List.nil_append,
      List.singleton_append]
  on_goal 2 => refine cs.read_bind_outcome (r := .basic _) fun _ _ => ?_
  all_goals
    refine cs.read_bind_outcome (r := .storage _ _) fun v₁ h₁ => ?_
    cases s.isEnabledIn .ecotone
    · simp only [Bool.not_false, ite_true]
      refine cs.read_bind_outcome (r := .storage _ _) fun v₅ h₅ => ?_
      refine cs.read_bind_outcome (r := .storage _ _) fun v₆ h₆ => ?_
      rw [ExceptT.run_pure, cs.outcome_nil]
      simp [ChainState.decoded, cs.slot_of_ok h₁, cs.slot_of_ok h₅, cs.slot_of_ok h₆]
      rfl
    · simp only [Bool.not_true, Bool.false_eq_true, ite_false]
      refine cs.read_bind_outcome (r := .storage _ _) fun v₇ h₇ => ?_
      refine cs.read_bind_outcome (r := .storage _ _) fun v₃ h₃ => ?_
      simp only [decode_emptyScalars, decode_baseFeeScalar, decode_blobBaseFeeScalar,
        ChainState.decoded, ite_true, cs.slot_of_ok h₁, cs.slot_of_ok h₇, cs.slot_of_ok h₃]
      split
      · rw [map_eq_pure_bind, bind_assoc]
        refine cs.read_bind_outcome (r := .storage _ _) fun v₅ h₅ => ?_
        rw [pure_bind, ExceptT.run_pure, cs.outcome_nil]
        simp [cs.slot_of_ok h₅, *]
        rfl
      · rw [ExceptT.run_pure, cs.outcome_nil]
        simp [*]
        rfl

/-- The loader ignores the low 64 bits of the packed scalar slot (the sequence number): two
    words that agree above them load the same record through the same reads. -/
theorem tryFetch_sequenceNumber (cancun : OpSpecId → Bool) (cs : ChainState ε α) (s : OpSpecId)
    (log : List Read) {w w' : U256} (h : w.toNat / 2 ^ 64 = w'.toNat / 2 ^ 64) :
    (tryFetch cancun (cs.withSlot ecotoneL1FeeScalarsSlot (.ok w)).recording s).run log =
      (tryFetch cancun (cs.withSlot ecotoneL1FeeScalarsSlot (.ok w')).recording s).run log := by
  have h96 : w.toNat / 2 ^ 96 = w'.toNat / 2 ^ 96 := by omega
  have hdec : ∀ b, (cs.withSlot ecotoneL1FeeScalarsSlot (.ok w)).decoded b =
      (cs.withSlot ecotoneL1FeeScalarsSlot (.ok w')).decoded b := by
    intro b
    simp only [ChainState.decoded, ChainState.slot_withSlot_ok, h96, h, ite_true]
    simp [l1BaseFeeSlot, l1OverheadSlot, l1ScalarSlot, ecotoneL1BlobBaseFeeSlot,
      ecotoneL1FeeScalarsSlot]
  rw [tryFetch_recording, tryFetch_recording, hdec, hdec]
  simp only [ChainState.outcome, ChainState.issue_congr _ (ChainState.error?_withSlot_ok cs _ w w')]

/-- **`try_fetch` on every chain state.**  The reads, the error and the record of the load are
    those of the plan, the first failure and the decoded slot values; and the record does not
    depend on the sequence number packed with the scalars. -/
theorem tryFetch_spec (cancun : OpSpecId → Bool) (cs : ChainState ε α) (s : OpSpecId)
    (log : List Read) :
    (tryFetch cancun cs.recording s).run log =
      cs.outcome (fetchPlan (cancun s) (s.isEnabledIn .ecotone) (cs.decoded true).emptyScalars)
        (cs.decoded (s.isEnabledIn .ecotone)) log ∧
    ∀ w w' : U256, w.toNat / 2 ^ 64 = w'.toNat / 2 ^ 64 →
      (tryFetch cancun (cs.withSlot ecotoneL1FeeScalarsSlot (.ok w)).recording s).run log =
        (tryFetch cancun (cs.withSlot ecotoneL1FeeScalarsSlot (.ok w')).recording s).run log :=
  ⟨tryFetch_recording cancun cs s log, fun _ _ => tryFetch_sequenceNumber cancun cs s log⟩

end OpL1Block
