import OpL1Block.Pipeline

/-!
  `L1BlockInfo::try_fetch` over any store.

  The loader is generic over its `Database`: the node runs it over stores that cache,
  count or journal what they serve, so a store's state changes as it answers.  What
  the loader returns depends only on the answers to the six reads it can issue, the
  account of the `L1Block` contract and five of its slots, never on the store's state.

  * `LoadAgree`: two loads agree under a relation of their stores' states when, from
    related states, they return the same result and end in related states; `bind`,
    `pure`, `if` and `<$>` keep it, so two loads written as one do-block agree as soon
    as their reads do (`tryFetch_agree`);
  * `tryFetch_serves`: over every store that answers as a chain state from the states
    an invariant holds in, with a log of its reads, the loader issues the planned
    reads and returns the failure or record the chain state stands for, and keeps
    the invariant;
  * `tryFetch_frame`: two chain states that answer the six reads alike load the same
    record through the same reads.
-/

namespace OpL1Block

variable {σ τ ε α β γ : Type}

/-- Two loads over stores with states `σ` and `τ` agree under a relation `R` of the states when,
    from related states, they return the same result and end in related states. -/
def LoadAgree (R : σ → τ → Prop) (p : ExceptT ε (StateM σ) β) (q : ExceptT ε (StateM τ) β) :
    Prop :=
  ∀ s t, R s t → (p.run.run s).1 = (q.run.run t).1 ∧ R (p.run.run s).2 (q.run.run t).2

namespace LoadAgree
variable {R : σ → τ → Prop}

theorem pure (x : β) : LoadAgree R (ε := ε) (Pure.pure x) (Pure.pure x) :=
  fun _ _ h => ⟨rfl, h⟩

/-- A failure ends both loads with the same error; a success passes the same value on. -/
theorem bind {p : ExceptT ε (StateM σ) β} {q : ExceptT ε (StateM τ) β}
    {f : β → ExceptT ε (StateM σ) γ} {g : β → ExceptT ε (StateM τ) γ}
    (hp : LoadAgree R p q) (hf : ∀ v, LoadAgree R (f v) (g v)) :
    LoadAgree R (p >>= f) (q >>= g) := by
  intro s t hst
  obtain ⟨h₁, h₂⟩ := hp s t hst
  rw [ExceptT.run_bind, ExceptT.run_bind, StateT.run_bind, StateT.run_bind]
  revert h₁ h₂
  rcases p.run.run s with ⟨r, s'⟩
  rcases q.run.run t with ⟨r', t'⟩
  rintro rfl h₂
  cases r with
  | error e => exact ⟨rfl, h₂⟩
  | ok v => exact hf v s' t' h₂

theorem ite (c : Prop) [Decidable c] {p₁ p₂ : ExceptT ε (StateM σ) β}
    {q₁ q₂ : ExceptT ε (StateM τ) β} (h₁ : LoadAgree R p₁ q₁) (h₂ : LoadAgree R p₂ q₂) :
    LoadAgree R (if c then p₁ else p₂) (if c then q₁ else q₂) := by
  split <;> assumption

theorem map (f : β → γ) {p : ExceptT ε (StateM σ) β} {q : ExceptT ε (StateM τ) β}
    (h : LoadAgree R p q) : LoadAgree R (f <$> p) (f <$> q) := by
  rw [map_eq_pure_bind, map_eq_pure_bind]
  exact h.bind fun v => pure (f v)

end LoadAgree

/-- The slots of the `L1Block` contract the loader can read. -/
def l1BlockSlots : List U256 :=
  [l1BaseFeeSlot, l1OverheadSlot, l1ScalarSlot, ecotoneL1BlobBaseFeeSlot, ecotoneL1FeeScalarsSlot]

/-- Two stores whose answers to the account read and to the slot reads of the `L1Block`
    contract agree make the loader agree, in every version. -/
theorem tryFetch_agree {db₁ : Database σ ε α} {db₂ : Database τ ε α} {R : σ → τ → Prop}
    (hb : LoadAgree R (ExceptT.mk (db₁.basic l1BlockContract))
      (ExceptT.mk (db₂.basic l1BlockContract)))
    (hs : ∀ k ∈ l1BlockSlots, LoadAgree R (ExceptT.mk (db₁.storage l1BlockContract k))
      (ExceptT.mk (db₂.storage l1BlockContract k)))
    (cancun : OpSpecId → Bool) (s : OpSpecId) :
    LoadAgree R (tryFetch cancun db₁ s) (tryFetch cancun db₂ s) := by
  unfold tryFetch
  dsimp only
  repeat' first
    | with_reducible apply LoadAgree.bind
    | with_reducible apply LoadAgree.ite
    | with_reducible apply LoadAgree.map
    | with_reducible exact LoadAgree.pure _
    | with_reducible exact hb
    | with_reducible exact hs _ (by simp [l1BlockSlots])
    | intro _

/-! ## Stores that serve a chain state -/

/-- `db` with a log of the reads it serves: each read goes to `db` and is appended to the log. -/
def Database.logged (db : Database σ ε α) : Database (σ × List Read) ε α where
  basic a := fun p => let r := (db.basic a).run p.1; (r.1, r.2, p.2 ++ [.basic a])
  storage a k := fun p => let r := (db.storage a k).run p.1; (r.1, r.2, p.2 ++ [.storage a k])

/-- The logged store serves a read from `db` and appends it to the log. -/
theorem Database.logged_read (db : Database σ ε α) (r : Read) (p : σ × List Read) :
    (db.logged.read r).run p =
      (((db.read r).run p.1).1, ((db.read r).run p.1).2, p.2 ++ [r]) := by
  cases r <;> rfl

/-- `db` serves `cs` from the states `inv` holds in: there it answers every read as `cs` does and
    keeps `inv`, whatever else it does to its state. -/
structure Database.Serves (db : Database σ ε α) (cs : ChainState ε α) (inv : σ → Prop) :
    Prop where
  basic : ∀ a st, inv st → ((db.basic a).run st).1 = cs.basic a ∧ inv ((db.basic a).run st).2
  storage : ∀ a k st, inv st →
    ((db.storage a k).run st).1 = cs.storage a k ∧ inv ((db.storage a k).run st).2

namespace Database.Serves
variable {db : Database σ ε α} {cs : ChainState ε α} {inv : σ → Prop}

/-- A serving store answers every read as `cs` does and keeps `inv`. -/
theorem read_answer (h : db.Serves cs inv) (r : Read) {st : σ} (hst : inv st) :
    ((db.read r).run st).1 = cs.answer r ∧ inv ((db.read r).run st).2 := by
  cases r with
  | basic a => exact h.basic a st hst
  | storage a k => exact h.storage a k st hst

theorem read_agree (h : db.Serves cs inv) (r : Read) :
    LoadAgree (fun p log => inv p.1 ∧ p.2 = log) (ExceptT.mk (db.logged.read r))
      (ExceptT.mk (cs.recording.read r)) := by
  rintro ⟨st, log⟩ _ ⟨hst, rfl⟩
  simp only [ExceptT.run_mk, db.logged_read, cs.recording_read]
  exact ⟨(h.read_answer r hst).1, (h.read_answer r hst).2, trivial⟩

end Database.Serves

/-- **`try_fetch` over a store that serves a chain state.**  From every state the invariant holds
    in, the loader over the logged store issues the planned reads up to the first failure and
    returns that failure or the record the slot values stand for, exactly as over the chain
    state itself, and leaves the store in a state the invariant holds in. -/
theorem tryFetch_serves {db : Database σ ε α} {cs : ChainState ε α} {inv : σ → Prop}
    (h : db.Serves cs inv) (cancun : OpSpecId → Bool) (s : OpSpecId) {st : σ} (hst : inv st)
    (log : List Read) :
    cs.outcome (fetchPlan (cancun s) (s.isEnabledIn .ecotone) (cs.decoded true).emptyScalars)
        (cs.decoded (s.isEnabledIn .ecotone)) log =
      (((tryFetch cancun db.logged s).run (st, log)).1,
        ((tryFetch cancun db.logged s).run (st, log)).2.2) ∧
    inv ((tryFetch cancun db.logged s).run (st, log)).2.1 := by
  obtain ⟨h₁, h₂, h₃⟩ := tryFetch_agree (h.read_agree (.basic _))
    (fun k _ => h.read_agree (.storage _ k)) cancun s (st, log) log ⟨hst, rfl⟩
  rw [← tryFetch_recording]
  exact ⟨Prod.ext h₁.symm h₃.symm, h₂⟩

namespace ChainState

/-- `cs` behind a cache of storage slots: a cached slot is served from the cache, any other read
    from `cs`, and a slot read that succeeds is cached. -/
def caching (cs : ChainState ε α) : Database (List ((Address × U256) × U256)) ε α where
  basic a := pure (cs.basic a)
  storage a k := fun c =>
    match c.lookup (a, k) with
    | some v => (.ok v, c)
    | none => match cs.storage a k with
      | .ok v => (.ok v, ((a, k), v) :: c)
      | .error e => (.error e, c)

/-- Every cached slot holds the value `cs` has there. -/
def Cached (cs : ChainState ε α) (c : List ((Address × U256) × U256)) : Prop :=
  ∀ a k v, c.lookup (a, k) = some v → cs.storage a k = .ok v

theorem cached_nil (cs : ChainState ε α) : cs.Cached [] := by
  intro _ _ _ h
  cases h

/-- Caching a value `cs` has keeps the cache consistent. -/
theorem Cached.cons {cs : ChainState ε α} {c : List ((Address × U256) × U256)} (hc : cs.Cached c)
    {a : Address} {k v : U256} (hv : cs.storage a k = .ok v) : cs.Cached (((a, k), v) :: c) := by
  intro a' k' v' h'
  simp only [List.lookup_cons] at h'
  split at h'
  · next heq =>
    obtain ⟨rfl, rfl⟩ : a' = a ∧ k' = k := by simpa using heq
    rw [hv, Option.some.inj h']
  · exact hc a' k' v' h'

/-- The cache serves `cs` from every consistent cache, and stays consistent. -/
theorem caching_serves (cs : ChainState ε α) : cs.caching.Serves cs cs.Cached := by
  refine ⟨fun a c hc => ⟨rfl, hc⟩, fun a k c hc => ?_⟩
  show (cs.caching.storage a k c).1 = _ ∧ cs.Cached (cs.caching.storage a k c).2
  unfold caching
  dsimp only
  split
  · next v hv => exact ⟨(hc a k v hv).symm, hc⟩
  split
  · next v hv => exact ⟨hv.symm, hc.cons hv⟩
  · next e he => exact ⟨he.symm, hc⟩

end ChainState

theorem tryFetch_serves_caching :
    firstEcotoneBlock.caching.Serves firstEcotoneBlock firstEcotoneBlock.Cached ∧
      firstEcotoneBlock.Cached [] ∧
      (firstEcotoneBlock.outcome
          (fetchPlan true (OpSpecId.ecotone.isEnabledIn .ecotone)
            (firstEcotoneBlock.decoded true).emptyScalars)
          (firstEcotoneBlock.decoded (OpSpecId.ecotone.isEnabledIn .ecotone)) [] =
        (((tryFetch (fun _ => true) firstEcotoneBlock.caching.logged .ecotone).run ([], [])).1,
          ((tryFetch (fun _ => true) firstEcotoneBlock.caching.logged .ecotone).run
            ([], [])).2.2) ∧
      firstEcotoneBlock.Cached
        ((tryFetch (fun _ => true) firstEcotoneBlock.caching.logged .ecotone).run ([], [])).2.1) :=
  ⟨firstEcotoneBlock.caching_serves, firstEcotoneBlock.cached_nil,
    tryFetch_serves firstEcotoneBlock.caching_serves (fun _ => true) .ecotone
      firstEcotoneBlock.cached_nil []⟩

/-! ## What the loader never reads -/

/-- `cs` and `cs'` answer alike every read the loader can issue: the account of the `L1Block`
    contract and its slots 1, 3, 5, 6 and 7. -/
structure ChainState.AgreeOnL1Block (cs cs' : ChainState ε α) : Prop where
  basic : cs.basic l1BlockContract = cs'.basic l1BlockContract
  storage : ∀ k ∈ l1BlockSlots, cs.storage l1BlockContract k = cs'.storage l1BlockContract k

namespace ChainState
variable {cs cs' : ChainState ε α}

theorem recording_read_agree {r : Read} (h : cs.answer r = cs'.answer r) :
    LoadAgree Eq (ExceptT.mk (cs.recording.read r)) (ExceptT.mk (cs'.recording.read r)) := by
  rintro log _ rfl
  simp [cs.recording_read, cs'.recording_read, h]

/-- Changing the answer to a slot the loader never reads keeps the chain state's loads. -/
theorem agreeOnL1Block_withSlot (cs : ChainState ε α) {k : U256} (hk : k ∉ l1BlockSlots)
    (r : Except ε U256) : cs.AgreeOnL1Block (cs.withSlot k r) := by
  refine ⟨rfl, fun k' hk' => ?_⟩
  have hne : k' ≠ k := fun h => hk (h ▸ hk')
  simp [withSlot, hne]

end ChainState

/-- **The loader reads nothing else.**  Two chain states that answer the account read and the
    five slot reads of the `L1Block` contract alike load the same record, or fail with the same
    error, through the same reads, whatever they hold anywhere else. -/
theorem tryFetch_frame {cs cs' : ChainState ε α} (h : cs.AgreeOnL1Block cs')
    (cancun : OpSpecId → Bool) (s : OpSpecId) (log : List Read) :
    (tryFetch cancun cs.recording s).run log = (tryFetch cancun cs'.recording s).run log := by
  obtain ⟨h₁, h₂⟩ := tryFetch_agree (ChainState.recording_read_agree (r := .basic _) h.basic)
    (fun k hk => ChainState.recording_read_agree (r := .storage _ k) (h.storage k hk))
    cancun s log log rfl
  exact Prod.ext h₁ h₂

theorem tryFetch_frame_withSlot :
    firstEcotoneBlock.AgreeOnL1Block (firstEcotoneBlock.withSlot 2 (.error ())) ∧
      (tryFetch (fun _ => true) firstEcotoneBlock.recording .ecotone).run [] =
        (tryFetch (fun _ => true) (firstEcotoneBlock.withSlot 2 (.error ())).recording
          .ecotone).run [] :=
  ⟨firstEcotoneBlock.agreeOnL1Block_withSlot (by decide) _,
    tryFetch_frame (firstEcotoneBlock.agreeOnL1Block_withSlot (by decide) _) _ _ _⟩

end OpL1Block
