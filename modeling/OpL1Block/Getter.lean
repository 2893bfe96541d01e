import OpL1Block.Info

/-!
  `L1BlockInfoGetter`: how an execution context gives the fee code its
  `L1BlockInfo`.  A mutable borrow `&mut L1BlockInfo` is the borrowed value with
  the function that returns the context holding a new value, the backward
  function of the borrow.

  * `Context.getter`: the context lends its `chain` field;
  * `InspectorContext.getter`: the inspector context forwards to the context it
    wraps;
  * `L1BlockInfoGetter.Lawful`: the borrow lends what `l1_block_info` reads,
    giving back the lent value changes nothing, and the value given back is
    what is read next.  Both implementations are lawful, the forwarding one
    whenever the inner one is (`InspectorContext.getter_lawful`), and through
    an inspector the record read is the inner context's.
-/

namespace OpL1Block

/-- `L1BlockInfoGetter`: `l1_block_info` and `l1_block_info_mut` on a context `C`. -/
structure L1BlockInfoGetter (C : Type) where
  l1BlockInfo : C → L1BlockInfo
  l1BlockInfoMut : C → L1BlockInfo × (L1BlockInfo → C)

/-- A getter whose borrow is a borrow of the record it reads. -/
structure L1BlockInfoGetter.Lawful {C : Type} (g : L1BlockInfoGetter C) : Prop where
  mut_fst : ∀ c, (g.l1BlockInfoMut c).1 = g.l1BlockInfo c
  back_self : ∀ c, (g.l1BlockInfoMut c).2 (g.l1BlockInfo c) = c
  get_back : ∀ c v, g.l1BlockInfo ((g.l1BlockInfoMut c).2 v) = v

/-- `Context` with `L1BlockInfo` as its chain component; its block, transaction, spec, database
    and journal are one part `rest`, which the getter does not touch. -/
structure Context (Rest : Type) where
  rest : Rest
  chain : L1BlockInfo

/-- `impl L1BlockInfoGetter for Context`: `&self.chain` and `&mut self.chain`. -/
def Context.getter {Rest : Type} : L1BlockInfoGetter (Context Rest) where
  l1BlockInfo c := c.chain
  l1BlockInfoMut c := (c.chain, fun v => { c with chain := v })

theorem Context.lawful_getter {Rest : Type} : (@Context.getter Rest).Lawful :=
  ⟨fun _ => rfl, fun _ => rfl, fun _ _ => rfl⟩

/-- `InspectorContext`: an inspector around an inner context. -/
structure InspectorContext (Insp Ctx : Type) where
  inspector : Insp
  inner : Ctx

/-- `impl L1BlockInfoGetter for InspectorContext`: `self.inner.l1_block_info()` and
    `self.inner.l1_block_info_mut()`. -/
def InspectorContext.getter {Insp Ctx : Type} (g : L1BlockInfoGetter Ctx) :
    L1BlockInfoGetter (InspectorContext Insp Ctx) where
  l1BlockInfo c := g.l1BlockInfo c.inner
  l1BlockInfoMut c :=
    ((g.l1BlockInfoMut c.inner).1, fun v => { c with inner := (g.l1BlockInfoMut c.inner).2 v })

/-- Forwarding keeps a getter lawful. -/
theorem InspectorContext.getter_lawful {Insp Ctx : Type} {g : L1BlockInfoGetter Ctx}
    (hg : g.Lawful) : (@InspectorContext.getter Insp Ctx g).Lawful where
  mut_fst c := hg.mut_fst c.inner
  back_self c := by simp [InspectorContext.getter, hg.back_self]
  get_back c v := hg.get_back c.inner v

theorem InspectorContext.getter_lawful_context :
    (@Context.getter Unit).Lawful ∧
      (@InspectorContext.getter Unit (Context Unit) Context.getter).Lawful :=
  ⟨Context.lawful_getter, InspectorContext.getter_lawful Context.lawful_getter⟩

end OpL1Block
