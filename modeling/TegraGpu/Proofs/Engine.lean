import Mathlib
import TegraGpu.Raster.Engine
import TegraGpu.Proofs.Surface
/-!
# The 3D engine: the views it holds

The engine holds a view in each attribute slot that has a buffer and in each render target slot
that has a surface.  Putting a buffer or a surface into a slot takes the caller's reference and
gives back the one the slot held; resetting the engine gives back all of them.  Drawing maps
each buffer for the time it reads or writes it, so it keeps the ledger of the machine.

* `slotViews`, `slotViews_set` : the views of an array of slots, and what setting a slot does
  to them.
* `Engine.views`, `Engine.Shaped` : the views of the engine, and the sixteen slots of each
  kind that every engine has.
* `keeps_ledger_fetch`, `keeps_ledger_prepare`, `keeps_ledger_readIndices`,
  `keeps_ledger_rasterizeInto`, `keeps_ledger_drawTarget`, `keeps_ledger_draw` : reading
  attributes and indices, and drawing, keep the ledger.
* `Engine.setPointer_good`, `Engine.bindTarget_good`, `Engine.release_good` : what the calls
  that move views do to the accounts of the stores.
-/

namespace TegraGpu

open Buffer Exec Act Surface

namespace Raster

variable {B : Machine → Prop} {vs ms : Multiset View}

/-! ### Drawing keeps the ledger -/

theorem keeps_ledger_fetch (e : Engine) (loc : Nat) : Keeps Machine.ledger (e.fetch loc) := by
  unfold Engine.fetch
  refine Keeps.bind (keeps_ofExcept _) fun slot => Keeps.ite (Keeps.pure _) ?_
  split
  · exact Keeps.throw _
  · exact (keeps_ledger_withMap _ (Keeps.get.bind fun _ => Keeps.pure _)).bind fun _ =>
      Keeps.pure _

theorem keeps_ledger_readIndices (v : View) (width : IndexWidth) (count : Nat) :
    Keeps Machine.ledger (Engine.readIndices v width count) := by
  unfold Engine.readIndices
  dsimp only
  refine Keeps.ite (Keeps.throw_bind _) (Keeps.ite (Keeps.throw_bind _) ?_)
  exact (keeps_ledger_withMap v (Keeps.get.bind fun _ => Keeps.pure _)).bind fun _ =>
    Keeps.pure _

theorem keeps_ledger_rasterizeInto (clip : Clip) (s : Surface) (tris : List (Vertex × Vertex × Vertex)) :
    Keeps Machine.ledger (Engine.rasterizeInto clip s tris) := by
  unfold Engine.rasterizeInto
  refine (keeps_ledger_withMap s.view (keeps_ledger_modifyStorage s.view _ _)).bind fun r => ?_
  exact (Keeps.forIn_array _ _ fun _ _ => (keeps_ledger_emit _).bind fun _ => Keeps.pure _).bind
    fun _ => Keeps.pure _

theorem keeps_ledger_prepare (e : Engine) (prim : Primitive) :
    Keeps Machine.ledger (e.prepare prim) := by
  unfold Engine.prepare
  dsimp only
  repeat' first
    | with_reducible exact Keeps.throw_bind _
    | with_reducible exact Keeps.throw _
    | with_reducible exact Keeps.pure _
    | with_reducible exact keeps_ledger_fetch e _
    | with_reducible refine Keeps.bind ?_ fun _ => ?_
    | with_reducible refine Keeps.ite ?_ ?_
    | split

theorem keeps_ledger_vertexOf (e : Engine) (positions : Array Engine.Vec4)
    (colors : Option (Array Engine.Vec4)) (i : Nat) :
    Keeps Machine.ledger (e.vertexOf positions colors i) := by
  unfold Engine.vertexOf
  dsimp only
  repeat' first
    | with_reducible exact Keeps.throw_bind _
    | with_reducible exact Keeps.pure _
    | with_reducible refine Keeps.bind ?_ fun _ => ?_
    | split

theorem keeps_ledger_drawTarget (e : Engine) (clip : Clip)
    (tris : List (Vertex × Vertex × Vertex)) (slot : Nat) :
    Keeps Machine.ledger (e.drawTarget clip tris slot) := by
  unfold Engine.drawTarget
  repeat' first
    | with_reducible exact Keeps.pure _
    | with_reducible exact keeps_ledger_note _ _ _
    | with_reducible exact keeps_ledger_rasterizeInto _ _ _
    | with_reducible exact keeps_ledger_viewInvalidate _ _
    | with_reducible refine Keeps.bind ?_ fun _ => ?_
    | with_reducible refine Keeps.ite ?_ ?_
    | split

/-- **Drawing keeps the ledger.**  Every step of a draw either fails with nothing changed,
computes a pure value, writes a record, or reads or writes a buffer under a mapping of its own. -/
theorem keeps_ledger_draw (e : Engine) (prim : Primitive) (v : View) (width : IndexWidth)
    (count : Nat) : Keeps Machine.ledger (e.draw prim v width count) := by
  unfold Engine.draw
  dsimp only
  -- a chain of checks and reads, each step one of the operations above or a pure value: the
  -- steps are taken apart in order, matching on the shape of each, with no unfolding
  repeat' first
    | with_reducible exact Keeps.throw_bind _
    | with_reducible exact Keeps.throw _
    | with_reducible exact Keeps.pure _
    | with_reducible exact keeps_ledger_prepare e prim
    | with_reducible exact keeps_ledger_readIndices v width count
    | with_reducible exact keeps_ledger_note _ _ _
    | with_reducible exact keeps_ledger_vertexOf e _ _ _
    | with_reducible exact keeps_ledger_drawTarget e _ _ _
    | with_reducible refine Keeps.mapM_list _ fun _ => ?_
    | with_reducible refine Keeps.forIn_list _ _ fun _ _ => ?_
    | with_reducible refine Keeps.bind ?_ fun _ => ?_

/-! ### The views held in slots -/

/-- The views held in an array of slots, slot by slot. -/
def slotViews {δ : Type} (g : δ → View) (a : Array (Option δ)) : Multiset View :=
  ((a.toList.filterMap fun o => o.map g : List View) : Multiset View)

/-- Setting a slot puts the new view in the place of the one the slot held. -/
theorem slotViews_set {δ : Type} (g : δ → View) {a : Array (Option δ)} {i : Nat}
    (hi : i < a.size) (x : Option δ) :
    slotViews g (a.set! i x) + ((a[i].map g).toList : Multiset View) =
      ((x.map g).toList : Multiset View) + slotViews g a := by
  have hi' : i < a.toList.length := by simpa using hi
  have hsplit : a.toList = a.toList.take i ++ a[i] :: a.toList.drop (i + 1) := by
    rw [← Array.getElem_toList hi, List.getElem_cons_drop, List.take_append_drop]
  unfold slotViews
  rw [Array.set!_eq_setIfInBounds, Array.toList_setIfInBounds, List.set_eq_take_cons_drop _ hi']
  conv_rhs => rw [hsplit]
  -- both sides are the slots before `i`, the slots after it, the old and the new view
  cases x <;> cases a[i] <;>
    simp only [List.filterMap_append, List.filterMap_cons, Option.map_none, Option.map_some,
      Option.toList_none, Option.toList_some, ← Multiset.coe_add, ← Multiset.cons_coe,
      Multiset.coe_nil, ← Multiset.singleton_add, add_zero, zero_add] <;>
    abel

/-! ### The views of the engine -/

namespace Engine

/-- The views the engine holds: its attribute buffers, then its render targets' surfaces. -/
def views (e : Engine) : Multiset View :=
  slotViews Pointer.view e.pointers + slotViews (fun t => t.surface.view) e.targets

/-- Every engine has all its slots. -/
structure Shaped (e : Engine) : Prop where
  /-- The attribute slots. -/
  pointers : e.pointers.size = attribSlots
  /-- The render target slots. -/
  targets : e.targets.size = targetSlots

theorem shaped_initial : ({} : Engine).Shaped :=
  ⟨Array.size_replicate, Array.size_replicate⟩

theorem views_initial : ({} : Engine).views = 0 := by
  simp [views, slotViews]

/-- The slot of an accepted attribute location is one of the slots. -/
theorem lt_of_attribSlot {loc slot : Nat} (h : attribSlot loc = .ok slot) : slot < attribSlots := by
  unfold attribSlot at h
  split at h
  · cases h
    assumption
  · cases h

theorem lt_of_targetSlot {s i : Nat} (h : targetSlot s = .ok i) : i < targetSlots := by
  unfold targetSlot at h
  split at h
  · cases h
    assumption
  · cases h

/-- A buffer put into an attribute slot takes the place of the slot's old one. -/
theorem views_setPointer {e : Engine} {i : Nat} (hlt : i < e.pointers.size) (p : Pointer) :
    ({ e with pointers := e.pointers.set! i (some p) } : Engine).views +
      ((e.pointers[i].map Pointer.view).toList : Multiset View) = p.view ::ₘ e.views := by
  have hset := slotViews_set Pointer.view hlt (some p)
  simp only [Option.map_some, Option.toList_some, Multiset.coe_singleton] at hset
  calc _ = (slotViews Pointer.view (e.pointers.set! i (some p)) +
          ((e.pointers[i].map Pointer.view).toList : Multiset View)) +
        slotViews (fun t => t.surface.view) e.targets := by
        rw [views]
        abel
    _ = _ := by
        rw [hset, views, Multiset.singleton_add, Multiset.cons_add]

/-- A surface put into a render target slot takes the place of the slot's old one. -/
theorem views_setTarget {e : Engine} {i : Nat} (hlt : i < e.targets.size) (t : Target) :
    ({ e with targets := e.targets.set! i (some t) } : Engine).views +
      ((e.targets[i].map fun t => t.surface.view).toList : Multiset View) =
        t.surface.view ::ₘ e.views := by
  have hset := slotViews_set (fun t : Target => t.surface.view) hlt (some t)
  simp only [Option.map_some, Option.toList_some, Multiset.coe_singleton] at hset
  calc _ = slotViews Pointer.view e.pointers + (slotViews (fun t => t.surface.view)
          (e.targets.set! i (some t)) +
        ((e.targets[i].map fun t => t.surface.view).toList : Multiset View)) := by
        rw [views]
        abel
    _ = _ := by
        rw [hset, views, ← Multiset.singleton_add]
        abel

/-- Changing the flag of a render target keeps the engine's views. -/
theorem views_setTarget_of_surface {e : Engine} {i : Nat} (hlt : i < e.targets.size)
    {t t' : Target} (ht : e.targets[i] = some t) (hs : t'.surface = t.surface) :
    ({ e with targets := e.targets.set! i (some t') } : Engine).views = e.views := by
  have hv := views_setTarget hlt t'
  rw [ht, hs] at hv
  simp only [Option.map_some, Option.toList_some, Multiset.coe_singleton,
    ← Multiset.singleton_add] at hv
  rw [add_comm] at hv
  exact add_left_cancel hv

/-- An update of the engine that keeps its views and the number of its slots. -/
def Steady (f : Engine → Except Error Engine) : Prop :=
  ∀ e e', f e = .ok e' → e'.views = e.views ∧ e'.pointers.size = e.pointers.size ∧
    e'.targets.size = e.targets.size

theorem steady_setAttribEnabled (loc : Nat) (on : Bool) :
    Steady fun e => e.setAttribEnabled loc on := by
  intro e e' h
  unfold setAttribEnabled at h
  cases hs : attribSlot loc with
  | error err => rw [hs] at h; cases h
  | ok slot =>
    rw [hs] at h
    cases h
    exact ⟨rfl, rfl, rfl⟩

theorem steady_setVertexUniform (loc : Nat) (values : List Binary32.Single) :
    Steady fun e => e.setVertexUniform loc values := by
  intro e e' h
  unfold setVertexUniform at h
  dsimp only at h
  cases hs : storeUniform e.vsUniforms .vertexUniform loc (loc * 4) values with
  | error err => rw [hs] at h; cases h
  | ok f =>
    rw [hs] at h
    cases h
    exact ⟨rfl, rfl, rfl⟩

theorem steady_setFragmentUniform (loc : Nat) (values : List Binary32.Single) :
    Steady fun e => e.setFragmentUniform loc values := by
  intro e e' h
  unfold setFragmentUniform at h
  dsimp only at h
  cases hs : storeUniform e.fsUniforms .fragmentUniform loc loc values with
  | error err => rw [hs] at h; cases h
  | ok f =>
    rw [hs] at h
    cases h
    exact ⟨rfl, rfl, rfl⟩

/-- Enabling or disabling a render target keeps the surface it holds. -/
theorem steady_setTargetEnabled (slot : Nat) (on : Bool) :
    Steady fun e => if on then e.enableTarget slot else e.disableTarget slot := by
  intro e e' h
  -- a slot that holds a target keeps its surface, whatever its flag becomes
  have hflag : ∀ i (t : Target) (b : Bool), e.targets[i]?.join = some t →
      let e₁ : Engine := { e with targets := e.targets.set! i (some { t with enabled := b }) }
      e₁.views = e.views ∧ e₁.pointers.size = e.pointers.size ∧
        e₁.targets.size = e.targets.size := by
    intro i t b ht e₁
    by_cases hlt : i < e.targets.size
    · rw [Array.getElem?_eq_getElem hlt, Option.join_some] at ht
      exact ⟨views_setTarget_of_surface hlt ht rfl, rfl, by simp [e₁]⟩
    · simp [Array.getElem?_eq_none (Nat.le_of_not_lt hlt)] at ht
  cases on with
  | true =>
    simp only [↓reduceIte] at h
    unfold enableTarget at h
    dsimp only [bind, Except.bind] at h
    split at h
    · cases h
    · split at h
      · next ht =>
        cases h
        exact hflag _ _ true ht
      · cases h
  | false =>
    simp only [Bool.false_eq_true, ↓reduceIte] at h
    unfold disableTarget at h
    dsimp only [bind, Except.bind] at h
    split at h
    · cases h
    · split at h
      · next ht =>
        cases h
        exact hflag _ _ false ht
      · cases h
        exact ⟨rfl, rfl, rfl⟩

theorem setPointer_good (hB : Kept B) {e : Engine} (he : e.Shaped) (loc size : Nat) (v : View) :
    Triple (Good B (v ::ₘ (e.views + vs)) ms) (e.setPointer loc size v)
      (fun e' m => e'.Shaped ∧ Good B (e'.views + vs) ms m) (Good B (e.views + vs) ms) := by
  unfold setPointer
  dsimp only
  split
  · -- a refused slot or size: the view goes back before the failure
    exact Triple.bind (release_good hB v).never_fails
      fun _ => Triple.throw _ fun _ h => h
  · next slot hslot =>
    have hlt : slot < e.pointers.size := by
      rw [he.pointers]
      cases h : attribSlot loc with
      | error err => rw [h] at hslot; cases hslot
      | ok s =>
        rw [h] at hslot
        dsimp only [bind, Except.bind] at hslot
        split at hslot
        · cases hslot
        · cases hslot
          exact lt_of_attribSlot h
    -- the new buffer takes the place of the slot's old one, which goes back
    let e' : Engine := { e with pointers := e.pointers.set! slot (some ⟨size, v⟩) }
    have hshaped : e'.Shaped := ⟨by simp [e', he.pointers], he.targets⟩
    have hviews : v ::ₘ (e.views + vs) =
        ((e.pointers[slot]?.join.map Pointer.view).toList : Multiset View) + (e'.views + vs) := by
      rw [Array.getElem?_eq_getElem hlt, Option.join_some, ← Multiset.cons_add,
        ← views_setPointer hlt ⟨size, v⟩]
      abel
    split
    · next p hp =>
      rw [hp] at hviews
      simp only [Option.map_some, Option.toList_some, Multiset.coe_singleton,
        Multiset.singleton_add] at hviews
      refine Triple.bind ((release_good hB p.view).mono (fun _ h => ?_) (fun _ _ h => h)
        fun _ h => h.elim) fun _ => Triple.pure _ fun _ h => ⟨hshaped, h⟩
      rw [hviews] at h
      exact h
    · next hp =>
      rw [hp] at hviews
      simp only [Option.map_none, Option.toList_none, Multiset.coe_nil, zero_add] at hviews
      exact Triple.pure _ fun _ h => ⟨hshaped, by rw [hviews] at h; exact h⟩

theorem bindTarget_good (hB : Kept B) {e : Engine} (he : e.Shaped) (slot : Nat) (s : Surface) :
    Triple (Good B (s.view ::ₘ (e.views + vs)) ms) (e.bindTarget slot s)
      (fun r m => r.1.Shaped ∧
        Good B (((r.2.map Surface.view).toList : Multiset View) + (r.1.views + vs)) ms m)
      (Good B (e.views + vs) ms) := by
  unfold bindTarget
  split
  · -- a refused slot: the surface goes back before the failure
    exact Triple.bind ((release_good hB s.view).mono (fun _ h => h) (fun _ _ h => h)
      fun _ h => h.elim) fun _ => Triple.throw _ fun _ h => h
  · next i hi =>
    have hlt : i < e.targets.size := he.targets ▸ lt_of_targetSlot hi
    refine Triple.pure _ fun m h => ⟨⟨by simp [he.pointers], by simp [he.targets]⟩, ?_⟩
    -- the surface takes the place of the slot's old one, which is handed back
    have hold : e.targets[i]?.join = e.targets[i] := by
      rw [Array.getElem?_eq_getElem hlt, Option.join_some]
    generalize ht : ({ surface := s, enabled := _ } : Target) = t
    have hts : t.surface.view = s.view := by rw [← ht]
    have hv := views_setTarget hlt t
    rw [hts] at hv
    simp only [hold, Option.map_map, Function.comp_def]
    convert h using 2
    rw [← Multiset.cons_add, ← hv]
    abel

/-- Giving back the views of a list of slots, in order. -/
theorem release_slots_good (hB : Kept B) {δ : Type} (g : δ → View) (l : List (Option δ))
    {f : Option δ → PUnit → Act (ForInStep PUnit)}
    (hf : ∀ o, f o ⟨⟩ = match o with
      | some x => do (g x).release; pure (.yield ⟨⟩)
      | none => pure (.yield ⟨⟩)) :
    Triple (Good B (((l.filterMap fun o => o.map g : List View) : Multiset View) + vs) ms)
      (forIn l ⟨⟩ f) (fun _ => Good B vs ms) (fun _ => False) := by
  induction l with
  | nil => exact Triple.pure _ fun _ h => by simpa using h
  | cons o l ih =>
    rw [List.forIn_cons, hf]
    -- the loop always goes on: one view back, or none for an empty slot
    let R : ForInStep PUnit → Machine → Prop := fun r m =>
      r = .yield ⟨⟩ ∧ Good B (((l.filterMap fun o => o.map g : List View) : Multiset View) + vs) ms m
    cases o with
    | none =>
      refine Triple.bind (R := R) (Triple.pure _ fun _ h => ⟨rfl, ?_⟩) fun r =>
        Triple.of_prop fun hr => ?_
      · simpa using h
      · subst hr
        exact ih
    | some x =>
      refine Triple.bind (R := R) (Triple.bind ((release_good hB (g x)).mono (fun _ h => ?_)
        (fun _ _ h => h) fun _ h => h) fun _ => Triple.pure _ fun _ h => ⟨rfl, h⟩) fun r =>
        Triple.of_prop fun hr => ?_
      · simpa [← Multiset.cons_coe, Multiset.cons_add] using h
      · subst hr
        exact ih

theorem release_good (hB : Kept B) (e : Engine) :
    Triple (Good B (e.views + vs) ms) e.release (fun _ => Good B vs ms) (fun _ => False) := by
  unfold Engine.release
  -- the attribute buffers first, then the render targets
  refine Triple.bind
    (R := fun _ => Good B (slotViews (fun t : Target => t.surface.view) e.targets + vs) ms)
    ?_ fun _ => Triple.bind ?_ fun _ => Triple.pure _ fun _ h => h
  · rw [← Array.forIn_toList]
    exact (release_slots_good hB Pointer.view _ fun o => by cases o <;> rfl).mono
      (fun _ h => by rwa [views, add_assoc] at h) (fun _ _ h => h) fun _ h => h
  · rw [← Array.forIn_toList]
    exact release_slots_good hB (fun t : Target => t.surface.view) _ fun o => by cases o <;> rfl

end Engine

end Raster

end TegraGpu
