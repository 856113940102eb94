import Mathlib
import TegraGpu.Proofs.Mappings
/-!
# A shader test run gives back what it takes

A run makes a framebuffer, binds it in place of the one the context held, and then takes buffers
for its attributes and indices, a reference to the framebuffer's surface for the engine, and a
mapping of the front surface to read the result.  Whatever step fails, it gives all of them
back: afterwards the views of the stores are those held before, with the new framebuffer's in
place of the old one's.  Read as facts about the device, the allocations after the run are those
before it, less the stores of the old framebuffer that nothing else holds, and with the one
store of the new framebuffer.

* `Machine.Descends` : what every operation on views keeps of the machine it starts from; the
  allocations of two such machines compare through the views that account for them
  (`Backed.objects_perm_of_descends`).
* `attachAttribute_good`, `drawAndRead_good`, `runBound_good`, `run_testRun_of_create` : the
  accounts of the stores through each stage of a run.
* `held_objects_of_create` : the allocations held once the new framebuffer is made.
* `testRun_releases` : **a test run gives back what it takes**, while the device's handle counter
  does not wrap; `testRun_replaces_wrapped_allocation` : once it has wrapped, the new framebuffer
  can take the place of an allocation held before.
-/

namespace TegraGpu

open Buffer Exec Act Host Surface Raster

/-- What the operations on views keep of the machine `m₀` they start from: keys are only given,
a store under an old key keeps its handle and its size, and the device's count of handles only
grows. -/
structure Machine.Descends (m₀ m : Machine) : Prop where
  /-- Keys are only given. -/
  next_le : m₀.stores.next ≤ m.stores.next
  /-- A store under an old key was there, with its handle and size. -/
  store : ∀ k st, m.stores.find? k = some st → k < m₀.stores.next →
    ∃ st₀, m₀.stores.find? k = some st₀ ∧ st.handle = st₀.handle ∧ st.size = st₀.size
  /-- Handles are only given. -/
  created_le : m₀.device.created ≤ m.device.created

theorem Machine.Descends.refl (m : Machine) : m.Descends m :=
  ⟨Nat.le_refl _, fun _ st h _ => ⟨st, h, rfl, rfl⟩, Nat.le_refl _⟩

namespace Buffer

/-- Two invariants that the operations on views keep are kept together. -/
theorem Kept.and {B B' : Machine → Prop} (h : Kept B) (h' : Kept B') :
    Kept fun m => B m ∧ B' m where
  frame hm hl := ⟨h.frame hm.1 hl, h'.frame hm.2 hl⟩
  modify m k f hf hm := ⟨h.modify m k f hf hm.1, h'.modify m k f hf hm.2⟩
  add m size hd d hc hm := ⟨h.add m size hd d hc hm.1, h'.add m size hd d hc hm.2⟩
  erase m k st hk hm := ⟨h.erase m k st hk hm.1, h'.erase m k st hk hm.2⟩

/-- **The operations on views descend from where they start.** -/
theorem kept_descends (m₀ : Machine) : Kept m₀.Descends where
  frame {m m'} hm hl := by
    simp only [Machine.ledger, Prod.mk.injEq] at hl
    obtain ⟨hst, -, -, hcreated⟩ := hl
    exact ⟨hst ▸ hm.next_le, fun k st hk hlt => hm.store k st (hst ▸ hk) hlt,
      hcreated ▸ hm.created_le⟩
  modify m k f hf hm := by
    refine ⟨hm.next_le, fun j st hj hlt => ?_, hm.created_le⟩
    rw [Stores.find?_modify] at hj
    by_cases hjk : j = k
    · rw [if_pos hjk] at hj
      obtain ⟨st₁, hst₁, rfl⟩ := Option.map_eq_some_iff.1 hj
      obtain ⟨st₀, h₀, hh, hs⟩ := hm.store j st₁ hst₁ hlt
      exact ⟨st₀, h₀, (hf st₁).1.trans hh, (hf st₁).2.trans hs⟩
    · rw [if_neg hjk] at hj
      exact hm.store j st hj hlt
  add m size h d hc hm := by
    have hcreated := (Host.Device.createWith_ok hc).2.2.2.2.2.2
    refine ⟨Nat.le_succ_of_le hm.next_le, fun j st hj hlt => ?_, ?_⟩
    · -- the new store is under the machine's next key, which is not an old one
      have hne : j ≠ m.stores.next := by
        have := hm.next_le
        omega
      rw [Stores.find?_add, if_neg hne] at hj
      exact hm.store j st hj hlt
    · show m₀.device.created ≤ d.created
      rw [hcreated]
      exact Nat.le_succ_of_le hm.created_le
  erase m k st hk hm := by
    have hcreated : (m.device.free st.handle).1.created = m.device.created := by
      unfold Host.Device.free
      split <;> rfl
    refine ⟨hm.next_le, fun j st' hj hlt => ?_, hcreated ▸ hm.created_le⟩
    rw [Stores.find?_erase] at hj
    by_cases hjk : j = k
    · rw [if_pos hjk] at hj
      cases hj
    · rw [if_neg hjk] at hj
      exact hm.store j st' hj hlt

/-! ### The allocations of machines that descend from one another -/

variable {vs ms : Multiset View}

/-- Every allocation of a backed machine is under the handle of a view that is held. -/
theorem Backed.exists_view {m : Machine} (hb : Backed m) (hh : Stores.Holds vs ms m.stores)
    {a : Host.Allocation} (ha : a ∈ m.device.objects) : ∃ v ∈ vs + ms, v.handle = a.handle := by
  have hmem : (a.handle, a.len) ∈ m.stores.entries.map fun e => (e.2.handle, roundUp e.2.size 2) :=
    hb.objects.mem_iff.1 (List.mem_map_of_mem (f := fun a => (a.handle, a.len)) ha)
  obtain ⟨⟨k, st⟩, he, hst⟩ := List.mem_map.1 hmem
  simp only [Prod.mk.injEq] at hst
  have hk := Stores.find?_eq_some_iff.2 he
  -- the store is live, so a held view is of it, and has its handle
  obtain ⟨v, hv, hvk⟩ := (hh.live_iff k).1 ⟨st, hk⟩
  obtain ⟨st', hst', hvh⟩ := hh.live v hv
  rw [hvk, hk, Option.some.injEq] at hst'
  subst hst'
  exact ⟨v, hv, hvh.symm.trans hst.1⟩

section Descends

variable {m₁ m : Machine} (h₁ : Backed m₁) (hd : m₁.Descends m) (hh : Stores.Holds vs ms m.stores)
  (hold : ∀ v ∈ vs + ms, v.store < m₁.stores.next)
include h₁ hd hh hold

/-- A store of the earlier machine is held in the later one exactly when its handle is the
handle of a held view: handles name stores in a backed machine. -/
theorem Backed.held_iff_of_descends {k : Nat} {st₁ : Store} (hk : m₁.stores.find? k = some st₁) :
    (∃ v ∈ vs + ms, v.store = k) ↔ st₁.handle ∈ (vs + ms).map View.handle := by
  constructor
  · rintro ⟨v, hv, rfl⟩
    obtain ⟨st, hst, hvh⟩ := hh.live v hv
    obtain ⟨st₀, h₀, hsame, -⟩ := hd.store _ st hst (hold v hv)
    rw [hk, Option.some.injEq] at h₀
    subst h₀
    exact Multiset.mem_map.2 ⟨v, hv, hvh.symm.trans hsame⟩
  · intro hm
    obtain ⟨v, hv, hvh⟩ := Multiset.mem_map.1 hm
    obtain ⟨st, hst, hsh⟩ := hh.live v hv
    obtain ⟨st₀, h₀, hsame, -⟩ := hd.store _ st hst (hold v hv)
    -- two stores of the earlier machine with one handle are one store
    have heq := List.inj_on_of_nodup_map h₁.handles_nodup (Stores.find?_eq_some_iff.1 h₀)
      (Stores.find?_eq_some_iff.1 hk) (hsame.symm.trans (hsh.trans hvh))
    exact ⟨v, hv, congrArg Prod.fst heq⟩

/-- The stores of the later machine are those of the earlier one that are held, with their
handles and sizes. -/
theorem Backed.stores_perm_of_descends :
    (m.stores.entries.map fun e => (e.2.handle, roundUp e.2.size 2)).Perm
      ((m₁.stores.entries.filter fun e => e.2.handle ∈ (vs + ms).map View.handle).map
        fun e => (e.2.handle, roundUp e.2.size 2)) := by
  -- compare the two lists with their keys, which make both free of duplicates
  let g : Nat × Store → Nat × (Host.Handle × Nat) := fun e => (e.1, (e.2.handle, roundUp e.2.size 2))
  have hnodup : ∀ l : List (Nat × Store), (l.map Prod.fst).Nodup → (l.map g).Nodup := fun l hl =>
    List.Nodup.of_map Prod.fst (by rwa [List.map_map])
  have hperm : (m.stores.entries.map g).Perm
      ((m₁.stores.entries.filter fun e => e.2.handle ∈ (vs + ms).map View.handle).map g) := by
    refine (List.perm_ext_iff_of_nodup (hnodup _ m.stores.nodup)
      (hnodup _ (m₁.stores.nodup.sublist (List.filter_sublist.map _)))).2 fun ⟨k, p⟩ => ?_
    simp only [List.mem_map, List.mem_filter, decide_eq_true_eq, Prod.exists, g, Prod.mk.injEq]
    constructor
    · rintro ⟨k', st, he, rfl, rfl⟩
      have hk := Stores.find?_eq_some_iff.2 he
      obtain ⟨v, hv, hvk⟩ := (hh.live_iff k').1 ⟨st, hk⟩
      obtain ⟨st₀, h₀, hsh, hss⟩ := hd.store k' st hk (hvk ▸ hold v hv)
      refine ⟨k', st₀, ⟨Stores.find?_eq_some_iff.1 h₀, ?_⟩, rfl, by rw [hsh, hss]⟩
      exact (Backed.held_iff_of_descends h₁ hd hh hold h₀).1 ⟨v, hv, hvk⟩
    · rintro ⟨k', st₀, ⟨he, hm⟩, rfl, rfl⟩
      have h₀ := Stores.find?_eq_some_iff.2 he
      obtain ⟨v, hv, rfl⟩ := (Backed.held_iff_of_descends h₁ hd hh hold h₀).2 hm
      obtain ⟨st, hst, -⟩ := hh.live v hv
      obtain ⟨st₀', h₀', hsh, hss⟩ := hd.store _ st hst (hold v hv)
      rw [h₀, Option.some.injEq] at h₀'
      subst h₀'
      exact ⟨v.store, st, Stores.find?_eq_some_iff.1 hst, rfl, by rw [hsh, hss]⟩
  have hsnd := hperm.map Prod.snd
  simp only [List.map_map, Function.comp_def, g] at hsnd
  exact hsnd

/-- **The allocations of a machine that descends from a backed one.**  When the views that
account for the later machine's stores are all of stores the earlier machine had made, its
allocations are those of the earlier machine under the handles of these views. -/
theorem Backed.objects_perm_of_descends (hb : Backed m) :
    (m.device.objects.map fun a => (a.handle, a.len)).Perm
      ((m₁.device.objects.filter fun a => a.handle ∈ (vs + ms).map View.handle).map
        fun a => (a.handle, a.len)) := by
  calc List.Perm (m.device.objects.map fun a => (a.handle, a.len))
        (m.stores.entries.map fun e => (e.2.handle, roundUp e.2.size 2)) := hb.objects
      List.Perm _ ((m₁.stores.entries.filter fun e => e.2.handle ∈ (vs + ms).map View.handle).map
            fun e => (e.2.handle, roundUp e.2.size 2)) :=
          Backed.stores_perm_of_descends h₁ hd hh hold
      _ = ((m₁.stores.entries.map fun e => (e.2.handle, roundUp e.2.size 2)).filter
            fun p => p.1 ∈ (vs + ms).map View.handle) := by
          rw [List.filter_map]
          rfl
      List.Perm _ ((m₁.device.objects.map fun a => (a.handle, a.len)).filter
            fun p => p.1 ∈ (vs + ms).map View.handle) := h₁.objects.symm.filter _
      _ = _ := by
          rw [List.filter_map]
          rfl

end Descends

end Buffer

namespace Raster.Engine

/-- Giving a buffer to an attribute slot leaves the render targets alone. -/
theorem setPointer_targets (e : Engine) (loc size : Nat) (v : View) :
    Triple (fun _ => True) (e.setPointer loc size v) (fun e' _ => e'.targets = e.targets)
      (fun _ => True) := by
  unfold setPointer
  dsimp only
  split
  · exact Triple.bind (Triple.trivial _) fun _ => Triple.throw _ fun _ _ => True.intro
  · split
    · exact Triple.bind (Triple.trivial _) fun _ => Triple.pure _ fun _ _ => rfl
    · exact Triple.pure _ fun _ _ => rfl

theorem targets_of_setAttribEnabled {e e' : Engine} {loc : Nat} {on : Bool}
    (h : e.setAttribEnabled loc on = .ok e') : e'.targets = e.targets := by
  unfold setAttribEnabled at h
  cases hs : attribSlot loc with
  | error err => rw [hs] at h; cases h
  | ok slot =>
    rw [hs] at h
    cases h
    rfl

/-- A render target slot that holds nothing hands nothing back when a surface is put in it. -/
theorem bindTarget_of_empty {e : Engine} (ht : ∀ i : Nat, e.targets[i]?.join = none) (slot : Nat)
    (s : Surface) :
    Triple (fun _ => True) (e.bindTarget slot s) (fun r _ => r.2 = none) (fun _ => True) := by
  unfold bindTarget
  split
  · exact Triple.bind (Triple.trivial _) fun _ => Triple.throw _ fun _ _ => True.intro
  · next i _ => exact Triple.pure _ fun _ _ => by simp only [ht i, Option.map_none]

end Raster.Engine

namespace Surface

/-- **Making a surface.**  A surface that is empty, too large, or refused by the device is not
made, and nothing changes; otherwise its view sees all of a new store under the next key, of
the surface's storage size. -/
theorem run_create (width height : Nat) (format : Format) (layout : Layout) (m : Machine) :
    (∃ e, Exec.run (Surface.create width height format layout) m = (.error e, m)) ∨
      ∃ pitch size h d j, storageSize width height format layout = some (pitch, size) ∧
        m.device.create size 2 = .ok (h, d) ∧
        Exec.run (Surface.create width height format layout) m =
          (.ok ⟨width, height, format, layout, pitch,
              ⟨m.stores.next, h, 0, size, { renderTarget := true }⟩⟩,
            { m with device := d, stores := (m.stores.add { handle := h, size, refs := 1 }).2,
                     journal := j }) := by
  unfold Surface.create
  dsimp only
  by_cases h0 : width = 0 ∨ height = 0
  · exact .inl ⟨_, by rw [if_pos h0]; rfl⟩
  · rw [if_neg h0]
    cases hs : storageSize width height format layout with
    | none => exact .inl ⟨_, rfl⟩
    | some p =>
      obtain ⟨pitch, size⟩ := p
      dsimp only
      rw [run_bind]
      rcases run_allocate size { renderTarget := true } m with ⟨e, -, hrun⟩ | ⟨h, d, j, hc, hrun⟩
      · rw [hrun]
        exact .inl ⟨e, rfl⟩
      · rw [hrun]
        exact .inr ⟨pitch, size, h, d, _, rfl, hc, rfl⟩

/-- **Making a single-buffered framebuffer** is making its one surface. -/
theorem Framebuffer.run_create_single (width height : Nat) (format : Format) (layout : Layout)
    (m : Machine) :
    (∃ e, Exec.run (Framebuffer.create width height format layout false) m = (.error e, m)) ∨
      ∃ pitch size h d j, storageSize width height format layout = some (pitch, size) ∧
        m.device.create size 2 = .ok (h, d) ∧
        Exec.run (Framebuffer.create width height format layout false) m =
          (.ok ⟨⟨width, height, format, layout, pitch,
              ⟨m.stores.next, h, 0, size, { renderTarget := true }⟩⟩, none⟩,
            { m with device := d, stores := (m.stores.add { handle := h, size, refs := 1 }).2,
                     journal := j }) := by
  unfold Framebuffer.create
  rw [run_bind]
  rcases run_create width height format layout m with ⟨e, hrun⟩ | ⟨pitch, size, h, d, j, hs, hc, hrun⟩
  · rw [hrun]
    exact .inl ⟨e, rfl⟩
  · rw [hrun]
    exact .inr ⟨pitch, size, h, d, _, hs, hc, rfl⟩

end Surface

/-- The views a display context holds: its framebuffer's, if it has one. -/
def Display.Context.views {β α : Type} (c : Display.Context β α) : Multiset View :=
  (c.framebuffer.map Surface.Framebuffer.views).getD 0

namespace Bench

variable {β α : Type} {B : Machine → Prop} {V ms : Multiset View}

/-- A guarded operation fails as its clean-up leaves the failure. -/
theorem triple_guarded {γ : Type} {P E₀ E : Machine → Prop} {Q : γ → Machine → Prop}
    {cleanup : Act Unit} {a : Act γ} (ha : Triple P a Q E₀)
    (hc : Triple E₀ cleanup (fun _ => E) E) : Triple P (guarded cleanup a) Q E :=
  Triple.tryCatch ha fun e => Triple.bind hc fun _ => Triple.throw e fun _ h => h

/-- An update of the engine that cannot change the machine. -/
theorem good_ofExcept (hB : Kept B) {vs : Multiset View} {γ : Type} (r : Except Error γ) :
    Triple (Good B vs ms) (Act.ofExcept r) (fun x m => r = .ok x ∧ Good B vs ms m)
      (Good B vs ms) :=
  ((good_of_keeps hB (keeps_ofExcept r)).and (Script.Session.triple_ofExcept r)).mono
    (fun _ h => ⟨h, True.intro⟩) (fun _ _ h => ⟨h.2, h.1⟩) fun _ h => h.1

/-- A record keeps the accounts, and is never refused. -/
theorem note_good (hB : Kept B) {vs : Multiset View} {E : Machine → Prop} (level : Level)
    (origin : Origin) (text : String) :
    Triple (Good B vs ms) (note level origin text) (fun _ => Good B vs ms) E := by
  intro m h
  rw [run_note]
  exact ⟨h.1, hB.frame h.2 rfl⟩

/-- **Giving the program's attribute a buffer.**  The engine takes the new buffer, and gives back
its own views when a step fails. -/
theorem attachAttribute_good (hB : Kept B) (program : Shader.Program) {e : Engine}
    (he : e.Shaped) (name : String) (data : List UInt32) :
    Triple (Good B (e.views + V) ms) (attachAttribute program e name data)
      (fun e' m => (e'.Shaped ∧ e'.targets = e.targets) ∧ Good B (e'.views + V) ms m)
      (Good B V ms) := by
  unfold attachAttribute
  split
  · exact Triple.bind (good_of_keeps hB (keeps_ledger_note _ _ _)) fun _ =>
      Triple.pure _ fun _ h => ⟨⟨he, rfl⟩, h⟩
  · next loc _ =>
    have hrel : ∀ e : Engine, Triple (Good B (e.views + V) ms) e.release (fun _ => Good B V ms)
        (Good B V ms) := fun e => (Engine.release_good hB e).never_fails
    refine Triple.bind (triple_guarded (allocateWith_good hB _ _) (hrel e)) fun v => ?_
    -- the buffer goes into its slot, and the slot's old buffer goes back
    have hset : Triple (fun m => Good B (v ::ₘ (e.views + V)) ms m ∧ True) (e.setPointer loc 4 v)
        (fun e' m => (e'.Shaped ∧ Good B (e'.views + V) ms m) ∧ e'.targets = e.targets)
        (fun m => Good B (e.views + V) ms m ∧ True) :=
      (Engine.setPointer_good hB he loc 4 v).and (Engine.setPointer_targets e loc 4 v)
    refine Triple.bind (R := fun e' m => (e'.Shaped ∧ e'.targets = e.targets) ∧
        Good B (e'.views + V) ms m)
      (triple_guarded (hset.mono (fun _ h => ⟨h, True.intro⟩)
        (fun _ _ h => ⟨⟨h.1.1, h.2⟩, h.1.2⟩) fun _ h => h.1) (hrel e)) fun e' => ?_
    refine Triple.of_prop fun hshaped => ?_
    refine (triple_guarded (good_ofExcept hB _) (hrel e')).mono (fun _ h => h)
      (fun e'' _ h => ?_) fun _ h => h
    obtain ⟨hok, h⟩ := h
    obtain ⟨hviews, hp, ht⟩ := Engine.steady_setAttribEnabled loc true e' e'' hok
    refine ⟨⟨⟨hp.trans hshaped.1.pointers, ht.trans hshaped.1.targets⟩,
      (Engine.targets_of_setAttribEnabled hok).trans hshaped.2⟩, ?_⟩
    rw [hviews]
    exact h

/-- **Reading the result.**  The draw keeps the accounts, and the front surface is read under a
mapping that ends on every path: when the surface is empty, before the failure. -/
theorem drawAndRead_good (hB : Kept B) (t : Test) {c : Display.Context β α} {fb : Framebuffer}
    (hc : c.framebuffer = some fb) (program : Shader.Program) (e : Engine) (indices : View) :
    Triple (Good B (fb.views + V) ms) (drawAndRead t c program e indices)
      (fun r m => r.2.framebuffer = c.framebuffer ∧ Good B (fb.views + V) ms m)
      (Good B (fb.views + V) ms) := by
  unfold drawAndRead
  extract_lets draw
  have hdraw : ∀ u, Triple (Good B (fb.views + V) ms) (draw u)
      (fun r m => r.2.framebuffer = c.framebuffer ∧ Good B (fb.views + V) ms m)
      (Good B (fb.views + V) ms) := by
    intro u
    dsimp -zeta only [draw]
    refine Triple.bind (good_of_keeps hB (keeps_ledger_applyUniforms t program e)) fun e => ?_
    refine Triple.bind (good_of_keeps hB (keeps_ledger_draw _ _ _ _ _)) fun _ => ?_
    -- the framebuffer bound is the run's own
    refine Triple.bind (R := fun fb' m => fb' = fb ∧ Good B (fb.views + V) ms m)
      (((good_of_keeps hB (Display.Context.keeps_ledger_bound c)).and
        (Display.Context.bound_eq c)).mono (fun _ h => ⟨h, True.intro⟩)
        (fun fb' _ h => ⟨(Option.some.inj (hc.symm.trans h.2)).symm, h.1⟩) fun _ h => h.1) fun fb' => ?_
    refine Triple.of_prop fun hfb => ?_
    subst hfb
    refine Triple.bind (Surface.Framebuffer.mapData_good hB fb' true) fun front => ?_
    refine Triple.of_prop fun hfront => ?_
    -- the front surface's view goes back from the mappings to the held views
    have hsplit : front.view ::ₘ (fb'.views.erase front.view + V) = fb'.views + V := by
      rw [← Multiset.cons_add, Multiset.cons_erase hfront]
    have hunmap : Triple (Good B (fb'.views.erase front.view + V) (front.view ::ₘ ms))
        front.view.unmap (fun _ => Good B (fb'.views + V) ms) (Good B (fb'.views + V) ms) :=
      (unmap_good hB front.view).mono (fun _ h => h) (fun _ _ h => by rwa [hsplit] at h)
        fun _ h => h.elim
    refine Triple.bind Triple.get fun m => ?_
    extract_lets data finish
    have hfinish : ∀ result, Triple (Good B (fb'.views.erase front.view + V) (front.view ::ₘ ms))
        (finish result) (fun r m => r.2.framebuffer = c.framebuffer ∧ Good B (fb'.views + V) ms m)
        (Good B (fb'.views + V) ms) := by
      intro result
      dsimp -zeta only [finish]
      extract_lets passed outcome done present report
      -- after the mapping ends: a record, and the frame shown unless the test runs alone
      have hpresent : ∀ u, Triple (Good B (fb'.views + V) ms) (present u)
          (fun r m => r.2.framebuffer = c.framebuffer ∧ Good B (fb'.views + V) ms m)
          (Good B (fb'.views + V) ms) := by
        intro u
        dsimp only [present]
        have hdone : ∀ c' : Display.Context β α, Triple
            (fun m => c'.framebuffer = c.framebuffer ∧ Good B (fb'.views + V) ms m) (done c')
            (fun r m => r.2.framebuffer = c.framebuffer ∧ Good B (fb'.views + V) ms m)
            (Good B (fb'.views + V) ms) := fun c' => Triple.pure _ fun _ h => h
        refine Triple.ite (fun _ => Triple.bind (Triple.pure c fun _ h => ⟨rfl, h⟩) hdone)
          fun _ => ?_
        refine Triple.bind (((Display.Context.swapBuffers_framebuffer c).and
          (good_of_keeps hB (Display.Context.keeps_ledger_swapBuffers c))).mono
            (fun _ h => ⟨True.intro, h⟩) (fun _ _ h => h) fun _ h => h.2) fun c' => ?_
        exact Triple.bind (Triple.pure _ fun _ h =>
          ⟨(Display.Context.waitForKey_framebuffer c').trans h.1, h.2⟩) hdone
      have hreport : ∀ u, Triple (Good B (fb'.views.erase front.view + V) (front.view ::ₘ ms))
          (report u) (fun r m => r.2.framebuffer = c.framebuffer ∧ Good B (fb'.views + V) ms m)
          (Good B (fb'.views + V) ms) := by
        intro u
        dsimp only [report]
        refine Triple.bind hunmap fun _ => ?_
        split
        · exact Triple.bind (good_of_keeps hB (keeps_ledger_note _ _ _)) hpresent
        · exact hpresent ()
      refine Triple.ite (fun _ => ?_) fun _ => hreport ()
      exact Triple.bind (note_good hB _ _ _) fun _ => Triple.bind (note_good hB _ _ _) hreport
    split
    · exact Triple.bind (Triple.pure _ fun _ h => h.1) hfinish
    · exact Triple.bind (hunmap.mono (fun _ h => h.1) (fun _ _ h => h) fun _ h => h) fun _ =>
        Triple.throw_bind _ fun _ h => h
  refine Triple.ite (fun _ => ?_) fun _ => hdraw ()
  exact Triple.bind (good_of_keeps hB (keeps_ledger_note _ _ _)) fun _ =>
    Triple.bind (good_of_keeps hB (keeps_ledger_note _ _ _)) hdraw

/-- The engine a run starts from: no views, all its slots, and no render target. -/
theorem benchEngine_fresh (program : Shader.Program) :
    let e : Engine := { program := some program, state := benchState }
    e.views = 0 ∧ e.Shaped ∧ ∀ i : Nat, e.targets[i]?.join = none := by
  intro e
  refine ⟨by simp [e, Engine.views, slotViews], ⟨Array.size_replicate, Array.size_replicate⟩,
    fun i => ?_⟩
  simp only [e, Array.getElem?_replicate]
  split <;> rfl

/-- **The run on a bound framebuffer.**  The buffers it takes for the attributes and the indices,
and the engine's reference to the surface drawn to, all go back, whether the run ends or fails;
the context it gives back keeps the framebuffer. -/
theorem runBound_good (hB : Kept B) (t : Test) {c : Display.Context β α} {fb : Framebuffer}
    (hc : c.framebuffer = some fb) {R : Multiset View} :
    Triple (Good B (fb.views + R) ms) (runBound t c fb)
      (fun r m => r.2.framebuffer = c.framebuffer ∧ Good B (fb.views + R) ms m)
      (Good B (fb.views + R) ms) := by
  unfold runBound
  -- clearing, reading the shaders and assembling the program keep the ledger
  refine Triple.bind (good_of_keeps hB (Display.Context.keeps_ledger_clear c)) fun _ => ?_
  refine Triple.bind (good_of_keeps hB (keeps_ledger_loadLogged _ _)) fun vs => ?_
  refine Triple.bind (good_of_keeps hB (keeps_ledger_loadLogged _ _)) fun fs => ?_
  refine Triple.bind (good_of_keeps hB (keeps_ledger_loadLogged _ _)) fun linker => ?_
  refine Triple.bind (good_of_keeps hB (Shader.keeps_ledger_assemble _ _ _ _)) fun program => ?_
  obtain ⟨hviews₀, hshaped₀, hempty₀⟩ := benchEngine_fresh program
  -- from here on, each failure gives the engine's views back
  have hrel : ∀ e : Engine, Triple (Good B (e.views + (fb.views + R)) ms) e.release
      (fun _ => Good B (fb.views + R) ms) (Good B (fb.views + R) ms) := fun e =>
    (Engine.release_good hB e).never_fails
  refine Triple.bind ((attachAttribute_good (V := fb.views + R) hB program hshaped₀ "position"
    quadVertices).mono (fun _ h => by rwa [hviews₀, zero_add]) (fun _ _ h => h) fun _ h => h)
    fun e₁ => Triple.of_prop fun h₁ => ?_
  refine Triple.bind (attachAttribute_good hB program h₁.1 "color" quadColors) fun e₂ =>
    Triple.of_prop fun h₂ => ?_
  have hempty₂ : ∀ i : Nat, e₂.targets[i]?.join = none := by
    rw [h₂.2, h₁.2]
    exact hempty₀
  -- the engine takes a reference of its own to the surface drawn to
  have hmem : fb.drawSurface.view ∈ e₂.views + (fb.views + R) :=
    Multiset.mem_add.2 (.inr (Multiset.mem_add.2 (.inl (Framebuffer.drawSurface_mem fb))))
  have hretain : Triple (fun m => Good B (e₂.views + (fb.views + R)) ms m ∧
      m.stores.Has fb.drawSurface.view) fb.drawSurface.view.retain
      (fun _ => Good B (fb.drawSurface.view ::ₘ (e₂.views + (fb.views + R))) ms) (fun _ => False) :=
    retain_good hB _
  refine Triple.bind (hretain.mono (fun _ h => ⟨h, h.1.live _ (Multiset.mem_add.2 (.inl hmem))⟩)
    (fun _ _ h => h) fun _ h => h.elim) fun _ => ?_
  have hbind : Triple (Good B (fb.drawSurface.view ::ₘ (e₂.views + (fb.views + R))) ms)
      (e₂.bindTarget 1 fb.drawSurface) (fun r m => r.1.Shaped ∧ Good B (r.1.views + (fb.views + R)) ms m)
      (Good B (e₂.views + (fb.views + R)) ms) := by
    refine ((Engine.bindTarget_good hB h₂.1 1 fb.drawSurface).and
      (Engine.bindTarget_of_empty hempty₂ 1 fb.drawSurface)).mono (fun _ h => ⟨h, True.intro⟩)
      (fun r _ h => ⟨h.1.1, ?_⟩) fun _ h => h.1
    -- the slot held nothing, so nothing comes back
    have hg := h.1.2
    rw [h.2, Option.map_none, Option.toList_none, Multiset.coe_nil, zero_add] at hg
    exact hg
  refine Triple.bind (triple_guarded hbind (hrel e₂)) fun x => ?_
  obtain ⟨e₃, old⟩ := x
  refine Triple.of_prop fun h₃ => ?_
  refine Triple.bind (triple_guarded (good_ofExcept hB _) (hrel e₃)) fun e₄ =>
    Triple.of_prop fun hok => ?_
  obtain ⟨hviews₄, hp₄, ht₄⟩ := Engine.steady_setTargetEnabled 1 true e₃ e₄
    (by simpa only [↓reduceIte] using hok)
  refine Triple.bind (triple_guarded ((allocateWith_good hB _ _).mono
    (fun _ h => by rwa [hviews₄]) (fun _ _ h => h) fun _ h => h) (hrel e₄)) fun indices => ?_
  -- the clean-up gives back the indices, then the engine's views
  have hclean : Triple (Good B (indices ::ₘ (e₄.views + (fb.views + R))) ms)
      (do indices.release; e₄.release) (fun _ => Good B (fb.views + R) ms)
      (Good B (fb.views + R) ms) :=
    Triple.bind (release_good hB indices).never_fails fun _ => hrel e₄
  have hsplit : indices ::ₘ (e₄.views + (fb.views + R)) = fb.views + (indices ::ₘ (e₄.views + R)) := by
    simp only [← Multiset.singleton_add]
    abel
  have hread : Triple (Good B (fb.views + (indices ::ₘ (e₄.views + R))) ms)
      (drawAndRead t c program e₄ indices)
      (fun r m => r.2.framebuffer = c.framebuffer ∧ Good B (fb.views + (indices ::ₘ (e₄.views + R))) ms m)
      (Good B (fb.views + (indices ::ₘ (e₄.views + R))) ms) :=
    drawAndRead_good hB t hc program e₄ indices
  extract_lets cleanup
  refine Triple.bind (R := fun r m => r.2.framebuffer = c.framebuffer ∧
      Good B (indices ::ₘ (e₄.views + (fb.views + R))) ms m)
    (triple_guarded (hread.mono (fun _ h => by rwa [← hsplit])
      (fun _ _ h => ⟨h.1, by rw [hsplit]; exact h.2⟩) fun _ h => by rwa [hsplit]) hclean) fun r => ?_
  exact Triple.of_prop fun hr => Triple.bind hclean fun _ => Triple.pure _ fun _ h => ⟨hr, h⟩


/-- **The run once its framebuffer is made.**  The new framebuffer takes the old one's place in
the context, the old one goes back, and the run on the new one gives back all it takes.  The run
itself never fails: a failed step is its value. -/
theorem run_testRun_of_create (hB : Kept B) (t : Test) (c : Display.Context β α)
    {R : Multiset View} {m m₁ : Machine} {fb : Framebuffer}
    (hcreate : Exec.run (Framebuffer.create testSize testSize .rgba8888 .tiled false) m =
      (.ok fb, m₁))
    (hg : Good B (fb.views + (c.views + R)) ms m₁) :
    ∃ r m', Exec.run (t.run c) m = (.ok r, m') ∧ r.2.framebuffer = some fb ∧
      Good B (fb.views + R) ms m' := by
  unfold Test.run
  rw [run_bind, run_tryCatch, map_eq_pure_bind, run_bind, hcreate]
  dsimp only [run_pure]
  refine Triple.exists_ok ?_ hg
  dsimp only [Display.Context.bind]
  -- the run on the bound framebuffer, whose failure is kept as a value; the step after it is
  -- any `f` that answers a pair as the run does, so that no pattern is restated here
  have hrun : ∀ c₂ : Display.Context β α, c₂.framebuffer = some fb →
      ∀ f : Outcome × Display.Context β α → Act (Except Error Outcome × Display.Context β α),
      (∀ o c', f (o, c') = pure (Except.ok o, c')) →
      Triple (Good B (fb.views + R) ms)
        (tryCatch (runBound t c₂ fb >>= f) fun e => pure (Except.error e, c₂))
        (fun r m' => r.2.framebuffer = some fb ∧ Good B (fb.views + R) ms m') fun _ => False := by
    intro c₂ hc₂ f hf
    refine Triple.tryCatch (Triple.bind (runBound_good hB t hc₂) fun x => ?_) fun _ =>
      Triple.pure _ fun _ h => ⟨hc₂, h⟩
    obtain ⟨o, c'⟩ := x
    rw [hf o c']
    exact Triple.pure _ fun _ h => ⟨h.1.trans hc₂, h.2⟩
  split
  · -- the old framebuffer goes back first
    next p hp =>
    have hviews : c.views = p.views := by simp [Display.Context.views, hp]
    refine Triple.bind ((Framebuffer.release_good hB p).mono (fun _ h => ?_) (fun _ _ h => h)
      fun _ h => h) fun _ => hrun _ rfl _ fun _ _ => rfl
    rwa [hviews, add_left_comm] at h
  · next hp =>
    have hviews : c.views = 0 := by
      cases hfb : c.framebuffer with
      | none => simp [Display.Context.views, hfb]
      | some p => exact absurd hfb (hp p)
    exact (hrun _ rfl _ fun _ _ => rfl).mono (fun _ h => by rwa [hviews, zero_add] at h)
      (fun _ _ h => h) fun _ h => h

/-- **The allocations held once a framebuffer is made.**  Of the allocations of a backed machine,
with one more under a handle that none of them has, the views of `R`, the mappings `ms` and a view
under the new handle hold the new one and the old ones that are not the context's or that a view
of `R` or `ms` holds. -/
theorem held_objects_of_create {c : Display.Context β α} {R : Multiset View} {m : Machine}
    (hb : Backed m) (hh : Stores.Holds (c.views + R) ms m.stores) {h : Handle} {len : Nat}
    (hfresh : h ∉ m.device.objects.map Allocation.handle) (data : ByteArray) :
    (((m.device.objects ++ [(⟨h, len, data⟩ : Allocation)]).filter
        fun a => a.handle ∈ h ::ₘ (R + ms).map View.handle).map fun a => (a.handle, a.len)) =
      (m.device.objects.filter fun a =>
          a.handle ∉ c.views.map View.handle ∨ a.handle ∈ (R + ms).map View.handle).map
        (fun a => (a.handle, a.len)) ++ [(h, len)] := by
  rw [List.filter_append, List.map_append]
  congr 1
  · -- an old allocation stays exactly when a view other than the context's holds it
    congr 1
    refine List.filter_congr fun a ha => decide_eq_decide.2 ?_
    have hne : a.handle ≠ h := fun he => hfresh (he ▸ List.mem_map_of_mem ha)
    rw [Multiset.mem_cons, or_iff_right hne]
    refine ⟨Or.inr, fun hk => hk.elim (fun hnot => ?_) id⟩
    obtain ⟨v, hv, hvh⟩ := Backed.exists_view hb hh ha
    rw [add_assoc, Multiset.mem_add] at hv
    rcases hv with hv | hv
    · exact absurd (Multiset.mem_map.2 ⟨v, hv, hvh⟩) hnot
    · exact Multiset.mem_map.2 ⟨v, hv, hvh⟩
  · simp

/-- **A test run gives back what it takes.**  Take a machine whose stores are accounted for by
the views of the context's framebuffer, other views `R` and mappings `ms`, and a run after which
the device has given out fewer than `2 ^ 32` handles.  The run itself never fails, and whichever
of its steps fails:

* when the framebuffer cannot be made, the context and the machine are as they were;
* otherwise the context holds the new framebuffer, single-buffered on a store under a new key.
  Its view, `R` and `ms` account for the stores: the attribute and index buffers, the engine's
  references and the mapping of the front surface have all gone back.  The device's allocations
  are those from before, less those of the old framebuffer that no view of `R` or `ms` holds,
  with one allocation more, for the new framebuffer's store. -/
theorem testRun_releases (t : Test) (c : Display.Context β α) {R ms : Multiset View} {m : Machine}
    (hm : Good Ledger (c.views + R) ms m)
    (hfew : (Exec.run (t.run c) m).2.device.created < 2 ^ 32) :
    ∃ res c', (Exec.run (t.run c) m).1 = .ok (res, c') ∧
      ((∃ e, res = .error e ∧ c' = c ∧ (Exec.run (t.run c) m).2 = m) ∨
        ∃ fb, c'.framebuffer = some fb ∧ fb.back = none ∧ fb.front.view.store = m.stores.next ∧
          Good Ledger (fb.views + R) ms (Exec.run (t.run c) m).2 ∧
          ((Exec.run (t.run c) m).2.device.objects.map fun a => (a.handle, a.len)).Perm
            ((m.device.objects.filter fun a =>
                a.handle ∉ c.views.map View.handle ∨ a.handle ∈ (R + ms).map View.handle).map
              (fun a => (a.handle, a.len)) ++
              [(fb.front.view.handle, roundUp fb.front.view.size 2)])) := by
  rcases Framebuffer.run_create_single testSize testSize .rgba8888 .tiled m with
    ⟨e, hcreate⟩ | ⟨pitch, size, h, d, j, -, hc, hcreate⟩
  · -- nothing was made, and the run ends at once
    have hrun : Exec.run (t.run c) m = (.ok (.error e, c), m) := by
      unfold Test.run
      rw [run_bind, run_tryCatch, map_eq_pure_bind, run_bind, hcreate]
      rfl
    rw [hrun]
    exact ⟨_, _, rfl, .inl ⟨e, rfl, rfl, rfl⟩⟩
  · generalize hfb : (⟨_, none⟩ : Framebuffer) = fb at hcreate
    generalize hm₁ : ({ m with device := d, stores := _, journal := j } : Machine) = m₁ at hcreate
    -- the new framebuffer's views join the accounts, which the rest of the run keeps
    have hg₁ : Good Ledger (fb.views + (c.views + R)) ms m₁ :=
      (Framebuffer.create_good kept_ledger _ _ _ _ false).apply hm |>.1 fb m₁ hcreate
    obtain ⟨⟨res, c'⟩, m', hrun, hc', hg'⟩ := run_testRun_of_create
      (kept_ledger.and (kept_descends m₁)) t c hcreate ⟨hg₁.1, hg₁.2, Machine.Descends.refl m₁⟩
    rw [hrun] at hfew ⊢
    refine ⟨res, c', rfl, .inr ⟨fb, hc', by rw [← hfb], by rw [← hfb], ⟨hg'.1, hg'.2.1⟩, ?_⟩⟩
    -- the device backs the stores before, after the framebuffer is made, and at the end
    have hd := (Host.Device.createWith_ok hc).2.2.2.2.2.2
    have hcreated : m₁.device.created = m.device.created + 1 := by
      rw [← hm₁, hd]
    have hfew₁ : m₁.device.created < 2 ^ 32 := lt_of_le_of_lt hg'.2.2.created_le hfew
    have hfew₀ : m.device.created < 2 ^ 32 := by omega
    have hb₀ : Backed m := hm.2 hfew₀
    obtain ⟨hfresh, hobj₁, -⟩ := Host.Device.create_spec hb₀.sound hfew₀ hc
    -- every view at the end is of a store made by the time the framebuffer was
    have hnext : m₁.stores.next = m.stores.next + 1 := by
      rw [← hm₁]
      rfl
    have hold : ∀ v ∈ fb.views + R + ms, v.store < m₁.stores.next := by
      intro v hv
      rw [hnext]
      rw [add_assoc, Multiset.mem_add] at hv
      rcases hv with hv | hv
      · rw [← hfb, Framebuffer.views_single, Multiset.mem_singleton] at hv
        rw [hv]
        exact Nat.lt_succ_self _
      · obtain ⟨st, hst, -⟩ := hm.1.live v (by rw [add_assoc]; exact Multiset.mem_add.2 (.inr hv))
        exact Nat.lt_succ_of_lt (Stores.lt_next_of_find? hst)
    have hperm := Backed.objects_perm_of_descends (hg₁.2 hfew₁) hg'.2.2 hg'.1 hold (hg'.2.1 hfew)
    refine hperm.trans (List.Perm.of_eq ?_)
    have hobj : m₁.device.objects = d.objects := by rw [← hm₁]
    have hh : fb.front.view.handle = h := by rw [← hfb]
    have hsize : fb.front.view.size = size := by rw [← hfb]
    have hfbviews : (fb.views + R + ms).map View.handle = h ::ₘ (R + ms).map View.handle := by
      rw [← hfb, Framebuffer.views_single, add_assoc, Multiset.map_add, Multiset.map_singleton,
        Multiset.singleton_add]
    rw [hobj, hobj₁, hfbviews, hh, hsize]
    exact held_objects_of_create hb₀ hm.1 hfresh _

/-- A headless run on a device that refuses every mapping: the framebuffer is made, and the run
stops when clearing it cannot map it. -/
theorem testRun_releases_unmappable :
    let t := Test.new "test.vs" "test.fs" "test.lnk"
    let c : Display.Context Unit Unit := { options := {}, chip := { paths := [] }, files := {} }
    let m : Machine := { device := { failMaps := true } }
    Good Ledger (c.views + 0) 0 m ∧ (Exec.run (t.run c) m).2.device.created < 2 ^ 32 ∧
      ∃ res c', (Exec.run (t.run c) m).1 = .ok (res, c') ∧
        ((∃ e, res = .error e ∧ c' = c ∧ (Exec.run (t.run c) m).2 = m) ∨
          ∃ fb, c'.framebuffer = some fb ∧ fb.back = none ∧ fb.front.view.store = m.stores.next ∧
            Good Ledger (fb.views + 0) 0 (Exec.run (t.run c) m).2 ∧
            ((Exec.run (t.run c) m).2.device.objects.map fun a => (a.handle, a.len)).Perm
              ((m.device.objects.filter fun a => a.handle ∉ c.views.map View.handle ∨
                  a.handle ∈ ((0 + 0 : Multiset View)).map View.handle).map
                (fun a => (a.handle, a.len)) ++
                [(fb.front.view.handle, roundUp fb.front.view.size 2)])) := by
  intro t c m
  have hviews : c.views = 0 := rfl
  have hm : Good Ledger (c.views + 0) 0 m := by
    rw [hviews, add_zero]
    exact ⟨Stores.holds_empty, fun _ => ⟨Host.Device.sound_new.of_shape rfl rfl rfl, List.Perm.nil⟩⟩
  have hfew : (Exec.run (t.run c) m).2.device.created < 2 ^ 32 := by decide +kernel
  exact ⟨hm, hfew, testRun_releases t c hm hfew⟩

/-- **A wrapped handle counter takes a live allocation.**  On a device that has given out
`2 ^ 32` handles, holds one allocation of two bytes under the first handle and refuses every
mapping, a run with no framebuffer bound makes its framebuffer under the first handle again: the
new allocation takes the place of the one held before, so the device ends with one allocation
where the one from before and the framebuffer's should both be. -/
theorem testRun_replaces_wrapped_allocation :
    let t := Test.new "test.vs" "test.fs" "test.lnk"
    let c : Display.Context Unit Unit := { options := {}, chip := { paths := [] }, files := {} }
    let m : Machine := { device := { ({} : Host.Device).run Host.Device.wrapRun with failMaps := true } }
    m.device.created = 2 ^ 32 ∧ c.framebuffer = none ∧
      (m.device.objects.map fun a => (a.handle, a.len)) = [(⟨1⟩, 2)] ∧
      ((Exec.run (t.run c) m).1.toOption.bind fun r => r.2.framebuffer).map
          (fun fb => (fb.front.view.handle, roundUp fb.front.view.size 2)) = some (⟨1⟩, 262144) ∧
      ((Exec.run (t.run c) m).2.device.objects.map fun a => (a.handle, a.len)) = [(⟨1⟩, 262144)] := by
  rw [Host.Device.run_wrapRun]
  intro t c m
  refine ⟨rfl, rfl, rfl, ?_, ?_⟩
  · decide +kernel
  · decide +kernel

end Bench

end TegraGpu
