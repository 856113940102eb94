import Mathlib
import TegraGpu.Proofs.Coverage
import TegraGpu.Proofs.Engine
/-!
# The bytes of the allocations

Operations reach the bytes of the device only under a mapping: reading the bytes of a view,
or rewriting the storage of one allocation.  This module gives the exact runs of these
operations: a mapping that the device grants leaves every store flagged as it was, a read
changes nothing, and a write rewrites the storage under one handle and no other.

* `paintObjects`, `Machine.paint` : the storage under one handle rewritten, and its lookups.
* `View.Mappable`, `run_withMap_of_mappable`, `run_withMap_of_refused` : an operation under a
  mapping, when the mapping is granted and when it is refused.
* `run_withMap_read`, `run_modifyStorage`, `run_rasterizeInto_of_mappable`,
  `run_rasterizeInto_of_refused` : reading, writing and rasterizing through a mapping.
* `View.Spans`, `run_invalidate_of_spans`, `run_invalidate` : invalidating changes only the
  invalidations, and a view whose allocation covers it is invalidated without fail.
-/

namespace TegraGpu

open Buffer Host Exec Act Surface

variable {α : Type}

/-! ### Rewriting the storage of one allocation -/

/-- The allocations with the storage of the first one under `h` rewritten by `g`. -/
def paintObjects (h : Handle) (g : ByteArray → ByteArray) : List Allocation → List Allocation
  | [] => []
  | a :: rest => if a.handle = h then { a with data := g a.data } :: rest
    else a :: paintObjects h g rest

@[simp] theorem map_paintObjects (h : Handle) (g : ByteArray → ByteArray) (l : List Allocation) :
    (paintObjects h g l).map (fun a => (a.handle, a.len)) = l.map (fun a => (a.handle, a.len)) := by
  induction l with
  | nil => rfl
  | cons a rest ih => by_cases ha : a.handle = h <;> simp [paintObjects, ha, ih]

theorem find?_paintObjects (h h' : Handle) (g : ByteArray → ByteArray) (l : List Allocation) :
    (paintObjects h g l).find? (fun a => a.handle == h') =
      (l.find? (fun a => a.handle == h')).map fun a => if h' = h then { a with data := g a.data } else a := by
  induction l with
  | nil => rfl
  | cons a rest ih =>
    by_cases ha : a.handle = h
    · subst ha
      by_cases ha' : a.handle = h'
      · subst ha'
        simp [paintObjects]
      · simp [paintObjects, ha', Ne.symm ha']
    · by_cases ha' : a.handle = h'
      · subst ha'
        simp [paintObjects, ha]
      · simp [paintObjects, ha, ha', ih]

/-- Rewriting the storage of an allocation is rewriting the first one under its handle, and it
fails when the device holds none. -/
theorem modifyStorage_eq (d : Host.Device) (h : Handle) (f : ByteArray → ByteArray × α) :
    d.modifyStorage h f = (d.object? h).map fun a =>
      ((f a.data).2, { d with objects := paintObjects h (fun x => (f x).1) d.objects }) := by
  unfold Device.modifyStorage Device.object?
  suffices hgo : ∀ l : List Allocation, Device.modifyStorage.go h f l =
      (l.find? (fun a => a.handle == h)).map fun a => ((f a.data).2, paintObjects h (fun x => (f x).1) l) by
    rw [hgo, Option.map_map]
    rfl
  intro l
  induction l with
  | nil => rfl
  | cons a rest ih =>
    unfold Device.modifyStorage.go
    by_cases ha : a.handle = h
    · simp [ha, paintObjects]
    · simp [ha, paintObjects, ih, Option.map_map, Function.comp_def]

/-- The machine with the storage of the allocation under `h` rewritten by `g`. -/
def Machine.paint (m : Machine) (h : Handle) (g : ByteArray → ByteArray) : Machine :=
  { m with device := { m.device with objects := paintObjects h g m.device.objects } }

namespace Machine

variable (m : Machine) (h : Handle) (g : ByteArray → ByteArray)

@[simp] theorem paint_stores : (m.paint h g).stores = m.stores := rfl

@[simp] theorem paint_journal : (m.paint h g).journal = m.journal := rfl

@[simp] theorem paint_failMaps : (m.paint h g).device.failMaps = m.device.failMaps := rfl

@[simp] theorem paint_ledger : (m.paint h g).ledger = m.ledger := by
  simp [paint, ledger]

theorem object?_paint (h' : Handle) :
    (m.paint h g).device.object? h' =
      (m.device.object? h').map fun a => if h' = h then { a with data := g a.data } else a :=
  find?_paintObjects h h' g m.device.objects

@[simp] theorem storage?_paint (h' : Handle) :
    (m.paint h g).device.storage? h' =
      if h' = h then (m.device.storage? h').map g else m.device.storage? h' := by
  unfold Device.storage?
  rw [object?_paint, Option.map_map]
  by_cases hh : h' = h <;> simp [hh, Function.comp_def]

@[simp] theorem holds_paint (h' : Handle) : (m.paint h g).device.holds h' = m.device.holds h' := by
  have hhandles : (paintObjects h g m.device.objects).map Allocation.handle =
      m.device.objects.map Allocation.handle := by
    have := congrArg (List.map Prod.fst) (map_paintObjects h g m.device.objects)
    simpa only [List.map_map, Function.comp_def] using this
  rw [Bool.eq_iff_iff, Device.holds_iff, Device.holds_iff]
  simp only [paint, hhandles]

@[simp] theorem paint_mmap (h' : Handle) :
    (m.paint h g).device.mmap h' = m.device.mmap h' := by
  simp only [Device.mmap, paint_failMaps, holds_paint]

end Machine

/-! ### Operations under a mapping -/

/-- The device would map the view now: no mapping of its store is live and the device maps it. -/
def Buffer.View.Mappable (m : Machine) (v : View) : Prop :=
  View.isMapped m v = false ∧ m.device.mmap v.handle = .ok ()

/-- The device maps only a handle it holds. -/
theorem Buffer.View.holds_of_mappable {m : Machine} {v : View} (hm : v.Mappable m) :
    m.device.holds v.handle = true := by
  have h := hm.2
  unfold Device.mmap at h
  split at h
  · cases h
  · split at h
    · assumption
    · cases h

/-- **An operation under a granted mapping** runs on the machine with the store flagged, and
ends with the flag taken down again, whether it returns or fails. -/
theorem run_withMap_of_mappable {m : Machine} {v : View} (hm : v.Mappable m) (body : Act α) :
    let m₁ : Machine := { m with stores := m.stores.modify v.store fun s => { s with mapped := true } }
    Exec.run (v.withMap body) m = ((Exec.run body m₁).1,
      { (Exec.run body m₁).2 with
        stores := (Exec.run body m₁).2.stores.modify v.store fun s => { s with mapped := false } }) := by
  intro m₁
  simp only [View.withMap, run_bind, run_map, hm.1, hm.2, Bool.false_eq_true, if_false,
    run_tryCatch]
  rcases Exec.run body m₁ with ⟨e | x, m₂⟩ <;> rfl

/-- **A refused mapping** fails before the operation runs, leaving the machine as it was but
for a record of the refusal. -/
theorem run_withMap_of_refused {m : Machine} {v : View} (hm : ¬ v.Mappable m) (body : Act α) :
    ∃ e j, Exec.run (v.withMap body) m = (.error e, { m with journal := j }) := by
  simp only [View.withMap, run_bind, run_map]
  by_cases hf : View.isMapped m v = true
  · exact ⟨.map (.alreadyMapped v.handle), m.journal, by simp [hf]⟩
  · have hd : m.device.mmap v.handle ≠ .ok () := fun hd => hm ⟨by simpa using hf, hd⟩
    simp only [hf, Bool.false_eq_true, if_false]
    cases hmm : m.device.mmap v.handle with
    | ok u => exact absurd hmm hd
    | error e => exact ⟨e, _, rfl⟩

/-- Flagging a store mapped and then not mapped restores a store that was not mapped. -/
theorem unflag_flag {m : Machine} {v : View} (hm : View.isMapped m v = false) :
    (m.stores.modify v.store fun s => { s with mapped := true }).modify v.store
      (fun s => { s with mapped := false }) = m.stores :=
  modify_mapped_restore (isMapped_eq_false.1 hm)

/-- **Reading under a granted mapping** gives what is read of the machine, and changes nothing. -/
theorem run_withMap_read {m : Machine} {v : View} (hm : v.Mappable m) {β : Type} (f : Machine → β)
    (hf : ∀ ss, f { m with stores := ss } = f m) :
    Exec.run (v.withMap (do pure (f (← get)))) m = (.ok (f m), m) := by
  rw [run_withMap_of_mappable hm]
  simp only [run_bind, run_get, run_pure, hf, unflag_flag hm.1]

/-- **Rewriting the storage of a view** rewrites the storage under its handle, and gives what the
rewrite gives, or `dflt` when the device holds no allocation under it. -/
theorem run_modifyStorage (v : View) (dflt : α) (f : ByteArray → ByteArray × α) (m : Machine) :
    Exec.run (v.modifyStorage dflt f) m =
      (.ok (((m.device.storage? v.handle).map fun d => (f d).2).getD dflt),
        m.paint v.handle fun d => (f d).1) := by
  simp only [View.modifyStorage, run_modifyGet, modifyStorage_eq, Device.storage?, Option.map_map]
  cases ho : m.device.object? v.handle with
  | none =>
    -- no allocation to rewrite: painting finds none either
    have hp : m.paint v.handle (fun d => (f d).1) = m := by
      have hfind := find?_paintObjects v.handle v.handle (fun d => (f d).1) m.device.objects
      have hnone : m.device.objects.find? (fun a => a.handle == v.handle) = none := ho
      rw [hnone, Option.map_none, List.find?_eq_none] at hfind
      have hall : ∀ a ∈ m.device.objects, a.handle ≠ v.handle := by
        intro a ha hah
        rw [List.find?_eq_none] at hnone
        exact hnone a ha (by simp [hah])
      suffices hpo : ∀ l : List Allocation, (∀ a ∈ l, a.handle ≠ v.handle) →
          paintObjects v.handle (fun d => (f d).1) l = l by
        simp only [Machine.paint, hpo _ hall]
      intro l hl
      induction l with
      | nil => rfl
      | cons a rest ih =>
        simp only [paintObjects, hl a List.mem_cons_self, if_false,
          ih fun b hb => hl b (List.mem_cons_of_mem _ hb)]
    simp [hp]
  | some a => rfl

/-- The writes that rasterizing triangles stores into a surface. -/
theorem rasterizeEach_fst_fun (clip : Raster.Clip) (s : Surface) (tris : List (Raster.Vertex × Raster.Vertex × Raster.Vertex)) :
    (fun d => ((fun data =>
        let (data, ns, rs) := Raster.Engine.rasterizeEach clip s s.view.offset tris data
        (data, (ns, rs))) d).1) =
      fun d => s.storePixels s.view.offset d
        (Raster.trianglesWrites clip s.width s.height s.format tris) := by
  funext d
  exact Raster.rasterizeEach_fst clip s s.view.offset tris d

/-- Writing records one after the other appends them to the journal. -/
theorem run_emitAll (rs : Array Record) (m : Machine) :
    Exec.run (forIn rs PUnit.unit fun r _ => do
      emit r
      pure (ForInStep.yield PUnit.unit)) m = (.ok PUnit.unit, { m with journal := m.journal ++ rs }) := by
  rw [← Array.forIn_toList]
  suffices h : ∀ (l : List Record) (m : Machine), Exec.run (forIn l PUnit.unit fun r _ => do
      emit r
      pure (ForInStep.yield PUnit.unit)) m = (.ok PUnit.unit, { m with journal := m.journal ++ l.toArray }) by
    rw [h, Array.toArray_toList]
  intro l
  induction l with
  | nil => simp
  | cons r rest ih =>
    intro m
    simp only [List.forIn_cons, run_bind, run_emit, run_pure, ih]
    simp

/-- **Rasterizing into a surface whose mapping is granted** stores the writes of the triangles
into the storage under the surface's handle, and changes nothing else but the journal. -/
theorem run_rasterizeInto_of_mappable {m : Machine} {s : Surface} (hm : s.view.Mappable m)
    (clip : Raster.Clip) (tris : List (Raster.Vertex × Raster.Vertex × Raster.Vertex)) :
    ∃ counts j, Exec.run (Raster.Engine.rasterizeInto clip s tris) m =
      (.ok counts, { m.paint s.view.handle (fun d => s.storePixels s.view.offset d
        (Raster.trianglesWrites clip s.width s.height s.format tris)) with journal := j }) := by
  unfold Raster.Engine.rasterizeInto
  rw [run_bind, run_withMap_of_mappable hm, run_modifyStorage, rasterizeEach_fst_fun]
  simp only [Machine.paint_stores, unflag_flag hm.1, run_bind, run_emitAll, run_pure]
  exact ⟨_, _, rfl⟩

/-- **Rasterizing into a surface whose mapping is refused** fails with nothing written. -/
theorem run_rasterizeInto_of_refused {m : Machine} {s : Surface} (hm : ¬ s.view.Mappable m)
    (clip : Raster.Clip) (tris : List (Raster.Vertex × Raster.Vertex × Raster.Vertex)) :
    ∃ e j, Exec.run (Raster.Engine.rasterizeInto clip s tris) m = (.error e, { m with journal := j }) := by
  unfold Raster.Engine.rasterizeInto
  obtain ⟨e, j, hrun⟩ := run_withMap_of_refused hm
    (s.view.modifyStorage (#[], #[]) fun data =>
      let (data, ns, rs) := Raster.Engine.rasterizeEach clip s s.view.offset tris data
      (data, (ns, rs)))
  exact ⟨e, j, run_bind_error hrun _⟩

/-! ### Invalidating a view -/

/-- The allocation under the view's handle, when the device holds one, covers the view: its
bytes and its length reach the end of the view, which is a machine word. -/
def Buffer.View.Spans (m : Machine) (v : View) : Prop :=
  ∀ a, m.device.object? v.handle = some a →
    v.offset + v.size ≤ a.data.size ∧ v.offset + v.size ≤ a.len ∧ v.offset + v.size ≤ wordMax

theorem Host.Device.exists_object?_of_holds {d : Host.Device} {h : Handle}
    (hh : d.holds h = true) : ∃ a, d.object? h = some a := by
  cases ho : d.object? h with
  | some a => exact ⟨a, rfl⟩
  | none => exact absurd (Device.holds_iff.1 hh) (Device.object?_eq_none ho)

/-- A view that its held allocation spans sees as many bytes as it is long. -/
theorem Buffer.View.size_bytes {m : Machine} {v : View} (hs : v.Spans m)
    (hh : m.device.holds v.handle = true) : (v.bytes m).size = v.size := by
  obtain ⟨a, ha⟩ := Device.exists_object?_of_holds hh
  have hsize := (hs a ha).1
  have hdata : m.device.storage? v.handle = some a.data := by
    simp [Device.storage?, ha]
  unfold View.bytes
  rw [hdata, ByteArray.size_extract]
  omega

/-- **Invalidating a view inside the length of its allocation** records the invalidation: the
device checks the length of the allocation and the machine word, not its bytes. -/
theorem run_invalidate_of_len {m : Machine} {v : View} {a : Allocation}
    (ha : m.device.object? v.handle = some a) (hlen : v.offset + v.size ≤ a.len)
    (hword : v.offset + v.size ≤ wordMax) (n : Nat) :
    Exec.run (v.invalidate n) m = (.ok (), { m with device := { m.device with
      invalidations := m.device.invalidations.push ⟨v.handle, v.offset, min n v.size⟩ } }) := by
  have hlen' : v.offset + min n v.size ≤ a.len := by omega
  have hword' : v.offset + min n v.size ≤ wordMax := by omega
  simp only [View.invalidate, Host.invalidate, run_bind, run_get, Act.run_ofExcept,
    Device.invalidate, ha, not_lt.2 hlen', not_lt.2 hword']
  rfl

/-- **Invalidating a view that its held allocation spans** records the invalidation. -/
theorem run_invalidate_of_spans {m : Machine} {v : View} (hs : v.Spans m)
    (hh : m.device.holds v.handle = true) (n : Nat) :
    Exec.run (v.invalidate n) m = (.ok (), { m with device := { m.device with
      invalidations := m.device.invalidations.push ⟨v.handle, v.offset, min n v.size⟩ } }) := by
  obtain ⟨a, ha⟩ := Device.exists_object?_of_holds hh
  obtain ⟨-, hlen, hword⟩ := hs a ha
  exact run_invalidate_of_len ha hlen hword n

/-- Invalidating a view changes nothing but the invalidations, and succeeds on a view that its
held allocation spans. -/
theorem run_invalidate (v : View) (n : Nat) (m : Machine) :
    ∃ r inv, Exec.run (v.invalidate n) m =
        (r, { m with device := { m.device with invalidations := inv } }) ∧
      (v.Spans m → m.device.holds v.handle = true → r = .ok ()) := by
  simp only [View.invalidate, Host.invalidate, run_bind, run_get, Act.run_ofExcept]
  cases hd : m.device.invalidate v.handle v.offset (min n v.size) with
  | error err =>
    refine ⟨.error err, m.device.invalidations, rfl, fun hs hh => ?_⟩
    have := run_invalidate_of_spans hs hh n
    simp only [View.invalidate, Host.invalidate, run_bind, run_get, Act.run_ofExcept, hd] at this
    cases this
  | ok d =>
    -- a granted invalidation only appends to the invalidations
    obtain ⟨inv, rfl⟩ : ∃ inv, d = { m.device with invalidations := inv } := by
      unfold Device.invalidate at hd
      split at hd
      · cases hd
      · split at hd
        · cases hd
        · cases hd
          exact ⟨_, rfl⟩
    exact ⟨.ok (), inv, rfl, fun _ _ => rfl⟩

end TegraGpu
