import Mathlib
import TegraGpu.Proofs.Memory
/-!
# Drawing into the render targets

A draw ends by rasterizing its triangles into the render target of every slot, in slot order,
passing over the slots that hold no target or a disabled one.  Each enabled target is written
through a mapping of its own and then invalidated.  This module gives the exact run of that
loop: it rewrites the storage of the enabled targets of a prefix of the slots, one after the
other, and changes nothing else but the journal and the invalidations.  It ends without failure
only when no enabled target is refused a mapping, and then the prefix is every slot; it does end
so when besides every enabled target's allocation covers it.

* `Format.getElem?_store_of_outside`, `Surface.footprint_of_storePixels` : the bytes that
  storing pixels changes.
* `objectByte`, `Machine.byteAt` : the byte at a position of the storage under a handle.
* `Machine.Alike` : machines alike in all that mapping and invalidating check.
* `Target.draws`, `Engine.drawnTarget?`, `Engine.paintSlots` : the writes of drawing into a
  target, the enabled target of a slot, and the storage after drawing into a list of slots.
* `footprint_of_paintSlots` : a byte that drawing into slots changes lies in a pixel written.
* `run_drawTarget`, `run_drawTargets` : one slot, and the loop over a list of slots.
-/

namespace TegraGpu

open Buffer Host Exec Act Surface Raster

/-! ### The bytes that storing pixels changes -/

theorem ByteArray.getElem?_set!_ne (d : ByteArray) {i j : Nat} (v : UInt8) (h : i ≠ j) :
    (d.set! i v)[j]? = d[j]? := by
  by_cases hj : j < d.size
  · have hj' : j < (d.set! i v).size := by simpa using hj
    rw [getElem?_pos (d.set! i v) j hj', getElem?_pos d j hj, ByteArray.getElem_set!_ne _ _ _ _ h]
  · have hj' : ¬ j < (d.set! i v).size := by simpa using hj
    rw [getElem?_neg (d.set! i v) j hj', getElem?_neg d j hj]

namespace Surface

@[simp] theorem Format.size_store (f : Format) (d : ByteArray) (pos : Nat) (raw : UInt32) :
    (f.store d pos raw).size = d.size := by
  unfold Format.store
  generalize List.range f.bytesPerPixel = l
  induction l generalizing d with
  | nil => rfl
  | cons i l ih => simp [ih]

/-- Storing a pixel at `pos` changes no byte outside the pixel's bytes from `pos` on. -/
theorem Format.getElem?_store_of_outside (f : Format) (d : ByteArray) {pos p : Nat} (raw : UInt32)
    (hp : p < pos ∨ pos + f.bytesPerPixel ≤ p) : (f.store d pos raw)[p]? = d[p]? := by
  unfold Format.store
  -- every byte the store sets is at `pos + i` with `i` below the pixel size
  have hne : ∀ i ∈ List.range f.bytesPerPixel, pos + i ≠ p := by
    intro i hi
    have := List.mem_range.1 hi
    omega
  generalize List.range f.bytesPerPixel = l at hne
  induction l generalizing d with
  | nil => rfl
  | cons i l ih =>
    rw [List.foldl_cons, ih _ fun k hk => hne k (List.mem_cons_of_mem _ hk),
      ByteArray.getElem?_set!_ne _ _ (hne i List.mem_cons_self)]

@[simp] theorem size_storePixels (s : Surface) (base : Nat) (d : ByteArray)
    (ws : List (Nat × Nat × UInt32)) : (s.storePixels base d ws).size = d.size := by
  unfold Surface.storePixels
  induction ws generalizing d with
  | nil => rfl
  | cons w ws ih => rw [List.foldl_cons, ih, Format.size_store]

/-- **The footprint of pixel writes.**  A byte that storing pixels changes is one of the bytes
of a pixel written. -/
theorem footprint_of_storePixels (s : Surface) (base : Nat) {d : ByteArray}
    {ws : List (Nat × Nat × UInt32)} {p : Nat} (h : (s.storePixels base d ws)[p]? ≠ d[p]?) :
    ∃ w ∈ ws, base + s.pixelOffset w.1 w.2.1 ≤ p ∧
      p < base + s.pixelOffset w.1 w.2.1 + s.format.bytesPerPixel := by
  unfold Surface.storePixels at h
  induction ws generalizing d with
  | nil => exact absurd rfl h
  | cons w ws ih =>
    rw [List.foldl_cons] at h
    by_cases hw : (s.format.store d (base + s.pixelOffset w.1 w.2.1) w.2.2)[p]? = d[p]?
    · -- the first pixel leaves the byte alone: a later one changes it
      rw [← hw] at h
      obtain ⟨w', hw', hp⟩ := ih h
      exact ⟨w', List.mem_cons_of_mem _ hw', hp⟩
    · refine ⟨w, List.mem_cons_self, ?_⟩
      by_contra hout
      exact hw (Format.getElem?_store_of_outside _ _ _ (by omega))

end Surface

/-! ### The bytes of the allocations -/

/-- The byte at position `p` of the storage of the first allocation under a handle; `none` past
the storage's end or when no allocation is under the handle. -/
def objectByte (objs : List Allocation) (h : Handle) (p : Nat) : Option UInt8 :=
  (objs.find? fun a => a.handle == h).bind fun a => a.data[p]?

/-- The byte at position `p` of the storage under a handle. -/
def Machine.byteAt (m : Machine) (h : Handle) (p : Nat) : Option UInt8 :=
  objectByte m.device.objects h p

/-- Rewriting the storage under one handle changes a byte under that handle only, and only one
that the rewrite changes. -/
theorem objectByte_paintObjects_ne {h h' : Handle} {g : ByteArray → ByteArray}
    {objs : List Allocation} {p : Nat}
    (hne : objectByte (paintObjects h' g objs) h p ≠ objectByte objs h p) :
    h = h' ∧ ∃ a, objs.find? (fun a => a.handle == h) = some a ∧ (g a.data)[p]? ≠ a.data[p]? := by
  unfold objectByte at hne
  rw [find?_paintObjects] at hne
  by_cases hh : h = h'
  · subst hh
    cases ha : objs.find? (fun a => a.handle == h) with
    | none => simp [ha] at hne
    | some a =>
      simp only [ha, Option.map_some, if_true, Option.bind_some] at hne
      exact ⟨rfl, a, rfl, hne⟩
  · simp [hh] at hne

/-- What mapping and invalidating read of an allocation: its handle, length and size. -/
def Allocation.shape (a : Allocation) : Handle × Nat × Nat := (a.handle, a.len, a.data.size)

/-- A view whose allocation has a shape that covers it is spanned. -/
theorem Buffer.View.spans_of_shape {m : Machine} {v : View} (len size : Nat)
    (h : (m.device.object? v.handle).map Allocation.shape = some (v.handle, len, size))
    (hsize : v.offset + v.size ≤ size) (hlen : v.offset + v.size ≤ len)
    (hword : v.offset + v.size ≤ wordMax) : v.Spans m := by
  intro a ha
  rw [ha, Option.map_some, Option.some.injEq, Allocation.shape, Prod.mk.injEq, Prod.mk.injEq] at h
  obtain ⟨-, hl, hs⟩ := h
  exact ⟨hs ▸ hsize, hl ▸ hlen, hword⟩

theorem shapes_paintObjects {g : ByteArray → ByteArray} (hg : ∀ d, (g d).size = d.size)
    (h : Handle) (objs : List Allocation) :
    (paintObjects h g objs).map Allocation.shape = objs.map Allocation.shape := by
  induction objs with
  | nil => rfl
  | cons a rest ih => by_cases ha : a.handle = h <;> simp [paintObjects, ha, ih, Allocation.shape, hg]

/-- Two machines alike in all that mapping and invalidating a view check: the flags of the
stores, whether the device refuses mappings, and the handles, lengths and sizes of the
allocations. -/
structure Machine.Alike (m m' : Machine) : Prop where
  /-- The stores. -/
  stores : m'.stores = m.stores
  /-- Whether the device refuses mappings. -/
  failMaps : m'.device.failMaps = m.device.failMaps
  /-- The shapes of the allocations. -/
  shapes : m'.device.objects.map Allocation.shape = m.device.objects.map Allocation.shape

namespace Machine.Alike

variable {m m' m'' : Machine}

theorem refl (m : Machine) : m.Alike m := ⟨rfl, rfl, rfl⟩

theorem trans (h : m.Alike m') (h' : m'.Alike m'') : m.Alike m'' :=
  ⟨h'.stores.trans h.stores, h'.failMaps.trans h.failMaps, h'.shapes.trans h.shapes⟩

theorem holds_eq (h : m.Alike m') (hd : Handle) : m'.device.holds hd = m.device.holds hd := by
  have hh : m'.device.objects.map Allocation.handle = m.device.objects.map Allocation.handle := by
    have := congrArg (List.map Prod.fst) h.shapes
    simpa only [List.map_map, Function.comp_def, Allocation.shape] using this
  rw [Bool.eq_iff_iff, Device.holds_iff, Device.holds_iff, hh]

theorem mappable_iff (h : m.Alike m') (v : View) : v.Mappable m' ↔ v.Mappable m := by
  have hmapped : View.isMapped m' v = View.isMapped m v := by
    simp only [View.isMapped, storeOf?, h.stores]
  unfold View.Mappable
  rw [hmapped, Device.mmap, Device.mmap, h.failMaps, h.holds_eq]

/-- The shape of the allocation under a handle is read off the shapes of the allocations. -/
theorem object?_shape (h : m.Alike m') (hd : Handle) :
    (m'.device.object? hd).map Allocation.shape = (m.device.object? hd).map Allocation.shape := by
  have hfind : ∀ d : Host.Device, (d.object? hd).map Allocation.shape =
      (d.objects.map Allocation.shape).find? fun s => s.1 == hd := by
    intro d
    rw [List.find?_map]
    rfl
  rw [hfind, hfind, h.shapes]

theorem spans_iff (h : m.Alike m') (v : View) : v.Spans m' ↔ v.Spans m := by
  -- the view is spanned when the shape of its allocation, if any, covers it
  have hspan : ∀ k : Machine, v.Spans k ↔ ∀ s, (k.device.object? v.handle).map Allocation.shape = some s →
      v.offset + v.size ≤ s.2.2 ∧ v.offset + v.size ≤ s.2.1 ∧ v.offset + v.size ≤ wordMax := by
    intro k
    unfold View.Spans
    constructor
    · rintro hk s hs
      obtain ⟨a, ha, rfl⟩ := Option.map_eq_some_iff.1 hs
      obtain ⟨h1, h2, h3⟩ := hk a ha
      exact ⟨h1, h2, h3⟩
    · intro hk a ha
      exact hk _ (by rw [ha]; rfl)
  rw [hspan, hspan, h.object?_shape]

end Machine.Alike

/-- A machine whose allocations keep their shapes, with any invalidations and journal, is alike
the machine it came from. -/
theorem Machine.alike_redrawn (m : Machine) {objs : List Allocation}
    (hobjs : objs.map Allocation.shape = m.device.objects.map Allocation.shape)
    (inv : Array Invalidation) (j : Array Record) :
    m.Alike { m with device := { m.device with objects := objs, invalidations := inv }, journal := j } :=
  ⟨rfl, rfl, hobjs⟩

/-! ### The render targets a draw writes -/

namespace Raster

/-- The storage writes of drawing triangles into a render target: the writes of the triangles
stored into its surface, whose pixels start at the view's offset. -/
def Target.draws (t : Target) (clip : Clip) (tris : List (Vertex × Vertex × Vertex))
    (d : ByteArray) : ByteArray :=
  t.surface.storePixels t.surface.view.offset d
    (trianglesWrites clip t.surface.width t.surface.height t.surface.format tris)

@[simp] theorem Target.size_draws (t : Target) (clip : Clip)
    (tris : List (Vertex × Vertex × Vertex)) (d : ByteArray) : (t.draws clip tris d).size = d.size :=
  Surface.size_storePixels _ _ _ _

namespace Engine

variable (e : Engine) (clip : Clip) (tris : List (Vertex × Vertex × Vertex))

/-- The render target of a slot, when the slot holds one that is enabled. -/
def drawnTarget? (slot : Nat) : Option Target :=
  (e.targets[slot]?.join).filter (·.enabled)

/-- The allocations after drawing triangles into the enabled render targets of a list of slots,
one slot after the other. -/
def paintSlots (l : List Nat) (objs : List Allocation) : List Allocation :=
  l.foldl (fun objs slot => ((e.drawnTarget? slot).map fun t =>
    paintObjects t.surface.view.handle (t.draws clip tris) objs).getD objs) objs

/-- The render target of a slot is enabled and the device would not map it now. -/
def TargetRefused (m : Machine) (slot : Nat) : Prop :=
  ∃ t, e.drawnTarget? slot = some t ∧ ¬ t.surface.view.Mappable m

/-- The allocation of the render target of a slot, when it is enabled, covers it. -/
def TargetSpans (m : Machine) (slot : Nat) : Prop :=
  ∀ t, e.drawnTarget? slot = some t → t.surface.view.Spans m

theorem shapes_paintSlots (l : List Nat) (objs : List Allocation) :
    (e.paintSlots clip tris l objs).map Allocation.shape = objs.map Allocation.shape := by
  induction l generalizing objs with
  | nil => rfl
  | cons slot l ih =>
    rw [paintSlots, List.foldl_cons, ← paintSlots, ih]
    cases e.drawnTarget? slot with
    | none => rfl
    | some t => exact shapes_paintObjects (t.size_draws clip tris) _ _

/-- **Where drawing into slots writes.**  A byte that drawing into the slots of a list changes
lies under the handle of the enabled target of one of the slots, within the bytes of a pixel
that the triangles write into that target. -/
theorem footprint_of_paintSlots {l : List Nat} {objs : List Allocation} {h : Handle} {p : Nat}
    (hne : objectByte (e.paintSlots clip tris l objs) h p ≠ objectByte objs h p) :
    ∃ slot ∈ l, ∃ t, e.drawnTarget? slot = some t ∧ t.surface.view.handle = h ∧
      ∃ w ∈ trianglesWrites clip t.surface.width t.surface.height t.surface.format tris,
        t.surface.view.offset + t.surface.pixelOffset w.1 w.2.1 ≤ p ∧
          p < t.surface.view.offset + t.surface.pixelOffset w.1 w.2.1 +
            t.surface.format.bytesPerPixel := by
  induction l generalizing objs with
  | nil => exact absurd rfl hne
  | cons slot l ih =>
    rw [paintSlots, List.foldl_cons, ← paintSlots] at hne
    generalize hstep : ((e.drawnTarget? slot).map fun t =>
      paintObjects t.surface.view.handle (t.draws clip tris) objs).getD objs = objs₁ at hne
    by_cases hsame : objectByte objs₁ h p = objectByte objs h p
    · -- the first slot leaves the byte alone: a later slot changes it
      rw [← hsame] at hne
      obtain ⟨slot', hslot', rest⟩ := ih hne
      exact ⟨slot', List.mem_cons_of_mem _ hslot', rest⟩
    · cases ht : e.drawnTarget? slot with
      | none =>
        rw [ht, Option.map_none, Option.getD_none] at hstep
        exact absurd (by rw [hstep]) hsame
      | some t =>
        rw [ht] at hstep
        simp only [Option.map_some, Option.getD_some] at hstep
        rw [← hstep] at hsame
        obtain ⟨rfl, a, -, ha⟩ := objectByte_paintObjects_ne hsame
        exact ⟨slot, List.mem_cons_self, t, ht, rfl, Surface.footprint_of_storePixels _ _ ha⟩

theorem drawnTarget?_eq_some {slot : Nat} {t : Target} :
    e.drawnTarget? slot = some t ↔ e.targets[slot]?.join = some t ∧ t.enabled = true := by
  simp [drawnTarget?, Option.filter_eq_some_iff]

theorem targetRefused_iff_of_alike {m m' : Machine} (h : m.Alike m') (slot : Nat) :
    e.TargetRefused m' slot ↔ e.TargetRefused m slot := by
  simp only [TargetRefused, h.mappable_iff]

theorem targetSpans_iff_of_alike {m m' : Machine} (h : m.Alike m') (slot : Nat) :
    e.TargetSpans m' slot ↔ e.TargetSpans m slot := by
  simp only [TargetSpans, h.spans_iff]

/-! ### The exact run of the loop -/

/-- **One render target slot.**  Drawing into a slot rewrites at most the storage of its enabled
target, and changes nothing else but the journal and the invalidations.  It succeeds only with
the target written and mapped, and it does succeed when the target is mapped and its allocation
covers it. -/
theorem run_drawTarget (slot : Nat) (m : Machine) :
    ∃ r k j inv, k <+: [slot] ∧
      Exec.run (e.drawTarget clip tris slot) m =
        (r, { m with
          device := { m.device with
            objects := e.paintSlots clip tris k m.device.objects, invalidations := inv },
          journal := j }) ∧
      (r = .ok () → k = [slot] ∧ ¬ e.TargetRefused m slot) ∧
      (¬ e.TargetRefused m slot → e.TargetSpans m slot → r = .ok ()) := by
  cases ht : e.drawnTarget? slot with
  | none =>
    -- no enabled target in the slot: nothing happens
    have hrun : Exec.run (e.drawTarget clip tris slot) m = (.ok (), m) := by
      unfold drawTarget
      split
      · next t htj =>
        have hoff : t.enabled = false := by
          cases hen : t.enabled
          · rfl
          · rw [(e.drawnTarget?_eq_some).2 ⟨htj, hen⟩] at ht
            cases ht
        simp [hoff]
      · rfl
    have hnot : ¬ e.TargetRefused m slot := by
      rintro ⟨t, ht', -⟩
      rw [ht] at ht'
      cases ht'
    refine ⟨.ok (), [slot], m.journal, m.device.invalidations, List.prefix_refl _, ?_,
      fun _ => ⟨rfl, hnot⟩, fun _ _ => rfl⟩
    rw [hrun]
    simp [paintSlots, ht]
  | some t =>
    obtain ⟨htj, hen⟩ := (e.drawnTarget?_eq_some).1 ht
    have hpaint : e.paintSlots clip tris [slot] m.device.objects =
        paintObjects t.surface.view.handle (t.draws clip tris) m.device.objects := by
      simp [paintSlots, ht]
    by_cases hm : t.surface.view.Mappable m
    · obtain ⟨counts, j₁, hr⟩ := run_rasterizeInto_of_mappable hm clip tris
      have hnot : ¬ e.TargetRefused m slot := by
        rintro ⟨t', ht', hm'⟩
        rw [ht] at ht'
        cases ht'
        exact hm' hm
      -- the surface is written; then its invalidation may still fail
      obtain ⟨r, inv, hinv, hok⟩ := run_invalidate t.surface.view t.surface.view.size
        { m.paint t.surface.view.handle (t.draws clip tris) with journal := j₁ }
      have hrun : Exec.run (e.drawTarget clip tris slot) m =
          Exec.run (do
            t.surface.view.invalidate t.surface.view.size
            note .trace .engine ("render target " ++ toString slot ++ ": " ++
              toString (counts.foldl (· + ·) 0) ++ " pixels written"))
            { m.paint t.surface.view.handle (t.draws clip tris) with journal := j₁ } := by
        unfold drawTarget
        rw [htj]
        simp only [hen, if_true]
        rw [run_bind, hr]
        rfl
      rw [hrun, run_bind, hinv]
      cases r with
      | error err =>
        refine ⟨.error err, [slot], j₁, inv, List.prefix_refl _, ?_, (fun h => by cases h), ?_⟩
        · rw [hpaint]
          rfl
        · intro _ hs
          have halike : m.Alike { m.paint t.surface.view.handle (t.draws clip tris) with journal := j₁ } :=
            ⟨rfl, rfl, shapes_paintObjects (t.size_draws clip tris) _ _⟩
          exact hok ((halike.spans_iff _).2 (hs t ht)) (by rw [halike.holds_eq]; exact View.holds_of_mappable hm)
      | ok u =>
        exact ⟨.ok (), [slot], _, inv, List.prefix_refl _, by rw [hpaint]; rfl,
          fun _ => ⟨rfl, hnot⟩, fun _ _ => rfl⟩
    · obtain ⟨err, j, hr⟩ := run_rasterizeInto_of_refused hm clip tris
      refine ⟨.error err, [], j, m.device.invalidations, List.nil_prefix, ?_, (fun h => by cases h),
        fun hno => absurd ⟨t, ht, hm⟩ hno⟩
      unfold drawTarget
      rw [htj]
      simp only [hen, if_true]
      rw [run_bind, hr]
      rfl

/-- **The render target loop.**  Drawing into the slots of a list, one after the other, rewrites
the storage of the enabled targets of a prefix of the list and changes nothing else but the
journal and the invalidations.  It succeeds only when no enabled target of the list is refused a
mapping, with every slot drawn, and it does succeed when besides each enabled target's
allocation covers it. -/
theorem run_drawTargets (l : List Nat) (m : Machine) :
    ∃ r l₁ j inv, l₁ <+: l ∧
      Exec.run (forIn l PUnit.unit fun slot _ => do
          e.drawTarget clip tris slot
          pure (ForInStep.yield PUnit.unit)) m =
        (r, { m with
          device := { m.device with
            objects := e.paintSlots clip tris l₁ m.device.objects, invalidations := inv },
          journal := j }) ∧
      (r = .ok () → l₁ = l ∧ ∀ slot ∈ l, ¬ e.TargetRefused m slot) ∧
      ((∀ slot ∈ l, ¬ e.TargetRefused m slot ∧ e.TargetSpans m slot) → r = .ok ()) := by
  induction l generalizing m with
  | nil =>
    exact ⟨.ok (), [], m.journal, m.device.invalidations, List.prefix_refl _, rfl,
      fun _ => ⟨rfl, by simp⟩, fun _ => rfl⟩
  | cons slot rest ih =>
    obtain ⟨r₁, k, j₁, inv₁, hk, hrun, hok, hfine⟩ := run_drawTarget e clip tris slot m
    rw [List.forIn_cons, run_bind, run_bind, hrun]
    cases r₁ with
    | error err =>
      -- the slot fails, and the loop stops there
      refine ⟨.error err, k, j₁, inv₁, hk.trans ⟨rest, rfl⟩, rfl, (fun h => by cases h), fun hall => ?_⟩
      have hs := hall slot List.mem_cons_self
      cases hfine hs.1 hs.2
    | ok u =>
      obtain ⟨rfl, hnot⟩ := hok rfl
      -- the rest of the loop runs on a machine alike the first
      have halike : m.Alike { m with
          device := { m.device with
            objects := e.paintSlots clip tris [slot] m.device.objects, invalidations := inv₁ },
          journal := j₁ } :=
        m.alike_redrawn (e.shapes_paintSlots clip tris [slot] _) inv₁ j₁
      obtain ⟨r, l₁, j, inv, hl₁, hrest, hok', hfine'⟩ := ih _
      refine ⟨r, slot :: l₁, j, inv, List.cons_prefix_cons.2 ⟨rfl, hl₁⟩, hrest, ?_, ?_⟩
      · intro hr
        obtain ⟨rfl, hall⟩ := hok' hr
        refine ⟨rfl, ?_⟩
        intro s hs
        rcases List.mem_cons.1 hs with rfl | hs
        · exact hnot
        · exact (e.targetRefused_iff_of_alike halike s).not.1 (hall s hs)
      · intro hall
        apply hfine'
        intro s hs
        rw [e.targetRefused_iff_of_alike halike, e.targetSpans_iff_of_alike halike]
        exact hall s (List.mem_cons_of_mem _ hs)

end Engine

end Raster

end TegraGpu
