import Mathlib
import TegraGpu.Proofs.Wraps
import TegraGpu.Proofs.Addressing
/-!
# What the steps of a run leave of the machine

A run of a shader test makes new allocations, writes the storage of its own buffers and draws
into its render target; everything else it does writes records only.  This module says what
such steps leave.  A creation gives out the next handle and keeps every other allocation, and
freeing drops the allocation of one handle only.  A stretch of `n` allocations
(`Machine.Adds`) keeps the working directory and the allocation under every handle it did not
give out, so a buffer made early in a run still holds its bytes when the draw reads them.  A
buffer made with bytes sees exactly those bytes, and a draw that succeeds drew, into its enabled
render targets, the triangles of the window vertices of its indices.

* `Device.object?_createWith_of_ne`, `Device.object?_free` : creating and freeing.
* `Machine.Adds`, `Machine.Adds.trans` : the machine after `n` allocations.
* `run_allocateWith_of_granted`, `run_allocateWith_of_refused`, `run_allocateWith_ok` : a buffer
  made with bytes.
* `Raster.windowVertex`, `Raster.Engine.run_draw_ok_eq` : the triangles a draw drew.
-/

namespace TegraGpu

open Buffer Host Exec Act Raster

namespace Host

/-- Handles given out fewer than `2 ^ 32` creations apart differ. -/
theorem countHandle_add_ne {c k : Nat} (hk : 0 < k) (hk' : k < 2 ^ 32) :
    countHandle (c + k) ≠ countHandle c := by
  intro heq
  have := congrArg (fun h : Handle => h.id.toNat) heq
  simp only [countHandle_toNat] at this
  omega

namespace Device

variable {d d' : Device} {g : Nat → Bool} {size align : Nat} {h : Handle}

/-- A creation gives out the next handle and counts it. -/
theorem createWith_counts (hc : d.createWith g size align = .ok (h, d')) :
    h = countHandle d.created ∧ d'.created = d.created + 1 ∧ d'.failMaps = d.failMaps := by
  obtain ⟨-, -, -, -, -, rfl, rfl⟩ := createWith_ok hc
  exact ⟨rfl, rfl, rfl⟩

/-- A creation keeps the allocation under every other handle. -/
theorem object?_createWith_of_ne (hc : d.createWith g size align = .ok (h, d')) {h' : Handle}
    (hne : h' ≠ h) : d'.object? h' = d.object? h' := by
  obtain ⟨-, -, -, -, -, rfl, rfl⟩ := createWith_ok hc
  -- the filter drops only allocations under the new handle, which `h'` is not
  have hkept : (d.objects.filter fun a => a.handle != d.nextHandle).find?
      (fun a => a.handle == h') = d.objects.find? (fun a => a.handle == h') := by
    rw [List.find?_filter]
    refine congrArg (List.find? · d.objects) (funext fun a => ?_)
    by_cases ha : a.handle = h'
    · simp [ha, hne]
    · simp [ha]
  simp [object?, List.find?_append, hkept, Ne.symm hne]

/-- Freeing drops the allocation under its handle and keeps every other one. -/
theorem object?_free (d : Device) (h h' : Handle) :
    (d.free h).1.object? h' = if h' = h then none else d.object? h' := by
  unfold free
  by_cases hh : h' = h
  · subst hh
    cases ho : d.object? h' with
    | none => simp [ho]
    | some a => simp [object?]
  · cases d.object? h with
    | none => simp [hh]
    | some a =>
      simp only [object?, List.find?_filter, hh, if_false]
      refine congrArg (List.find? · d.objects) (funext fun b => ?_)
      by_cases hb : b.handle = h'
      · simp [hb, hh]
      · simp [hb]

theorem created_free (d : Device) (h : Handle) : (d.free h).1.created = d.created := by
  unfold free
  split <;> rfl

end Device

end Host

/-! ### A stretch of allocations -/

/-- `m'` follows `m` by `n` allocations: the device gave out `n` more handles, and the working
directory and the allocation under every handle but the `n` new ones are as they were. -/
structure Machine.Adds (m : Machine) (n : Nat) (m' : Machine) : Prop where
  /-- The handles given out. -/
  created : m'.device.created = m.device.created + n
  /-- The working directory. -/
  folder : m'.folder = m.folder
  /-- The allocation under every handle that was not given out. -/
  object? : ∀ h, (∀ k < n, h ≠ countHandle (m.device.created + k)) →
    m'.device.object? h = m.device.object? h

namespace Machine.Adds

variable {m m' m₁ m₂ : Machine} {a b n : Nat}

/-- A step that keeps the device and the working directory allocates nothing. -/
theorem of_device (hd : m'.device = m.device) (hf : m'.folder = m.folder) : m.Adds 0 m' :=
  ⟨by rw [hd]; rfl, hf, fun _ _ => by rw [hd]⟩

/-- A step that writes records only allocates nothing. -/
theorem of_journal (h : m' = { m with journal := m'.journal }) : m.Adds 0 m' := by
  rw [h]
  exact of_device rfl rfl

theorem trans (h₁ : m.Adds a m₁) (h₂ : m₁.Adds b m₂) : m.Adds (a + b) m₂ where
  created := by rw [h₂.created, h₁.created, Nat.add_assoc]
  folder := h₂.folder.trans h₁.folder
  object? h hh := by
    have h₂' : ∀ k < b, h ≠ countHandle (m₁.device.created + k) := fun k hk => by
      rw [h₁.created, Nat.add_assoc]
      exact hh (a + k) (by omega)
    rw [h₂.object? h h₂', h₁.object? h fun k hk => hh k (by omega)]

/-- The storage under a handle the stretch did not give out is as it was. -/
theorem storage?_eq (h : m.Adds n m') {H : Handle}
    (hH : ∀ k < n, H ≠ countHandle (m.device.created + k)) :
    m'.device.storage? H = m.device.storage? H := by
  unfold Device.storage?
  rw [h.object? H hH]

/-- The bytes of a view on an allocation the stretch did not make are as they were. -/
theorem bytes_eq (h : m.Adds n m') {v : View}
    (hv : ∀ k < n, v.handle ≠ countHandle (m.device.created + k)) : v.bytes m' = v.bytes m := by
  unfold View.bytes
  rw [h.storage?_eq hv]

end Machine.Adds

theorem Buffer.View.bytes_of_device {m m' : Machine} (hd : m'.device = m.device) (v : View) :
    v.bytes m' = v.bytes m := by
  unfold View.bytes
  rw [hd]

namespace Machine.Redrawn

variable {m m₁ m₂ : Machine} {objs : List Allocation}

/-- A redrawing after records were written is a redrawing of the machine before them. -/
theorem of_journal (h : m₁.Redrawn objs m₂) (hm : m₁ = { m with journal := m₁.journal }) :
    m.Redrawn objs m₂ := by
  obtain ⟨inv, j, rfl⟩ := h
  exact ⟨inv, j, by rw [hm]⟩

theorem created (h : m.Redrawn objs m₁) : m₁.device.created = m.device.created := by
  obtain ⟨inv, j, rfl⟩ := h
  rfl

theorem folder (h : m.Redrawn objs m₁) : m₁.folder = m.folder := by
  obtain ⟨inv, j, rfl⟩ := h
  rfl

/-- Redrawing the storage under one handle rewrites what is read under it, and nothing else. -/
theorem storage?_paint {H : Handle} {g : ByteArray → ByteArray}
    (h : m.Redrawn (paintObjects H g m.device.objects) m₁) (h' : Handle) :
    m₁.device.storage? h' = if h' = H then (m.device.storage? h').map g else m.device.storage? h' := by
  obtain ⟨inv, j, rfl⟩ := h
  exact dataOf_paintObjects H h' g m.device.objects

theorem storage?_paint_self {H : Handle} {g : ByteArray → ByteArray}
    (h : m.Redrawn (paintObjects H g m.device.objects) m₁) :
    m₁.device.storage? H = (m.device.storage? H).map g := by
  rw [h.storage?_paint H, if_pos rfl]

end Machine.Redrawn

/-! ### References given back -/

/-- `m'` follows `m` by references given back: no handle was given out, and the allocation
under every handle is as it was or gone. -/
structure Machine.Trims (m m' : Machine) : Prop where
  /-- No handle was given out. -/
  created : m'.device.created = m.device.created
  /-- The working directory. -/
  folder : m'.folder = m.folder
  /-- The allocation under every handle, kept or freed. -/
  object? : ∀ h, m'.device.object? h = m.device.object? h ∨ m'.device.object? h = none

namespace Machine.Trims

variable {m m₁ m₂ : Machine}

theorem refl (m : Machine) : m.Trims m := ⟨rfl, rfl, fun _ => .inl rfl⟩

theorem trans (h₁ : m.Trims m₁) (h₂ : m₁.Trims m₂) : m.Trims m₂ where
  created := h₂.created.trans h₁.created
  folder := h₂.folder.trans h₁.folder
  object? h := by
    rcases h₂.object? h with h₂' | h₂' <;> rw [h₂']
    · exact h₁.object? h
    · exact .inr rfl

theorem storage? (h : m.Trims m₁) (H : Handle) :
    m₁.device.storage? H = m.device.storage? H ∨ m₁.device.storage? H = none := by
  unfold Device.storage?
  rcases h.object? H with ho | ho <;> rw [ho]
  · exact .inl rfl
  · exact .inr rfl

end Machine.Trims

/-- Giving back a reference trims the machine. -/
theorem run_release_trims (v : View) (m : Machine) : m.Trims (Exec.run v.release m).2 := by
  rcases Buffer.run_release v m with ⟨-, h⟩ | ⟨st, -, -, h⟩ | ⟨st, j, -, -, h⟩ <;> rw [h]
  · exact Machine.Trims.refl m
  · exact ⟨rfl, rfl, fun _ => .inl rfl⟩
  · refine ⟨Device.created_free _ _, rfl, fun h' => ?_⟩
    dsimp only
    rw [Device.object?_free]
    split
    · exact .inr rfl
    · exact .inl rfl

/-- Giving back a framebuffer trims the machine. -/
theorem run_release_framebuffer_trims (fb : Surface.Framebuffer) (m : Machine) :
    m.Trims (Exec.run fb.release m).2 := by
  unfold Surface.Framebuffer.release
  rw [run_bind]
  rcases hr : Exec.run fb.front.view.release m with ⟨r, m₁⟩
  have h₁ : m.Trims m₁ := by
    have := run_release_trims fb.front.view m
    rwa [hr] at this
  cases r with
  | error err => exact h₁
  | ok u =>
    dsimp only
    split
    · exact h₁.trans (run_release_trims _ m₁)
    · exact h₁

/-! ### A buffer made with bytes -/

/-- Copying bytes over the start of a larger array and reading that start back gives them. -/
theorem ByteArray.extract_copySlice_zero (src d : ByteArray) :
    (src.copySlice 0 d 0 src.size).extract 0 src.size = src := by
  rw [ByteArray.copySlice_zero, ByteArray.extract_same, ByteArray.empty_append]
  exact ByteArray.extract_append_eq_left rfl

/-- Giving back the one reference of a store just added erases the store and frees its
allocation. -/
theorem run_release_added (m : Machine) {st : Store} (hst : st.refs = 1) {v : View}
    (hv : v.store = m.stores.next) (d : Host.Device) (j : Journal) :
    ∃ j', Exec.run v.release { m with device := d, stores := (m.stores.add st).2, journal := j } =
      (.ok (), { m with device := (d.free st.handle).1,
                        stores := (m.stores.add st).2.erase m.stores.next, journal := j' }) := by
  have hfind : (m.stores.add st).2.find? v.store = some st := by
    rw [Stores.find?_add, if_pos hv]
  rcases Buffer.run_release v { m with device := d, stores := (m.stores.add st).2, journal := j }
    with ⟨hnone, -⟩ | ⟨st', hst', hlt, -⟩ | ⟨st', j', hst', -, hrun⟩
  · rw [hfind] at hnone
    cases hnone
  · rw [hfind] at hst'
    cases hst'
    omega
  · rw [hfind] at hst'
    cases hst'
    rw [hrun, hv]
    exact ⟨j', rfl⟩

section AllocateWith

variable {data : ByteArray} {m m' : Machine}

/-- A clean-up followed by a failure fails, whatever the clean-up does. -/
theorem run_cleanup_throw {α : Type} (cleanup : Act Unit) (e : Error) (m : Machine) :
    ∃ e' m', Exec.run (cleanup >>= fun _ => (throw e : Act α)) m = (.error e', m') := by
  rw [run_bind]
  rcases Exec.run cleanup m with ⟨e' | u, m'⟩
  · exact ⟨e', m', rfl⟩
  · exact ⟨e, m', rfl⟩

/-- The new view of a buffer of `data`, and the machine that holds it once the bytes are in. -/
theorem run_allocateWith_of_granted (flags : Flags) {hd : Handle} {d : Host.Device}
    (hc : m.device.create data.size 2 = .ok (hd, d)) (hmap : d.failMaps = false) :
    ∃ j, Exec.run (allocateWith flags data) m =
      (.ok ⟨m.stores.next, hd, 0, data.size, flags⟩,
        { m with
          device := { d with
            objects := paintObjects hd (fun x => data.copySlice 0 x 0 data.size) d.objects,
            invalidations := d.invalidations.push ⟨hd, 0, data.size⟩ },
          stores := (m.stores.add { handle := hd, size := data.size, refs := 1 }).2,
          journal := j }) := by
  obtain ⟨-, hword, -, -, -, -, -⟩ := Device.createWith_ok hc
  have hobj := Device.object?_createWith hc
  unfold allocateWith
  rw [run_bind]
  rcases run_allocate data.size flags m with ⟨e, hc', -⟩ | ⟨hd', d', j, hc', hrun⟩
  · rw [hc] at hc'
    cases hc'
  rw [hc] at hc'
  cases hc'
  rw [hrun]
  dsimp only
  -- the new store is unmapped and the device holds its allocation, so the mapping is granted
  have hm : View.Mappable
      { m with
        device := d, stores := (m.stores.add { handle := hd, size := data.size, refs := 1 }).2,
        journal := j }
      ⟨m.stores.next, hd, 0, data.size, flags⟩ := by
    refine ⟨?_, ?_⟩
    · simp [View.isMapped, storeOf?, Stores.find?_add]
    · have hheld : d.holds hd = true := by
        obtain ⟨hmem, hh⟩ := Device.object?_eq_some hobj
        exact Device.holds_iff.2 (List.mem_map.2 ⟨_, hmem, hh⟩)
      simp [Device.mmap, hmap, hheld]
  rw [run_bind, run_tryCatch, run_bind, run_withMap_of_mappable hm]
  simp only [View.writeBytes, run_modify, modifyStorage_eq, hobj, Option.map_some]
  rw [unflag_flag hm.1]
  -- the invalidation covers the allocation the creation made
  have ha : ({ d with
        objects := paintObjects hd (fun x => data.copySlice 0 x 0 data.size) d.objects } :
      Host.Device).object? hd = some ⟨hd, roundUp data.size (max 2 1),
        data.copySlice 0 (zeros (roundUp data.size (max 2 1))) 0 data.size⟩ := by
    rw [Device.object?, find?_paintObjects]
    have hfind : d.objects.find? (fun a => a.handle == hd) =
        some ⟨hd, roundUp data.size (max 2 1), zeros (roundUp data.size (max 2 1))⟩ := hobj
    simp [hfind]
  have hlen : 0 + data.size ≤ roundUp data.size (max 2 1) := by
    have htwo : max 2 1 = 2 := rfl
    simp only [roundUp, htwo]
    omega
  rw [run_invalidate_of_len ha hlen (hlen.trans hword)]
  simp only [Nat.min_self]
  exact ⟨j, rfl⟩

/-- A buffer made with bytes on a device that refuses mappings: the store made for it is given
back, and its allocation freed. -/
theorem run_allocateWith_of_refused (flags : Flags) {hd : Handle} {d : Host.Device}
    (hc : m.device.create data.size 2 = .ok (hd, d)) (hmap : d.failMaps = true) :
    ∃ e j, Exec.run (allocateWith flags data) m =
      (.error e, { m with device := (d.free hd).1,
                          stores := (m.stores.add
                            { handle := hd, size := data.size, refs := 1 }).2.erase m.stores.next,
                          journal := j }) := by
  unfold allocateWith
  rw [run_bind]
  rcases run_allocate data.size flags m with ⟨e, hc', -⟩ | ⟨hd', d', j, hc', hrun⟩
  · rw [hc] at hc'
    cases hc'
  rw [hc] at hc'
  cases hc'
  rw [hrun]
  dsimp only
  have hm : ¬ View.Mappable
      { m with
        device := d, stores := (m.stores.add { handle := hd, size := data.size, refs := 1 }).2,
        journal := j }
      ⟨m.stores.next, hd, 0, data.size, flags⟩ := fun hm => by
    have hmmap := hm.2
    simp [Device.mmap, hmap] at hmmap
  obtain ⟨e, j', hr⟩ := run_withMap_of_refused hm
    ((⟨m.stores.next, hd, 0, data.size, flags⟩ : View).writeBytes 0 data)
  rw [run_bind, run_tryCatch, run_bind, hr]
  dsimp only
  rw [run_bind]
  obtain ⟨j'', hrel⟩ := @run_release_added m { handle := hd, size := data.size, refs := 1 } rfl
    ⟨m.stores.next, hd, 0, data.size, flags⟩ rfl d j'
  rw [hrel]
  exact ⟨e, j'', rfl⟩

/-- **A buffer made with bytes.**  When making it succeeds, the view sees all of a new store
under the next key, on the next handle given out, and it holds exactly the bytes; the machine
follows by one allocation. -/
theorem run_allocateWith_ok {flags : Flags} {v : View}
    (h : Exec.run (allocateWith flags data) m = (.ok v, m')) :
    v = ⟨m.stores.next, countHandle m.device.created, 0, data.size, flags⟩ ∧ m.Adds 1 m' ∧
      v.bytes m' = data := by
  rcases run_allocate data.size flags m with ⟨e, -, hrun⟩ | ⟨hd, d, j, hc, hrun⟩
  · unfold allocateWith at h
    rw [run_bind, hrun] at h
    cases h
  obtain ⟨hh, hcreated, -⟩ := Device.createWith_counts hc
  cases hmap : d.failMaps with
  | true =>
    -- the device refuses the mapping, and the making fails
    obtain ⟨e, j', hr⟩ := run_allocateWith_of_refused flags hc hmap
    rw [hr] at h
    cases h
  | false =>
    obtain ⟨j', hrun'⟩ := run_allocateWith_of_granted flags hc hmap
    rw [hrun'] at h
    simp only [Prod.mk.injEq, Except.ok.injEq] at h
    obtain ⟨rfl, rfl⟩ := h
    subst hh
    refine ⟨rfl, ⟨by rw [hcreated], rfl, fun h' hne => ?_⟩, ?_⟩
    · -- every other handle keeps its allocation
      have hne' : h' ≠ countHandle m.device.created := hne 0 Nat.one_pos
      simp only [Device.object?, find?_paintObjects, hne', if_false, Option.map_id']
      exact Device.object?_createWith_of_ne hc hne'
    · -- the new allocation holds the bytes from its start
      have hobj := Device.object?_createWith hc
      unfold View.bytes Device.storage?
      simp only [Device.object?, find?_paintObjects, if_true] at hobj ⊢
      rw [hobj]
      simp only [Option.map_some, Nat.zero_add]
      exact ByteArray.extract_copySlice_zero data _

end AllocateWith

/-! ### The triangles a draw drew -/

namespace Raster

/-- The window vertex of an index: its position through the viewport, with its colour, or white
when there are no colours. -/
def windowVertex (st : State) (positions : Array Engine.Vec4)
    (colors : Option (Array Engine.Vec4)) (i : Nat) : Option Vertex :=
  Engine.toWindow st positions[i]! ((colors.map fun cs => cs[i]!).getD Engine.white)

namespace Engine

theorem attribVertices_of_device {m m' : Machine} (hd : m'.device = m.device) (e : Engine) :
    e.attribVertices m' = e.attribVertices m := by
  funext loc
  unfold Engine.attribVertices
  simp only [View.bytes_of_device hd]

variable (e : Engine) {positions : Array Vec4} {colors : Option (Array Vec4)}

/-- Looking up an index that is not beyond the vertices gives its window vertex. -/
theorem run_vertexOf_eq {i : Nat} (h : ¬ Beyond positions colors i) (m : Machine) :
    Exec.run (e.vertexOf positions colors i) m =
      (.ok (windowVertex e.state positions colors i), m) := by
  have hp : i < positions.size := by
    by_contra hp
    exact h (.inl (by omega))
  unfold vertexOf windowVertex
  dsimp only
  rw [getElem?_pos positions i hp, run_bind, run_pure, getElem!_pos positions i hp]
  dsimp only
  cases colors with
  | none => rfl
  | some cs =>
    have hc : i < cs.size := by
      by_contra hc
      exact h (.inr ⟨cs, rfl, by omega⟩)
    dsimp only
    rw [getElem?_pos cs i hc, Option.map_some, Option.getD_some, getElem!_pos cs i hc]
    rfl

/-- Looking up indices none of which is beyond the vertices gives their window vertices. -/
theorem run_mapM_vertexOf_eq {l : List Nat} (hl : ∀ i ∈ l, ¬ Beyond positions colors i)
    (m : Machine) :
    Exec.run (l.mapM (e.vertexOf positions colors)) m =
      (.ok (l.map (windowVertex e.state positions colors)), m) := by
  induction l with
  | nil => rfl
  | cons i l ih =>
    rw [List.mapM_cons, run_bind, e.run_vertexOf_eq (hl i List.mem_cons_self)]
    dsimp only
    rw [run_bind, ih fun j hj => hl j (List.mem_cons_of_mem i hj)]
    rfl

/-- **A draw that succeeds** drew, into the enabled render targets of every slot, the triangles
of the window vertices of its indices: at the positions of the `position` attribute, coloured by
the `color` attribute when the program has one. -/
theorem run_draw_ok_eq (hlocs : e.LocationsFit) {prim : Primitive} {v : View}
    {width : IndexWidth} {count : Nat} {m m' : Machine} {u : Unit}
    (h : Exec.run (e.draw prim v width count) m = (.ok u, m')) :
    ∃ p ps, e.program = some p ∧
      (p.attributeLocation "position").bind (e.attribVertices m) = some ps ∧
      m.Redrawn (e.paintSlots (clipOf e.state.scissor)
        (trianglesOf e.state ((decodeIndices (v.bytes m) width count).toList.map
          (windowVertex e.state ps ((p.attributeLocation "color").bind (e.attribVertices m)))))
        (List.range targetSlots) m.device.objects) m' := by
  unfold draw at h
  rw [run_bind] at h
  -- the checks pass and change nothing
  rcases e.run_prepare hlocs prim m with ⟨-, err, j, hr⟩ | ⟨-, p, ps, hprog, hps, hr⟩
  · rw [hr] at h
    cases h
  rw [hr] at h
  dsimp only at h
  rw [run_bind] at h
  by_cases hread : Host.wordMax < count * width.bytes ∨ v.size < count * width.bytes ∨
      ¬ v.Mappable m
  · obtain ⟨err, j, hr'⟩ := run_readIndices_of_refused hread
    rw [hr'] at h
    cases h
  simp only [not_or, not_not] at hread
  rw [run_readIndices hread.1 hread.2.1 hread.2.2] at h
  dsimp only at h
  rw [run_bind] at h
  rcases e.run_mapM_vertexOf ps ((p.attributeLocation "color").bind (e.attribVertices m))
      (decodeIndices (v.bytes m) width count).toList m with ⟨-, err, hr'⟩ | ⟨hall, -, -⟩
  · rw [hr'] at h
    cases h
  rw [e.run_mapM_vertexOf_eq hall] at h
  dsimp only at h
  rw [run_bind, run_note] at h
  dsimp only at h
  rw [run_bind_pure_unit] at h
  -- the render target loop drew into every slot
  obtain ⟨r, l₁, j, inv, -, hloop, hok, -⟩ := e.run_drawTargets (clipOf e.state.scissor) _
    (List.range targetSlots) _
  rw [hloop] at h
  simp only [Prod.mk.injEq] at h
  obtain ⟨rfl, rfl⟩ := h
  rw [(hok rfl).1]
  exact ⟨p, ps, hprog, hps, inv, j, rfl⟩

end Engine

end Raster

end TegraGpu
