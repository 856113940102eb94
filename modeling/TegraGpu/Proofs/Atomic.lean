import Mathlib
import TegraGpu.Proofs.Frames
/-!
# Making framebuffers and buffers, all or nothing

Making a double-buffered framebuffer takes two allocations, and making a buffer with bytes takes
an allocation and then a mapping; in both the second step can be refused after the first was
granted, and the first is given back then.  This module follows the three ways each can go and
shows that a refusal leaves the device and the stores as they were, while a success adds exactly
the new allocations.

The device gives out handles by counting creations in 32 bits, and a creation takes the place of
an allocation held under the same handle.  Giving back what was made is therefore exact only while
the counter has not wrapped: after `2 ^ 32` creations a framebuffer whose back surface is refused
takes an allocation held from before with it
(`double_framebuffer_refusal_drops_wrapped_allocation`).
What a refused buffer leaves is a part of what was held, wrapped or not.

* `Surface.Framebuffer.run_create_double`, `run_allocateWith_cases` : the three ways each goes.
* `Surface.Framebuffer.MadeOn` : what a framebuffer made afresh leaves.
* `creation_all_or_nothing` : both makings together.
-/

namespace TegraGpu

open Buffer Exec Act Host Surface

namespace Host.Device

variable {d d' : Device} {n : Nat} {h : Handle}

/-- On a device whose books are sound and whose handle counter has not wrapped, a creation adds
one allocation, zero-filled, under a handle nothing held, and counts its bytes. -/
theorem create_of_sound (hd : d.Sound) (hfew : d.created < 2 ^ 32)
    (hc : d.create n 2 = .ok (h, d')) :
    h ∉ d.objects.map Allocation.handle ∧
      d'.objects = d.objects ++ [⟨h, roundUp n 2, zeros (roundUp n 2)⟩] ∧
      d'.allocated = d.allocated + roundUp n 2 ∧ d'.created = d.created + 1 ∧ d'.Sound := by
  have hsound := hd.create hfew hc
  obtain ⟨-, -, -, -, hfit, rfl, rfl⟩ := createWith_ok hc
  have hfresh := nextHandle_fresh hd hfew
  refine ⟨hfresh, ?_, ?_, rfl, hsound⟩
  · simp only [filter_handle_of_not_mem hfresh]
    rfl
  · have := hd.allocated_eq
    simp only
    rw [Nat.min_eq_left (by omega)]
    rfl

/-- Freeing the allocation that a creation just added takes the device's allocations and byte
count back to what they were. -/
theorem free_of_create (hd : d.Sound) (hfew : d.created < 2 ^ 32)
    (hc : d.create n 2 = .ok (h, d')) :
    (d'.free h).1.objects = d.objects ∧ (d'.free h).1.allocated = d.allocated := by
  obtain ⟨hfresh, hobjs, halloc, -, -⟩ := create_of_sound hd hfew hc
  have hobj := object?_createWith hc
  unfold free
  rw [hobj]
  refine ⟨?_, ?_⟩
  · simp only [hobjs, List.filter_append, filter_handle_of_not_mem hfresh]
    simp
  · simp only [halloc]
    have : roundUp n (max 2 1) = roundUp n 2 := rfl
    omega

/-- Whatever the device, freeing the allocation that a creation just added leaves only
allocations that were held before. -/
theorem free_of_create_sublist (hc : d.create n 2 = .ok (h, d')) :
    (d'.free h).1.objects.Sublist d.objects := by
  obtain ⟨-, -, -, -, -, rfl, rfl⟩ := createWith_ok hc
  have hobj := object?_createWith hc
  unfold free
  rw [hobj]
  simp only [List.filter_append, List.filter_filter, Bool.and_self]
  simp

end Host.Device

/-- Giving back the store just added gives back the stores as they were. -/
theorem Buffer.Stores.entries_erase_add (ss : Stores) (st : Store) :
    ((ss.add st).2.erase ss.next).entries = ss.entries := by
  show (ss.entries ++ [(ss.next, st)]).filter (fun e => e.1 != ss.next) = ss.entries
  rw [List.filter_append, List.filter_eq_self.2, List.filter_singleton]
  · simp
  · intro e he
    simpa using Nat.ne_of_lt (ss.lt_next e he)

/-! ### Framebuffers -/

namespace Surface

variable {width height : Nat} {format : Format} {layout : Layout} {double : Bool} {m m' : Machine}

/-- The surfaces of a framebuffer: the front one, then the back one when there is one. -/
def Framebuffer.surfaces (fb : Framebuffer) : List Surface :=
  fb.front :: fb.back.toList

/-- Drawing goes to the last of the surfaces. -/
theorem Framebuffer.getLast?_surfaces (fb : Framebuffer) :
    fb.surfaces.getLast? = some fb.drawSurface := by
  obtain ⟨front, back⟩ := fb
  cases back <;> rfl

/-- **Making a double-buffered framebuffer.**  Either the front surface is refused and nothing
changes; or the front surface is made and the back one refused, and the front's store is given
back again; or both are made, each on a store of its own. -/
theorem Framebuffer.run_create_double (width height : Nat) (format : Format) (layout : Layout)
    (m : Machine) :
    (∃ e, Exec.run (Framebuffer.create width height format layout true) m = (.error e, m)) ∨
      (∃ pitch size h d e j, storageSize width height format layout = some (pitch, size) ∧
        m.device.create size 2 = .ok (h, d) ∧
        Exec.run (Framebuffer.create width height format layout true) m =
          (.error e, { m with device := (d.free h).1,
                              stores := (m.stores.add { handle := h, size, refs := 1 }).2.erase
                                m.stores.next,
                              journal := j })) ∨
      ∃ pitch size h d h' d' j, storageSize width height format layout = some (pitch, size) ∧
        m.device.create size 2 = .ok (h, d) ∧ d.create size 2 = .ok (h', d') ∧
        Exec.run (Framebuffer.create width height format layout true) m =
          (.ok ⟨⟨width, height, format, layout, pitch,
                ⟨m.stores.next, h, 0, size, { renderTarget := true }⟩⟩,
              some ⟨width, height, format, layout, pitch,
                ⟨m.stores.next + 1, h', 0, size, { renderTarget := true }⟩⟩⟩,
            { m with device := d',
                     stores := ((m.stores.add { handle := h, size, refs := 1 }).2.add
                       { handle := h', size, refs := 1 }).2,
                     journal := j }) := by
  unfold Framebuffer.create
  rw [run_bind]
  rcases run_create width height format layout m with ⟨e, hrun⟩ |
    ⟨pitch, size, h, d, j, hs, hc, hrun⟩
  · rw [hrun]
    exact .inl ⟨e, rfl⟩
  · rw [hrun]
    simp only [if_true]
    rw [run_bind, run_tryCatch, run_bind]
    rcases run_create width height format layout
        { m with device := d, stores := (m.stores.add { handle := h, size, refs := 1 }).2,
                 journal := j } with
      ⟨e, hrun'⟩ | ⟨pitch', size', h', d', j', hs', hc', hrun'⟩
    · -- the back surface is refused: the front one's store is given back
      rw [hrun']
      simp only [run_bind, run_note]
      obtain ⟨j', hrel⟩ := @run_release_added m { handle := h, size, refs := 1 } rfl
        ⟨m.stores.next, h, 0, size, { renderTarget := true }⟩ rfl d _
      rw [hrel]
      exact .inr (.inl ⟨pitch, size, h, d, e, j', hs, hc, rfl⟩)
    · rw [hs] at hs'
      cases hs'
      rw [hrun']
      simp only [run_bind, run_pure, run_note]
      exact .inr (.inr ⟨pitch, size, h, d, h', d', _, hs, hc, hc', rfl⟩)

/-- A framebuffer made on the device of `m`, leaving the machine `m'`: as many surfaces as
`double` asks, all of the asked shape and of the size its storage takes, drawing going to the one
made last; each on an allocation of its own under a handle the device did not hold, and the
device holding its old allocations and then the surfaces', zero-filled and counted. -/
structure Framebuffer.MadeOn (width height : Nat) (format : Format) (layout : Layout)
    (double : Bool) (m m' : Machine) (fb : Framebuffer) : Prop where
  /-- A back surface exactly when double-buffered. -/
  count : fb.back.isSome = double
  /-- Every surface has the asked shape, with the pitch and size of its storage. -/
  shape : ∃ pitch size, storageSize width height format layout = some (pitch, size) ∧
    ∀ s ∈ fb.surfaces, s.width = width ∧ s.height = height ∧ s.format = format ∧
      s.layout = layout ∧ s.pitch = pitch ∧ s.view.size = size
  /-- Drawing goes to the surface made last. -/
  drawn : fb.surfaces.getLast? = some fb.drawSurface
  /-- No two surfaces share an allocation. -/
  distinct : (fb.surfaces.map fun s => s.view.handle).Nodup
  /-- No surface sits on an allocation held before. -/
  fresh : ∀ s ∈ fb.surfaces, s.view.handle ∉ m.device.objects.map Allocation.handle
  /-- The device holds its old allocations, then the surfaces', zero-filled. -/
  objects : m'.device.objects = m.device.objects ++ fb.surfaces.map fun s =>
    ⟨s.view.handle, roundUp s.view.size 2, zeros (roundUp s.view.size 2)⟩
  /-- The byte count grows by the surfaces' allocations. -/
  allocated : m'.device.allocated =
    m.device.allocated + (fb.surfaces.map fun s => roundUp s.view.size 2).sum
  /-- The books stay sound. -/
  sound : m'.device.Sound

/-- **A refused framebuffer leaves the device as it was.**  On a device whose books are sound and
whose handle counter has not wrapped, a creation that fails, also one whose back surface is
refused after its front surface was made, leaves the device's allocations, its byte count and
the stores as they were. -/
theorem Framebuffer.create_error {e : Error} (hd : m.device.Sound)
    (hfew : m.device.created < 2 ^ 32)
    (h : Exec.run (Framebuffer.create width height format layout double) m = (.error e, m')) :
    m'.device.objects = m.device.objects ∧ m'.device.allocated = m.device.allocated ∧
      m'.stores.entries = m.stores.entries := by
  cases double with
  | false =>
    rcases run_create_single width height format layout m with ⟨e', hrun⟩ |
      ⟨pitch, size, hh, d, j, -, -, hrun⟩ <;> rw [hrun] at h
    · cases h
      exact ⟨rfl, rfl, rfl⟩
    · cases h
  | true =>
    rcases run_create_double width height format layout m with ⟨e', hrun⟩ |
      ⟨pitch, size, hh, d, e', j, -, hc, hrun⟩ |
      ⟨pitch, size, hh, d, hh', d', j, -, -, -, hrun⟩ <;> rw [hrun] at h
    · cases h
      exact ⟨rfl, rfl, rfl⟩
    · -- the back surface was refused: freeing the front one undoes its creation
      cases h
      obtain ⟨hobjs, halloc⟩ := Device.free_of_create hd hfew hc
      exact ⟨hobjs, halloc, Stores.entries_erase_add _ _⟩
    · cases h

/-- **A framebuffer made afresh.**  On a device whose books are sound and that can give out two
more handles before its counter wraps, a framebuffer that is made is made on allocations of its
own, added to the device's. -/
theorem Framebuffer.create_ok {fb : Framebuffer} (hd : m.device.Sound)
    (hfew : m.device.created + 2 ≤ 2 ^ 32)
    (h : Exec.run (Framebuffer.create width height format layout double) m = (.ok fb, m')) :
    fb.MadeOn width height format layout double m m' := by
  cases double with
  | false =>
    rcases run_create_single width height format layout m with ⟨e, hrun⟩ |
      ⟨pitch, size, hh, d, j, hs, hc, hrun⟩ <;> rw [hrun] at h
    · cases h
    · cases h
      obtain ⟨hfresh, hobjs, halloc, hcreated, hsound⟩ :=
        Device.create_of_sound hd (by omega) hc
      refine ⟨rfl, ⟨pitch, size, hs, ?_⟩, Framebuffer.getLast?_surfaces _, ?_, ?_, hobjs, ?_,
        hsound⟩
      · simp [Framebuffer.surfaces]
      · simp [Framebuffer.surfaces]
      · simpa [Framebuffer.surfaces] using hfresh
      · simpa [Framebuffer.surfaces] using halloc
  | true =>
    rcases run_create_double width height format layout m with ⟨e, hrun⟩ |
      ⟨pitch, size, hh, d, e, j, -, -, hrun⟩ |
      ⟨pitch, size, hh, d, hh', d', j, hs, hc, hc', hrun⟩ <;> rw [hrun] at h
    · cases h
    · cases h
    · cases h
      obtain ⟨hfresh, hobjs, halloc, hcreated, hsound⟩ :=
        Device.create_of_sound hd (by omega) hc
      obtain ⟨hfresh', hobjs', halloc', -, hsound'⟩ :=
        Device.create_of_sound hsound (by omega) hc'
      -- the back surface's handle is new beside the front one's, which the device now holds
      have hne : hh ≠ hh' := by
        rintro rfl
        exact hfresh' (by simp [hobjs])
      have hold : hh' ∉ m.device.objects.map Allocation.handle := fun hmem =>
        hfresh' (by rw [hobjs, List.map_append]; exact List.mem_append_left _ hmem)
      refine ⟨rfl, ⟨pitch, size, hs, ?_⟩, Framebuffer.getLast?_surfaces _, ?_, ?_, ?_, ?_,
        hsound'⟩
      · simp [Framebuffer.surfaces]
      · simpa [Framebuffer.surfaces] using hne
      · intro s hs
        simp only [Framebuffer.surfaces, Option.toList_some, List.mem_cons, List.not_mem_nil,
          or_false] at hs
        rcases hs with rfl | rfl
        · exact hfresh
        · exact hold
      · simp [Framebuffer.surfaces, hobjs', hobjs]
      · simp only [Framebuffer.surfaces, halloc', halloc]
        simp
        omega

end Surface

/-! ### Buffers made with bytes -/

section AllocateWith

variable {flags : Flags} {data : ByteArray} {m m' : Machine}

/-- **Making a buffer with bytes.**  Either the allocation is refused and nothing changes; or the
mapping is refused, and the store made is given back; or the bytes are copied in, the mapping
ended and all of the store invalidated. -/
theorem run_allocateWith_cases (flags : Flags) (data : ByteArray) (m : Machine) :
    (∃ e, Exec.run (allocateWith flags data) m = (.error e, m)) ∨
      (∃ hd d e j, m.device.create data.size 2 = .ok (hd, d) ∧
        Exec.run (allocateWith flags data) m =
          (.error e, { m with device := (d.free hd).1,
                              stores := (m.stores.add
                                { handle := hd, size := data.size, refs := 1 }).2.erase
                                m.stores.next,
                              journal := j })) ∨
      ∃ hd d j, m.device.create data.size 2 = .ok (hd, d) ∧
        Exec.run (allocateWith flags data) m =
          (.ok ⟨m.stores.next, hd, 0, data.size, flags⟩,
            { m with
              device := { d with
                objects := paintObjects hd (fun x => data.copySlice 0 x 0 data.size) d.objects,
                invalidations := d.invalidations.push ⟨hd, 0, data.size⟩ },
              stores := (m.stores.add { handle := hd, size := data.size, refs := 1 }).2,
              journal := j }) := by
  rcases run_allocate data.size flags m with ⟨e, -, hrun⟩ | ⟨hd, d, j, hc, -⟩
  · refine .inl ⟨e, ?_⟩
    unfold allocateWith
    rw [run_bind, hrun]
  · cases hmap : d.failMaps with
    | true =>
      obtain ⟨e, j', hrun⟩ := run_allocateWith_of_refused flags hc hmap
      exact .inr (.inl ⟨hd, d, e, j', hc, hrun⟩)
    | false =>
      obtain ⟨j', hrun⟩ := run_allocateWith_of_granted flags hc hmap
      exact .inr (.inr ⟨hd, d, j', hc, hrun⟩)

/-- A buffer made with bytes leaves its store unmapped, and all of it invalidated. -/
theorem allocateWith_ok_unmapped {v : View}
    (h : Exec.run (allocateWith flags data) m = (.ok v, m')) :
    View.isMapped m' v = false ∧
      m'.device.invalidations = m.device.invalidations.push ⟨v.handle, 0, data.size⟩ := by
  rcases run_allocateWith_cases flags data m with ⟨e, hrun⟩ | ⟨hd, d, e, j, -, hrun⟩ |
    ⟨hd, d, j, hc, hrun⟩ <;> rw [hrun] at h
  · cases h
  · cases h
  · cases h
    obtain ⟨-, -, -, -, -, -, rfl⟩ := Device.createWith_ok hc
    exact ⟨by simp [View.isMapped, storeOf?, Stores.find?_add], rfl⟩

/-- **A refused buffer holds nothing new.**  Whatever the device, a buffer made with bytes that
fails leaves only allocations held before, and the stores as they were. -/
theorem allocateWith_error_sublist {e : Error}
    (h : Exec.run (allocateWith flags data) m = (.error e, m')) :
    m'.device.objects.Sublist m.device.objects ∧ m'.stores.entries = m.stores.entries := by
  rcases run_allocateWith_cases flags data m with ⟨e', hrun⟩ | ⟨hd, d, e', j, hc, hrun⟩ |
    ⟨hd, d, j, -, hrun⟩ <;> rw [hrun] at h
  · cases h
    exact ⟨List.Sublist.refl _, rfl⟩
  · cases h
    exact ⟨Device.free_of_create_sublist hc, Stores.entries_erase_add _ _⟩
  · cases h

end AllocateWith

/-! ### All or nothing -/

/-- **Making a framebuffer or a buffer with bytes is all or nothing.**  On a device whose books
are sound and that can give out two more handles before its counter wraps, a framebuffer is
either made on new allocations of its own, one for each surface and all of one size, or refused
with the device's allocations, its byte count and the stores as they were, also when the back
surface is refused after the front one was made.  A buffer made with bytes holds exactly them,
unmapped and invalidated over all of it; refused, it leaves no new allocation and no new store. -/
theorem creation_all_or_nothing (width height : Nat) (format : Format) (layout : Layout)
    (double : Bool) (flags : Flags) (data : ByteArray) (m : Machine) (hd : m.device.Sound)
    (hfew : m.device.created + 2 ≤ 2 ^ 32) :
    (∀ fb m', Exec.run (Framebuffer.create width height format layout double) m = (.ok fb, m') →
        fb.MadeOn width height format layout double m m') ∧
      (∀ e m',
        Exec.run (Framebuffer.create width height format layout double) m = (.error e, m') →
        m'.device.objects = m.device.objects ∧ m'.device.allocated = m.device.allocated ∧
          m'.stores.entries = m.stores.entries) ∧
      (∀ v m', Exec.run (allocateWith flags data) m = (.ok v, m') →
        v.offset = 0 ∧ v.size = data.size ∧ v.bytes m' = data ∧ View.isMapped m' v = false ∧
          m'.device.invalidations = m.device.invalidations.push ⟨v.handle, 0, data.size⟩) ∧
      ∀ e m', Exec.run (allocateWith flags data) m = (.error e, m') →
        m'.device.objects.Sublist m.device.objects ∧ m'.stores.entries = m.stores.entries := by
  refine ⟨fun _ _ h => Framebuffer.create_ok hd hfew h,
    fun _ _ h => Framebuffer.create_error hd (by omega) h, fun v _ h => ?_,
    fun _ _ h => allocateWith_error_sublist h⟩
  obtain ⟨rfl, -, hbytes⟩ := run_allocateWith_ok h
  exact ⟨rfl, rfl, hbytes, allocateWith_ok_unmapped h⟩

/-- On a new machine, a double-buffered framebuffer of one pixel is made afresh or refused with
nothing changed. -/
theorem creation_all_or_nothing_on_new_machine :
    ({} : Machine).device.Sound ∧ ({} : Machine).device.created + 2 ≤ 2 ^ 32 ∧
      ∀ fb m', Exec.run (Framebuffer.create 1 1 .rgba8888 .linear true) {} = (.ok fb, m') →
        fb.MadeOn 1 1 .rgba8888 .linear true {} m' :=
  ⟨Device.sound_new, by decide,
    (creation_all_or_nothing 1 1 .rgba8888 .linear true {} .empty {} Device.sound_new
      (by decide)).1⟩

/-- **A wrapped handle counter makes a refused framebuffer take an old allocation with it.**  On
a device that has given out `2 ^ 32` handles, holds two bytes under the first handle and limits
the byte count to six, a double-buffered framebuffer of one pixel gets its front surface under
the first handle again, in place of the allocation held there; its back surface is refused, and
freeing the front one leaves the device with no allocation at all. -/
theorem double_framebuffer_refusal_drops_wrapped_allocation :
    let m : Machine :=
      { device := { ({} : Host.Device).run Host.Device.wrapRun with limit := some 6 } }
    m.device.Sound ∧ m.device.created = 2 ^ 32 ∧ m.device.live = 1 ∧
      (Exec.run (Framebuffer.create 1 1 .rgba8888 .linear true) m).1.toOption = none ∧
      (Exec.run (Framebuffer.create 1 1 .rgba8888 .linear true) m).2.device.live = 0 := by
  have hsound := Device.sound_new.run Device.wrapRun (by rw [Device.run_wrapRun]; rfl)
  rw [Device.run_wrapRun] at hsound ⊢
  intro m
  refine ⟨hsound.of_shape rfl rfl rfl, rfl, rfl, ?_, ?_⟩
  · decide +kernel
  · decide +kernel

end TegraGpu
