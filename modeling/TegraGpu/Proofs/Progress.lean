import Mathlib
import TegraGpu.Proofs.Outcome
/-!
# Shader tests that finish

A run fails only where the device or the files refuse it: a buffer the device will not make or
map, a shader file that does not parse, a program without a `position` attribute.  On a machine
whose device maps what it holds, sets no limit and has room, and whose working directory holds
three shader files that parse, a test that only checks finishes: every step from making the
framebuffer to reading the pixel goes through.

* `Machine.Open`, `Machine.Covers` : a machine whose steps find what they ask for, and an
  allocation that covers a view; both survive the steps of a run that do not make their
  handle.
* `run_allocateWith_open`, `run_createFramebuffer_open` : making buffers on an open machine.
* `Machine.Repaints`, `run_clear_open` : steps that change bytes and records only.
* `Engine.Attached`, `run_attachAttribute_attached` : the attribute buffers of a run, kept by
  each attachment.
* `Engine.run_draw_finishes`, `not_refuses_bench` : the draw of a run passes its checks.
* `run_drawAndRead_finishes`, `run_runBound_finishes`, `testRun_finishes` : a test that only
  checks, with shader files that parse and a vertex shader with a `position` attribute,
  finishes on an open machine with room.
-/

namespace TegraGpu

open Buffer Host Exec Act Raster Surface

/-! ### Open machines -/

/-- A machine on which the steps of a run find what they ask for: the device maps what it holds
and sets no limit, and no store is mapped. -/
structure Machine.Open (m : Machine) : Prop where
  /-- The device maps. -/
  failMaps : m.device.failMaps = false
  /-- The device sets no limit. -/
  limit : m.device.limit = none
  /-- No store is mapped. -/
  unmapped : ∀ k st, m.stores.find? k = some st → st.mapped = false

/-- The device holds an allocation under `h` whose length and bytes reach `n`. -/
def Machine.Covers (m : Machine) (h : Handle) (n : Nat) : Prop :=
  ∃ l s, (m.device.object? h).map Allocation.shape = some (h, l, s) ∧ n ≤ l ∧ n ≤ s

variable {m m' : Machine}

namespace Machine.Open

theorem isMapped (ho : m.Open) (v : View) : View.isMapped m v = false :=
  isMapped_eq_false.2 fun st hst => ho.unmapped _ st hst

/-- On an open machine a view is mapped when the device holds its allocation. -/
theorem mappable (ho : m.Open) {v : View} (hh : m.device.holds v.handle = true) :
    v.Mappable m :=
  ⟨ho.isMapped v, by simp [Device.mmap, ho.failMaps, hh]⟩

/-- Steps that keep the stores, the device's flags and the shapes of its allocations keep a
machine open. -/
theorem of_alike (ho : m.Open) (h : m.Alike m') (hl : m'.device.limit = m.device.limit) :
    m'.Open where
  failMaps := h.failMaps.trans ho.failMaps
  limit := hl.trans ho.limit
  unmapped k st hst := ho.unmapped k st (h.stores ▸ hst)

theorem of_journal (ho : m.Open) (h : m' = { m with journal := m'.journal }) : m'.Open := by
  rw [h]
  exact ⟨ho.failMaps, ho.limit, ho.unmapped⟩

/-- A machine with nothing allocated yet is open. -/
theorem fresh (F : Folder) : ({ folder := F } : Machine).Open where
  failMaps := rfl
  limit := rfl
  unmapped k st hst := by
    cases hst

/-- A new reference keeps a machine open. -/
theorem of_retained (ho : m.Open) (k : Nat) : (Buffer.retained m k).Open where
  failMaps := ho.failMaps
  limit := ho.limit
  unmapped k' st hst := by
    rw [Buffer.retained, Stores.find?_modify] at hst
    split at hst
    · obtain ⟨st₀, hst₀, rfl⟩ := Option.map_eq_some_iff.1 hst
      exact ho.unmapped k' st₀ hst₀
    · exact ho.unmapped k' st hst

end Machine.Open

namespace Machine.Covers

variable {h H : Handle} {n : Nat}

theorem object (hc : m.Covers h n) :
    ∃ a, m.device.object? h = some a ∧ n ≤ a.len ∧ n ≤ a.data.size := by
  obtain ⟨l, s, hs, hl, hsz⟩ := hc
  obtain ⟨a, ha, hsh⟩ := Option.map_eq_some_iff.1 hs
  simp only [Allocation.shape, Prod.mk.injEq] at hsh
  obtain ⟨-, rfl, rfl⟩ := hsh
  exact ⟨a, ha, hl, hsz⟩

theorem holds (hc : m.Covers h n) : m.device.holds h = true := by
  obtain ⟨a, ha, -⟩ := hc.object
  obtain ⟨hmem, rfl⟩ := Device.object?_eq_some ha
  exact Device.holds_iff.2 (List.mem_map_of_mem hmem)

/-- A view inside a machine word is spanned by an allocation that covers it. -/
theorem spans {v : View} (hc : m.Covers v.handle (v.offset + v.size))
    (hw : v.offset + v.size ≤ wordMax) : v.Spans m := by
  intro a ha
  obtain ⟨a', ha', hl, hs⟩ := hc.object
  rw [ha] at ha'
  cases ha'
  exact ⟨hs, hl, hw⟩

theorem of_alike (hm : m.Alike m') (hc : m.Covers H n) : m'.Covers H n := by
  obtain ⟨l, s, hs, hl, hsz⟩ := hc
  exact ⟨l, s, (hm.object?_shape H).trans hs, hl, hsz⟩

/-- A stretch of allocations that did not give out the handle keeps what covers it. -/
theorem of_adds {k : Nat} (hm : m.Adds k m') (hH : ∀ j < k, H ≠ countHandle (m.device.created + j))
    (hc : m.Covers H n) : m'.Covers H n := by
  unfold Machine.Covers
  rw [hm.object? H hH]
  exact hc

end Machine.Covers

/-! ### Making buffers -/

namespace Host.Device

variable {d d' : Device} {g : Nat → Bool} {size align n : Nat} {h : Handle}

/-- A creation of at most `hostCapacity` bytes, on a device with no limit and with room in the
host's word, succeeds under the next handle. -/
theorem create_of_room (hn : 0 < n) (hcap : roundUp n 2 ≤ hostCapacity) (hlimit : d.limit = none)
    (hheld : d.held + roundUp n 2 ≤ wordMax) :
    ∃ d', d.create n 2 = .ok (countHandle d.created, d') := by
  have hword : ¬ wordMax < roundUp n 2 := by
    have : hostCapacity < wordMax := by decide
    omega
  simp only [Device.create, Device.createWith, Nat.pos_iff_ne_zero.1 hn, if_false,
    show max 2 1 = 2 from rfl, hword, hlimit, decide_eq_true hcap, Nat.not_lt.2 hheld,
    Bool.true_eq_false, false_or]
  exact ⟨_, rfl⟩

/-- A creation adds at most the rounded size to the bytes the device holds. -/
theorem held_createWith_le (hc : d.createWith g size align = .ok (h, d')) :
    d'.held ≤ d.held + roundUp size (max align 1) := by
  obtain ⟨-, -, -, -, -, -, rfl⟩ := createWith_ok hc
  have hsub := ((List.filter_sublist (p := fun a : Allocation => a.handle != h)
    (l := d.objects)).map Allocation.len).sum_le_sum fun _ _ => Nat.zero_le _
  simp only [held_eq_sum, List.map_append, List.sum_append, List.map_cons, List.map_nil,
    List.sum_cons, List.sum_nil, Nat.add_zero]
  omega

end Host.Device

/-- Rewriting the storage of one allocation keeps the bytes the device holds. -/
theorem held_paintObjects (d : Host.Device) (h : Handle) (g : ByteArray → ByteArray) :
    ({ d with objects := paintObjects h g d.objects } : Host.Device).held = d.held := by
  have hlens : (paintObjects h g d.objects).map Allocation.len = d.objects.map Allocation.len := by
    have := congrArg (List.map Prod.snd) (map_paintObjects h g d.objects)
    simpa only [List.map_map, Function.comp_def] using this
  simp only [Device.held_eq_sum, hlens]

/-- **The machine after a creation on an open machine**, with the new store recorded: it is
open, follows by one allocation, which covers the rounded size, and the device holds at most that
many bytes more. -/
theorem Machine.Open.create {d : Host.Device} {n : Nat} {hd : Handle} (ho : m.Open)
    (hc : m.device.create n 2 = .ok (hd, d)) (st : Store) (hst : st.mapped = false)
    (j : Journal) :
    let m₁ : Machine := { m with device := d, stores := (m.stores.add st).2, journal := j }
    m₁.Open ∧ m.Adds 1 m₁ ∧ m₁.Covers hd (roundUp n 2) ∧
      m₁.device.held ≤ m.device.held + roundUp n 2 := by
  intro m₁
  obtain ⟨-, -, -, -, -, -, hd'⟩ := Device.createWith_ok hc
  obtain ⟨hh, hcreated, hfail⟩ := Device.createWith_counts hc
  have hlimit : d.limit = none := by
    rw [hd']
    exact ho.limit
  refine ⟨⟨hfail.trans ho.failMaps, hlimit, fun k st' hst' => ?_⟩,
    ⟨hcreated, rfl, fun h' hne => ?_⟩, ?_, Device.held_createWith_le hc⟩
  · -- the new store is not mapped, and the others are as they were
    simp only [m₁, Stores.find?_add] at hst'
    split at hst'
    · cases hst'
      exact hst
    · exact ho.unmapped k st' hst'
  · have hne' : h' ≠ hd := by
      rw [hh]
      exact hne 0 Nat.one_pos
    exact Device.object?_createWith_of_ne hc hne'
  · refine ⟨roundUp n 2, roundUp n 2, ?_, le_rfl, le_rfl⟩
    simp [m₁, Device.object?_createWith hc, Allocation.shape, size_zeros]

/-- Copying bytes over the start of an array keeps at least as many bytes. -/
theorem ByteArray.size_copySlice_zero_ge (src d : ByteArray) :
    src.size ≤ (src.copySlice 0 d 0 src.size).size := by
  have h := congrArg ByteArray.size (ByteArray.extract_copySlice_zero src d)
  rw [ByteArray.size_extract] at h
  omega

/-- **Making a buffer with bytes on an open machine** with room succeeds, on the next handle
and the next key: the machine stays open and follows by one allocation, which covers the
bytes. -/
theorem run_allocateWith_open (flags : Flags) {data : ByteArray} (ho : m.Open)
    (hn : 0 < data.size) (hcap : roundUp data.size 2 ≤ hostCapacity)
    (hheld : m.device.held + roundUp data.size 2 ≤ wordMax) :
    ∃ m₁, Exec.run (allocateWith flags data) m =
        (.ok ⟨m.stores.next, countHandle m.device.created, 0, data.size, flags⟩, m₁) ∧
      m₁.Open ∧ m.Adds 1 m₁ ∧ m₁.Covers (countHandle m.device.created) data.size ∧
      m₁.device.held ≤ m.device.held + roundUp data.size 2 ∧
      m₁.stores.next = m.stores.next + 1 := by
  obtain ⟨d, hc⟩ := Device.create_of_room hn hcap ho.limit hheld
  obtain ⟨hopen, -, hcov, hheld₁⟩ := ho.create hc
    { handle := countHandle m.device.created, size := data.size, refs := 1 } rfl m.journal
  obtain ⟨j, hrun⟩ := run_allocateWith_of_granted flags hc
    ((Device.createWith_counts hc).2.2.trans ho.failMaps)
  obtain ⟨-, hadd, -⟩ := run_allocateWith_ok hrun
  refine ⟨_, hrun, ⟨hopen.failMaps, hopen.limit, hopen.unmapped⟩, hadd, ?_, ?_, rfl⟩
  · -- the bytes went over the start of the new allocation, which keeps its length
    obtain ⟨a, ha, hl, -⟩ := hcov.object
    have hround : data.size ≤ roundUp data.size 2 := by
      unfold roundUp
      omega
    refine ⟨a.len, (data.copySlice 0 a.data 0 data.size).size, ?_, hround.trans hl,
      ByteArray.size_copySlice_zero_ge data a.data⟩
    simp only [Device.object?, find?_paintObjects, if_true]
    rw [show d.objects.find? (fun b => b.handle == countHandle m.device.created) = some a from ha]
    obtain ⟨-, hh⟩ := Device.object?_eq_some ha
    simp [Allocation.shape, hh]
  · exact (held_paintObjects d _ _).le.trans hheld₁

/-- **Making the bench's framebuffer on an open machine** with room succeeds, on the next handle
and the next key: the machine stays open and follows by one allocation, which covers the
surface. -/
theorem run_createFramebuffer_open (ho : m.Open)
    (hheld : m.device.held + Bench.testSize * Bench.testSize * 4 ≤ wordMax) :
    ∃ m₁, Exec.run (Framebuffer.create Bench.testSize Bench.testSize .rgba8888 .tiled false) m =
        (.ok ⟨Bench.benchSurface (Bench.benchView m.stores.next (countHandle m.device.created)),
          none⟩, m₁) ∧
      m₁.Open ∧ m.Adds 1 m₁ ∧
      m₁.Covers (countHandle m.device.created) (Bench.testSize * Bench.testSize * 4) ∧
      m₁.device.held ≤ m.device.held + Bench.testSize * Bench.testSize * 4 ∧
      m₁.stores.next = m.stores.next + 1 := by
  have hround : roundUp (Bench.testSize * Bench.testSize * 4) 2 =
      Bench.testSize * Bench.testSize * 4 := by decide
  obtain ⟨d, hc⟩ := Device.create_of_room (n := Bench.testSize * Bench.testSize * 4) (by decide)
    (by rw [hround]; decide) ho.limit (by rw [hround]; exact hheld)
  obtain ⟨j, hrun⟩ := Surface.run_create_of_granted (w := Bench.testSize) (h := Bench.testSize)
    (by decide) (by decide) Bench.storageSize_bench hc
  obtain ⟨hopen, hadd, hcov, hheld₁⟩ := ho.create hc
    { handle := countHandle m.device.created, size := Bench.testSize * Bench.testSize * 4,
      refs := 1 } rfl j
  rw [hround] at hcov hheld₁
  unfold Framebuffer.create
  rw [run_bind, hrun]
  simp only [Bool.false_eq_true, if_false, run_bind, run_pure, Act.run_note]
  refine ⟨_, rfl, hopen.of_journal rfl, hadd.trans (.of_journal rfl), hcov, hheld₁, rfl⟩

/-! ### Steps that draw or write records -/

/-- `m'` differs from `m` in the bytes of its allocations, its invalidations and its records:
what drawing, clearing and logging change. -/
structure Machine.Repaints (m m' : Machine) : Prop extends Machine.Alike m m' where
  /-- No handle was given out. -/
  created : m'.device.created = m.device.created
  /-- The device's limit. -/
  limit : m'.device.limit = m.device.limit
  /-- The working directory. -/
  folder : m'.folder = m.folder

namespace Machine.Repaints

/-- A redrawing that keeps the shapes of the allocations repaints the machine. -/
theorem of_redrawn {objs : List Allocation} (h : m.Redrawn objs m')
    (hs : objs.map Allocation.shape = m.device.objects.map Allocation.shape) : m.Repaints m' :=
  ⟨h.alike hs, h.created, by obtain ⟨inv, j, rfl⟩ := h; rfl, h.folder⟩

theorem isOpen (h : m.Repaints m') (ho : m.Open) : m'.Open := ho.of_alike h.toAlike h.limit

theorem covers (h : m.Repaints m') {H : Handle} {n : Nat} (hc : m.Covers H n) : m'.Covers H n :=
  hc.of_alike h.toAlike

theorem held (h : m.Repaints m') : m'.device.held = m.device.held := by
  have hlens : m'.device.objects.map Allocation.len = m.device.objects.map Allocation.len := by
    have := congrArg (List.map fun s : Handle × Nat × Nat => s.2.1) h.shapes
    simpa only [List.map_map, Function.comp_def, Allocation.shape] using this
  simp only [Device.held_eq_sum, hlens]

end Machine.Repaints

/-- Giving back an engine's buffers never fails: each slot gives back its buffer, if it holds
one, and the loops go on. -/
theorem Raster.Engine.release_total (e : Engine) {P : Machine → Prop} :
    Triple P e.release (fun _ _ => True) (fun _ => False) := by
  unfold Engine.release
  refine Triple.bind (R := fun _ _ => True) ?_ fun _ => Triple.bind (R := fun _ _ => True) ?_
    fun _ => Triple.pure _ fun _ _ => trivial
  · refine (Triple.forIn_array (I := fun _ _ => True) _ _ fun p _ => ?_).mono
      (fun _ _ => trivial) (fun _ _ h => h) fun _ h => h
    split
    · exact Triple.bind (Shader.release_total _) fun _ => Triple.pure _ fun _ _ => trivial
    · exact Triple.pure _ fun _ _ => trivial
  · refine Triple.forIn_array (I := fun _ _ => True) _ _ fun t _ => ?_
    split
    · exact Triple.bind (Shader.release_total _) fun _ => Triple.pure _ fun _ _ => trivial
    · exact Triple.pure _ fun _ _ => trivial

/-! ### The attribute buffers of a run -/

namespace Raster.Engine

/-- **The bench's attribute buffers.**  The engine has its attribute slots; each buffer it holds
has four floats per vertex in the first 64 bytes of an allocation that covers them and that none
of the next `k` creations gives out; and every enabled slot holds a buffer. -/
structure Attached (e : Engine) (m : Machine) (k : Nat) : Prop where
  /-- The attribute slots and their flags. -/
  sizes : e.pointers.size = attribSlots ∧ e.enabled.size = attribSlots
  /-- The buffers. -/
  buffers : ∀ loc q, e.pointer? loc = some q → q.size = 4 ∧ q.view.offset = 0 ∧
    q.view.size = 64 ∧ m.Covers q.view.handle 64 ∧
    ∀ j < k, q.view.handle ≠ countHandle (m.device.created + j)
  /-- The enabled slots. -/
  enabled : ∀ loc, e.attribOn loc = true → (e.pointer? loc).isSome

theorem pointer?_attach {e : Engine} {loc : Nat} (hp : loc < e.pointers.size) (p : Pointer)
    (en : Array Bool) (loc' : Nat) :
    ({ e with pointers := e.pointers.set! loc (some p), enabled := en } : Engine).pointer? loc' =
      if loc' = loc then some p else e.pointer? loc' := by
  unfold pointer?
  by_cases hl : loc' = loc
  · subst hl
    simp [hp]
  · simp [Ne.symm hl, hl]

theorem attribOn_attach {e : Engine} {loc : Nat} (hen : loc < e.enabled.size)
    (ps : Array (Option Pointer)) (loc' : Nat) :
    ({ e with pointers := ps, enabled := e.enabled.set! loc true } : Engine).attribOn loc' =
      (decide (loc' = loc) || e.attribOn loc') := by
  unfold attribOn
  by_cases hl : loc' = loc
  · subst hl
    simp [hen]
  · simp [Ne.symm hl, hl]

namespace Attached

variable {e : Engine} {k K n : Nat}

/-- An engine with empty slots. -/
theorem of_empty (hp : e.pointers = Array.replicate attribSlots none)
    (he : e.enabled = Array.replicate attribSlots false) (m : Machine) (k : Nat) :
    e.Attached m k where
  sizes := by
    rw [hp, he]
    exact ⟨Array.size_replicate, Array.size_replicate⟩
  buffers loc q hq := by
    unfold pointer? at hq
    rw [hp, Bench.pointers_initial] at hq
    cases hq
  enabled loc hon := by
    unfold attribOn at hon
    rw [he, Array.getElem?_replicate] at hon
    split at hon <;> cases hon

/-- A stretch of `n` creations keeps the buffers whose handles it does not give out. -/
theorem of_adds (ha : e.Attached m K) (h : m.Adds n m') (hk : k + n ≤ K) : e.Attached m' k where
  sizes := ha.sizes
  buffers loc q hq := by
    obtain ⟨hs, hoff, hsize, hcov, hfresh⟩ := ha.buffers loc q hq
    refine ⟨hs, hoff, hsize, hcov.of_adds h fun j hj => hfresh j (by omega), fun j hj => ?_⟩
    rw [h.created, Nat.add_assoc]
    exact hfresh (n + j) (by omega)
  enabled := ha.enabled

/-- Each buffer lies inside its allocation. -/
theorem spans (ha : e.Attached m k) {loc : Nat} {q : Pointer} (hq : e.pointer? loc = some q) :
    q.view.Spans m := by
  obtain ⟨-, hoff, hsize, hcov, -⟩ := ha.buffers loc q hq
  refine Machine.Covers.spans ?_ (by rw [hoff, hsize]; decide)
  rw [hoff, hsize]
  exact hcov

/-- On an open machine no attribute's reading is refused. -/
theorem not_attribRefused (ha : e.Attached m k) (ho : m.Open) (loc : Nat) :
    ¬ e.AttribRefused m loc := by
  rintro ⟨hon, hno⟩
  obtain ⟨q, hq⟩ := Option.isSome_iff_exists.1 (ha.enabled loc hon)
  obtain ⟨-, -, -, hcov, -⟩ := ha.buffers loc q hq
  exact hno q hq (ho.mappable hcov.holds)

end Attached

end Raster.Engine

/-- **A draw that fits, passes its checks and maps its render targets** finishes, and repaints
the machine. -/
theorem Raster.Engine.run_draw_finishes {e : Engine} {prim : Primitive} {v : View}
    {width : IndexWidth} {count : Nat} (hf : e.Fits m) (hp : ¬ e.Refuses prim v width count m)
    (ht : ∀ slot < targetSlots, ¬ e.TargetRefused m slot) :
    ∃ m', Exec.run (e.draw prim v width count) m = (.ok (), m') ∧ m.Repaints m' := by
  obtain ⟨m', hr⟩ := e.run_draw_ok_of_passes hf hp ht
  obtain ⟨_, _, -, -, hdrawn⟩ := e.run_draw_ok_eq hf.locations hr
  exact ⟨m', hr, .of_redrawn hdrawn (Engine.shapes_paintSlots _ _ _ _ _)⟩

namespace Bench

variable {β α : Type}

/-- A shader file is parsed from the text the working directory holds under its path. -/
theorem parseFile_of_read {F : Folder} {path source : String} (h : F.read path = .ok source)
    (kind : Shader.Kind) : Shader.parseFile F kind path = Shader.parse kind path source := by
  unfold Shader.parseFile
  rw [h]

/-- A shader file that parses is read with a record of it. -/
theorem run_loadLogged_of_parse {kind : Shader.Kind} {path : String} {s : Shader}
    (h : Shader.parseFile m.folder kind path = .ok s) :
    ∃ j, Exec.run (loadLogged kind path) m = (.ok s, { m with journal := j }) := by
  unfold loadLogged Shader.loadFile
  rw [run_tryCatch, run_bind, run_get]
  dsimp only
  rw [h]
  dsimp only
  rw [run_bind, run_emit]
  exact ⟨_, rfl⟩

/-- Three shaders of the right kinds assemble into the linked program, with a record of it. -/
theorem run_assemble_of_make {vs fs lk : Shader} {p : Shader.Program}
    (h : Shader.Program.make vs fs lk = .ok p) :
    ∃ j, Exec.run (Shader.Program.assemble vs fs lk true) m =
      (.ok p.link, { m with journal := j }) := by
  unfold Shader.Program.assemble
  rw [h]
  simp only [if_true, run_bind, run_emit, run_pure]
  exact ⟨_, rfl⟩

/-- **Clearing the bound framebuffer** on an open machine, where an allocation covers the view
of the surface drawn to, succeeds and repaints the machine. -/
theorem run_clear_open {c : Display.Context β α} {fb : Framebuffer} (hc : c.framebuffer = some fb)
    (ho : m.Open) (hcov : m.Covers fb.drawSurface.view.handle
      (fb.drawSurface.view.offset + fb.drawSurface.view.size))
    (hw : fb.drawSurface.view.offset + fb.drawSurface.view.size ≤ wordMax) :
    ∃ m₁, Exec.run c.clear m = (.ok (), m₁) ∧ m.Repaints m₁ := by
  rcases hcol : c.clearColor with ⟨r, g, b, a⟩
  unfold Display.Context.clear Surface.clear
  rw [run_bind, run_bound_of_some hc, hcol]
  dsimp only
  -- the fill keeps the size of the storage, so the painted machine maps and spans alike
  let fill := fillPixels fb.drawSurface.format (fb.drawSurface.format.pack r g b a)
    fb.drawSurface.view.offset (fb.drawSurface.view.size / fb.drawSurface.format.bytesPerPixel)
  have hshapes := shapes_paintObjects (g := fill) (fun d => size_fillPixels _ _ _ _ d)
    fb.drawSurface.view.handle m.device.objects
  have halike : m.Alike (m.paint fb.drawSurface.view.handle fill) := ⟨rfl, rfl, hshapes⟩
  obtain ⟨x, hpaint⟩ := run_withMap_modifyStorage (ho.mappable hcov.holds) ()
    fun data => (fill data, ())
  have hcov' := hcov.of_alike halike
  rw [run_bind, hpaint]
  dsimp only
  rw [run_bind, run_note]
  dsimp only
  refine ⟨_, run_invalidate_of_spans ?_ ?_ _, .of_redrawn ⟨_, _, rfl⟩ hshapes⟩
  -- the record leaves the device, and with it what covers the view, as it was
  · exact hcov'.spans hw
  · exact hcov'.holds

/-- A guarded operation that succeeds succeeds as the operation does. -/
theorem run_guarded_of_ok {γ : Type} {cleanup : Act Unit} {a : Act γ} {x : γ}
    (h : Exec.run a m = (.ok x, m')) : Exec.run (guarded cleanup a) m = (.ok x, m') := by
  unfold guarded
  rw [run_tryCatch, h]

/-- **Giving an attribute its buffer on an open machine** with room succeeds when the program's
slot for the attribute, if it has one, is free.  The machine stays open, and when the program has
the attribute, its new buffer is the next allocation and covers the attribute's words. -/
theorem run_attachAttribute_open {program : Shader.Program} {e : Engine} {name : String}
    {data : List UInt32} (hfree : ∀ loc, program.attributeLocation name = some loc →
      loc < attribSlots ∧ e.pointers[loc]?.join = none) (ho : m.Open)
    (hn : 0 < (Display.Context.wordBytes data).size)
    (hcap : roundUp (Display.Context.wordBytes data).size 2 ≤ hostCapacity)
    (hheld : m.device.held + roundUp (Display.Context.wordBytes data).size 2 ≤ wordMax) :
    ∃ e' m', Exec.run (attachAttribute program e name data) m = (.ok e', m') ∧ m'.Open ∧
      m'.device.held ≤ m.device.held + roundUp (Display.Context.wordBytes data).size 2 ∧
      ∀ loc, program.attributeLocation name = some loc →
        m'.Covers (countHandle m.device.created) (Display.Context.wordBytes data).size := by
  unfold attachAttribute
  split
  · next hnone =>
    rw [run_bind, run_note]
    refine ⟨e, _, rfl, ho.of_journal rfl, Nat.le_add_right _ _, fun loc hloc => ?_⟩
    rw [hnone] at hloc
    cases hloc
  · next loc hloc =>
    obtain ⟨hlt, hold⟩ := hfree loc hloc
    obtain ⟨m₁, hrun, hopen, -, hcov, hheld₁, -⟩ := run_allocateWith_open {} ho hn hcap hheld
    rw [run_bind, run_guarded_of_ok hrun]
    dsimp only
    rw [run_bind, run_guarded_of_ok (run_setPointer_of_empty hlt hold _ m₁)]
    dsimp only
    rw [run_guarded_of_ok (by rw [run_ofExcept, Shader.setAttribEnabled_ok _ hlt])]
    exact ⟨_, _, rfl, hopen, hheld₁, fun _ _ => hcov⟩

/-- **Giving an attribute its bench buffer on an open machine** with room succeeds when the
program's slot for the attribute, if it has one, is free.  The buffers stay attached for one
creation fewer, the machine stays open and follows by at most one allocation, the attribute's
slot is enabled, the enabled slots stay so, and only the attribute's slot changes. -/
theorem run_attachAttribute_attached {program : Shader.Program} {e : Engine} {name : String}
    {data : List UInt32} {k : Nat} (hfree : ∀ loc, program.attributeLocation name = some loc →
      loc < attribSlots ∧ e.pointers[loc]?.join = none)
    (hsize : (Display.Context.wordBytes data).size = 64) (ha : e.Attached m (k + 1))
    (hk : k < 2 ^ 32) (ho : m.Open) (hheld : m.device.held + 64 ≤ wordMax) :
    ∃ e' m', Exec.run (attachAttribute program e name data) m = (.ok e', m') ∧
      e'.Attached m' k ∧ m'.Open ∧ m'.device.held ≤ m.device.held + 64 ∧
      (∃ n ≤ 1, m.Adds n m') ∧
      (∀ loc, program.attributeLocation name = some loc → e'.attribOn loc = true) ∧
      (∀ loc, e.attribOn loc = true → e'.attribOn loc = true) ∧
      (∀ loc, program.attributeLocation name ≠ some loc → e'.pointers[loc]? = e.pointers[loc]?) ∧
      ∃ ps en, e' = { e with pointers := ps, enabled := en } := by
  have hround : roundUp (Display.Context.wordBytes data).size 2 = 64 := by rw [hsize]; rfl
  obtain ⟨e', m', h, ho', hheld', hcov'⟩ := run_attachAttribute_open hfree ho
    (by rw [hsize]; decide) (by rw [hround]; decide) (by rw [hround]; exact hheld)
  rw [hround] at hheld'
  refine ⟨e', m', h, ?_⟩
  rcases run_attachAttribute_ok hfree h with ⟨hnone, rfl, hm'⟩ | ⟨loc, hloc, rfl, hadd, -⟩
  · refine ⟨ha.of_adds (.of_journal hm') (by omega), ho', hheld', ⟨0, Nat.zero_le _, .of_journal hm'⟩,
      fun loc hloc => ?_, fun _ h => h, fun _ _ => rfl, _, _, rfl⟩
    rw [hnone] at hloc
    cases hloc
  -- the new buffer is the last allocation; the others the step did not give out
  have ha' := ha.of_adds hadd (le_refl _)
  have hp := ha.sizes.1
  have hen := ha.sizes.2
  have hlt := (hfree loc hloc).1
  refine ⟨⟨by simp [hp, hen], fun loc' q hq => ?_, fun loc' hon => ?_⟩, ho', hheld',
    ⟨1, le_rfl, hadd⟩, fun loc' hloc' => ?_, fun loc' hon => ?_, fun loc' hne => ?_, _, _, rfl⟩
  · rw [Engine.pointer?_attach (by omega)] at hq
    split at hq
    · cases hq
      refine ⟨rfl, rfl, hsize, hsize ▸ hcov' loc hloc, fun j hj => ?_⟩
      rw [hadd.created, Nat.add_assoc]
      exact (countHandle_add_ne (by omega) (by omega)).symm
    · exact ha'.buffers loc' q hq
  · rw [Engine.attribOn_attach (by omega)] at hon
    rw [Engine.pointer?_attach (by omega)]
    by_cases hl : loc' = loc
    · rw [if_pos hl]
      rfl
    · rw [if_neg hl]
      simp only [hl, decide_false, Bool.false_or] at hon
      exact ha.enabled loc' hon
  · rw [hloc', Option.some.injEq] at hloc
    rw [Engine.attribOn_attach (by omega), hloc]
    simp
  · rw [Engine.attribOn_attach (by omega), hon, Bool.or_true]
  · have hne' : loc ≠ loc' := fun h => hne (h ▸ hloc)
    simp [hne']

/-- **Giving the quad's attributes their buffers on an open machine** with room succeeds, from
an engine with empty slots, for a program whose attribute locations are slots and whose
`position` and `color` locations differ.  The buffers are attached for one more creation, the
machine stays open and follows by at most two allocations, and the `position` slot is
enabled. -/
theorem run_attachQuad_attached {P : Shader.Program} (e₀ : Engine)
    (hfit : ∀ name loc, P.attributeLocation name = some loc → loc < attribSlots)
    (hne : ∀ loc, P.attributeLocation "position" = some loc → P.attributeLocation "color" ≠ some loc)
    (hp : e₀.pointers = Array.replicate attribSlots none)
    (he : e₀.enabled = Array.replicate attribSlots false) (ho : m.Open)
    (hheld : m.device.held + 128 ≤ wordMax) :
    ∃ e₁ m₁ e₂ m₂, Exec.run (attachAttribute P e₀ "position" quadVertices) m = (.ok e₁, m₁) ∧
      Exec.run (attachAttribute P e₁ "color" quadColors) m₁ = (.ok e₂, m₂) ∧
      e₂.Attached m₂ 1 ∧ m₂.Open ∧ m₂.device.held ≤ m.device.held + 128 ∧
      (∃ n ≤ 2, m.Adds n m₂) ∧
      (∀ loc, P.attributeLocation "position" = some loc → e₂.attribOn loc = true) ∧
      ∃ ps en, e₂ = { e₀ with pointers := ps, enabled := en } := by
  obtain ⟨e₁, m₁, h₁, ha₁, ho₁, hheld₁, ⟨n₁, hn₁, hadd₁⟩, hon₁, -, hkept₁, ps₁, en₁, rfl⟩ :=
    run_attachAttribute_attached (k := 2)
      (fun loc hl => ⟨hfit _ _ hl, by rw [hp]; exact pointers_initial loc⟩)
      (rfl : (Display.Context.wordBytes quadVertices).size = 64) (Engine.Attached.of_empty hp he m 3) (by decide) ho (by omega)
  -- the `color` slot is still empty: only the `position` slot changed
  obtain ⟨e₂, m₂, h₂, ha₂, ho₂, hheld₂, ⟨n₂, hn₂, hadd₂⟩, -, hon₂, -, ps₂, en₂, rfl⟩ :=
    run_attachAttribute_attached (k := 1) (fun loc hl => ⟨hfit _ _ hl, by
      rw [hkept₁ loc fun hpl => hne loc hpl hl, hp]
      exact pointers_initial loc⟩) (rfl : (Display.Context.wordBytes quadColors).size = 64) ha₁
      (by decide) ho₁ (by omega)
  exact ⟨_, m₁, _, m₂, h₁, h₂, ha₂, ho₂, by omega, ⟨n₁ + n₂, by omega, hadd₁.trans hadd₂⟩,
    fun loc hl => hon₂ loc (hon₁ loc hl), ps₂, en₂, rfl⟩

/-- The quad's indices lie below its four corners. -/
theorem quadIndices_lt_four :
    ∀ i ∈ (Engine.decodeIndices (Display.Context.halfBytes quadIndices) .half
      quadIndices.length).toList, i < 4 := by
  decide +kernel

/-- **The bench's draw passes its checks** on an open machine: the engine holds a linked program
with its `position` attribute in an enabled slot and attached buffers, and the index buffer,
held by the device, holds the quad's indices in twelve bytes. -/
theorem not_refuses_bench {e : Engine} {P : Shader.Program} (hprog : e.program = some P)
    (hlinked : P.linked = true) {k : Nat} (ha : e.Attached m k) (ho : m.Open)
    (hpos : ∃ loc, P.attributeLocation "position" = some loc ∧ e.attribOn loc = true)
    {indices : View} (hsize : indices.size = 12) (hidx : m.device.holds indices.handle = true)
    (hbytes : indices.bytes m = Display.Context.halfBytes quadIndices) :
    ¬ e.Refuses .triangles indices .half quadIndices.length m := by
  rintro (hprep | hover | hshort | hmap | ⟨P', -, i, hi, name, -, loc, q, -, -, hq, hbeyond⟩)
  · rw [e.prepareRefuses_iff hprog] at hprep
    obtain ⟨loc, hloc, hon⟩ := hpos
    rcases hprep with h | h | h | ⟨loc', -, h⟩ | ⟨loc', -, h⟩
    · exact h rfl
    · rw [hlinked] at h
      cases h
    · rw [h loc hloc] at hon
      cases hon
    · exact ha.not_attribRefused ho loc' h
    · exact ha.not_attribRefused ho loc' h
  · exact absurd hover (by decide)
  · rw [hsize] at hshort
    exact absurd hshort (by decide)
  · exact hmap (ho.mappable hidx)
  · -- every index lies below the four vertices of each buffer
    obtain ⟨hqs, -, hqv, -, -⟩ := ha.buffers loc q hq
    rw [hbytes] at hi
    have hlt := quadIndices_lt_four i hi
    rw [hqs, hqv] at hbeyond
    exact absurd hbeyond (by omega)

/-- The bench's engine, with a surface bound to slot 1 and enabled, draws into that surface
alone. -/
theorem drawnTarget?_bench (e : Engine) (ht : e.targets = Array.replicate targetSlots none)
    (s : Surface) {slot : Nat} {t : Target}
    (h : ({ e with targets := (e.targets.set! 1 (some ⟨s, false⟩)).set! 1 (some ⟨s, true⟩) } :
        Engine).drawnTarget? slot = some t) : t = ⟨s, true⟩ := by
  by_cases hs : slot = 1
  · subst hs
    simp [Engine.drawnTarget?, ht, targetSlots] at h
    exact h.1.symm
  · simp only [Engine.drawnTarget?, ht, Array.set!_eq_setIfInBounds,
      Array.getElem?_setIfInBounds_ne (Ne.symm hs), targets_initial, Option.filter_none] at h
    cases h

/-- **The bench's engine is ready to draw** on an open machine: its linked program has its
attribute locations in the slots and its `position` attribute in an enabled slot, its buffers are
attached, the surface bound to slot 1 and enabled lies inside its allocation, and the index
buffer, held by the device, holds the quad's indices in twelve bytes.  Then the engine fits the
machine, the draw passes its checks, and no render target is refused. -/
theorem draw_ready_bench {P : Shader.Program}
    (hfit : ∀ name loc, P.attributeLocation name = some loc → loc < attribSlots)
    (hlinked : P.linked = true) {st : State} {ps : Array (Option Pointer)} {en : Array Bool}
    (ha : ({ program := some P, state := st, pointers := ps, enabled := en } : Engine).Attached m 0)
    (ho : m.Open) (hpos : ∃ loc, P.attributeLocation "position" = some loc ∧
      ({ program := some P, state := st, pointers := ps, enabled := en } : Engine).attribOn loc)
    (s : Surface) (hs : m.Covers s.view.handle (s.view.offset + s.view.size))
    (hw : s.view.offset + s.view.size ≤ wordMax) {indices : View} (hsize : indices.size = 12)
    (hidx : m.device.holds indices.handle = true)
    (hbytes : indices.bytes m = Display.Context.halfBytes quadIndices) :
    let e : Engine :=
      { program := some P, state := st, pointers := ps, enabled := en,
        targets := ((Array.replicate targetSlots none).set! 1 (some ⟨s, false⟩)).set! 1
          (some ⟨s, true⟩) }
    e.Fits m ∧ ¬ e.Refuses .triangles indices .half quadIndices.length m ∧
      ∀ slot < targetSlots, ¬ e.TargetRefused m slot := by
  intro e
  -- only slot 1 is drawn, into the surface
  have hdrawn : ∀ slot t, e.drawnTarget? slot = some t → t = ⟨s, true⟩ :=
    fun _ _ ht => drawnTarget?_bench { program := some P, state := st, pointers := ps, enabled := en }
      rfl s ht
  refine ⟨⟨fun P' hP name loc hl => ?_, fun _ _ hq => ha.spans hq, fun slot t ht => ?_⟩,
    not_refuses_bench rfl hlinked ha ho hpos hsize hidx hbytes, fun slot _ ⟨t, ht, hnm⟩ => ?_⟩
  · cases Option.some.inj hP
    exact hfit name loc hl
  · rw [hdrawn slot t ht]
    exact hs.spans hw
  · rw [hdrawn slot t ht] at hnm
    exact hnm (ho.mappable hs.holds)

/-- Mapping the front surface, when the device would map its view, gives the front surface with
its store flagged mapped. -/
theorem run_mapData_front_of_mappable {fb : Framebuffer} (hm : fb.front.view.Mappable m) :
    Exec.run (fb.mapData true) m = (.ok fb.front,
      { m with stores := m.stores.modify fb.front.view.store fun s => { s with mapped := true } }) := by
  unfold Framebuffer.mapData
  extract_lets finish
  rw [if_pos rfl, run_bind, run_pure]
  dsimp only [finish]
  rw [run_bind, run_tryCatch, run_map, hm.1, hm.2]
  rfl

/-- **Drawing and reading, test only**, finishes on an open machine: the uniforms are set, the
draw passes its checks and every enabled render target maps, and the front surface, covered by
its allocation and at least a word long, maps and holds a word. -/
theorem run_drawAndRead_finishes {t : Test} (hto : t.testOnly = true) {c : Display.Context β α}
    {fb : Framebuffer} (hc : c.framebuffer = some fb) {p : Shader.Program}
    (hvk : p.vs.kind = .vertex) (hv : p.vs.Respects) (hfk : p.fs.kind = .fragment)
    (hf : p.fs.Respects) {e : Engine} (hsized : Shader.UniformsSized e) {indices : View}
    (hfits : e.Fits m) (hpass : ¬ e.Refuses .triangles indices .half quadIndices.length m)
    (htargets : ∀ slot < targetSlots, ¬ e.TargetRefused m slot) (ho : m.Open)
    (hfront : m.Covers fb.front.view.handle (fb.front.view.offset + fb.front.view.size))
    (hw : fb.front.view.offset + fb.front.view.size ≤ wordMax) (hword : 4 ≤ fb.front.view.size) :
    ∃ o c' m', Exec.run (drawAndRead t c p e indices) m = (.ok (o, c'), m') := by
  unfold drawAndRead
  extract_lets draw
  rw [hto, if_neg (by decide)]
  dsimp -zeta only [draw]
  -- the uniforms are set without failing, and change the engine's files and the records only
  obtain ⟨e₁, m₁, h₁, -⟩ := Triple.exists_ok (Shader.applyUniforms_ok t hvk hv hfk hf hsized)
    (s := m) trivial
  obtain ⟨⟨vsU, fsU, rfl⟩, hm₁⟩ := run_applyUniforms_ok h₁
  obtain ⟨j, rfl⟩ : ∃ j, m₁ = { m with journal := j } := ⟨_, hm₁⟩
  rw [run_bind, h₁]
  dsimp only
  -- the draw passes: neither the files nor the records bear on its checks
  obtain ⟨m₂, h₂, hrep₂⟩ := Engine.run_draw_finishes (e := { e with vsUniforms := vsU, fsUniforms := fsU })
    (m := { m with journal := j }) ⟨hfits.locations, hfits.pointers, hfits.targets⟩ hpass htargets
  have hfront₂ : m₂.Covers fb.front.view.handle (fb.front.view.offset + fb.front.view.size) :=
    hrep₂.covers hfront
  rw [run_bind, h₂]
  dsimp only
  rw [run_bind, run_bound_of_some hc]
  dsimp only
  rw [run_bind, run_mapData_front_of_mappable ((hrep₂.isOpen (ho.of_journal rfl)).mappable
    hfront₂.holds)]
  dsimp only
  rw [run_bind, run_get]
  dsimp only
  -- the front surface is as long as its view, which holds a word
  let m₃ : Machine :=
    { m₂ with stores := m₂.stores.modify fb.front.view.store fun s => { s with mapped := true } }
  have hfront₃ : m₃.Covers fb.front.view.handle (fb.front.view.offset + fb.front.view.size) :=
    hfront₂
  obtain ⟨w, hw'⟩ : ∃ w, wordAt (fb.front.view.bytes m₃) 0 = some w := by
    have hsize := View.size_bytes (hfront₃.spans hw) hfront₃.holds
    unfold wordAt
    rw [dif_pos (by omega)]
    exact ⟨_, rfl⟩
  rw [hw']
  -- what is left writes records, unmaps the front surface and gives the outcome
  rw [run_bind, run_pure]
  dsimp only
  -- split on the expected pixel, the comparison and the failure message
  split <;> split <;> simp only [run_bind, run_note, run_unmap] <;> split <;>
    exact ⟨_, _, _, rfl⟩

/-- **A test-only run on the bound framebuffer finishes** on an open machine with room, when the
framebuffer has the bench's shape on an allocation that covers it and that none of the next three
creations gives out, and the test's three shaders parse, the vertex shader with a `position`
attribute. -/
theorem run_runBound_finishes {t : Test} (hto : t.testOnly = true) {c : Display.Context β α}
    {k : Nat} {H : Handle} (hc : c.framebuffer = some ⟨benchSurface (benchView k H), none⟩)
    (ho : m.Open) (hheld : m.device.held + 256 ≤ wordMax)
    (hcov : m.Covers H (testSize * testSize * 4))
    (hfresh : ∀ j < 3, H ≠ countHandle (m.device.created + j)) {vs fs lk : Shader}
    (hvs : Shader.parseFile m.folder .vertex t.vsPath = .ok vs)
    (hfs : Shader.parseFile m.folder .fragment t.fsPath = .ok fs)
    (hlk : Shader.parseFile m.folder .linker t.linkerPath = .ok lk)
    (hpos : (vs.attributes.locate "position").isSome) :
    ∃ o c' m', Exec.run (runBound t c ⟨benchSurface (benchView k H), none⟩) m =
      (.ok (o, c'), m') := by
  obtain ⟨hvk, hvr⟩ := parseFile_respects hvs
  obtain ⟨hfk, hfr⟩ := parseFile_respects hfs
  obtain ⟨hlkk, -⟩ := parseFile_respects hlk
  have hmake : Shader.Program.make vs fs lk = .ok { vs, fs, linker := lk } := by
    simp [Shader.Program.make, hvk, hfk, hlkk]
  unfold runBound
  rw [show Framebuffer.drawSurface ⟨benchSurface (benchView k H), none⟩ =
    benchSurface (benchView k H) from rfl]
  -- the view of the framebuffer is all of its allocation
  have hview : (benchView k H).handle = H ∧ (benchView k H).offset + (benchView k H).size =
      testSize * testSize * 4 := ⟨rfl, Nat.zero_add _⟩
  have hcov₀ : m.Covers (benchView k H).handle ((benchView k H).offset + (benchView k H).size) := by
    rw [hview.1, hview.2]
    exact hcov
  have hw : (benchView k H).offset + (benchView k H).size ≤ wordMax := by
    rw [hview.2]
    decide
  -- the clear repaints the framebuffer
  obtain ⟨m₁, h₁, hrep₁⟩ := run_clear_open hc ho hcov₀ hw
  rw [run_bind, h₁]
  dsimp only
  -- the shaders are read and the program assembled, with records
  rw [← hrep₁.folder] at hvs hfs hlk
  obtain ⟨j₂, h₂⟩ := run_loadLogged_of_parse hvs
  rw [run_bind, h₂]
  dsimp only
  obtain ⟨j₃, h₃⟩ := run_loadLogged_of_parse (m := { m₁ with journal := j₂ }) hfs
  rw [run_bind, h₃]
  dsimp only
  obtain ⟨j₄, h₄⟩ := run_loadLogged_of_parse (m := { m₁ with journal := j₃ }) hlk
  rw [run_bind, h₄]
  dsimp only
  obtain ⟨j₅, h₅⟩ := run_assemble_of_make (m := { m₁ with journal := j₄ }) hmake
  rw [run_bind, h₅]
  dsimp only
  -- the program's attribute locations are slots, and `position` and `color` lie apart
  have hfits := hvr.attributes
  rw [hvk] at hfits
  have hfit : ∀ name loc, (Shader.Program.link { vs, fs, linker := lk }).attributeLocation name =
      some loc → loc < attribSlots :=
    fun _ _ hl => hfits.locate_lt Shader.limits_agree.1 hl
  have hne : ∀ loc, (Shader.Program.link { vs, fs, linker := lk }).attributeLocation "position" =
      some loc → (Shader.Program.link { vs, fs, linker := lk }).attributeLocation "color" ≠ some loc :=
    fun _ hl => locate_ne_of_fits hfits (by decide) hl
  -- the quad's attributes get their buffers
  have ho₅ : Machine.Open { m₁ with journal := j₅ } := (hrep₁.isOpen ho).of_journal rfl
  obtain ⟨e₁, m₆, e₂, m₇, h₆, h₇, ha₇, ho₇, hheld₇, ⟨n, hn, hadd₇⟩, hon₇, ps, en, rfl⟩ :=
    run_attachQuad_attached (m := { m₁ with journal := j₅ })
      { program := some (Shader.Program.link { vs, fs, linker := lk }), state := benchState }
      hfit hne rfl rfl ho₅
      (by rw [show m₁.device.held = m.device.held from hrep₁.held]; omega)
  rw [run_bind, h₆]
  dsimp only
  rw [run_bind, h₇]
  dsimp only
  -- the framebuffer's surface is retained, bound to slot 1 and enabled
  rw [run_bind, run_retain]
  dsimp only
  rw [run_bind, run_guarded_of_ok (run_bindTarget_of_empty (by decide) (targets_initial 1) _ _)]
  dsimp only
  rw [run_bind, run_guarded_of_ok (by rw [run_ofExcept, enableTarget_of_bound (by decide)
    (t := ⟨benchSurface (benchView k H), false⟩) (by simp [targetSlots])])]
  dsimp only
  -- the quad's indices get their buffer
  have hsizeI : (Display.Context.halfBytes quadIndices).size = 12 := rfl
  have hheld₇' : m₇.device.held ≤ m₁.device.held + 128 := hheld₇
  rw [show (benchSurface (benchView k H)).view.store = k from rfl]
  obtain ⟨m₉, hI, ho₉, haddI, hcovI, -, -⟩ := run_allocateWith_open {} (ho₇.of_retained k)
    (show 0 < (Display.Context.halfBytes quadIndices).size by rw [hsizeI]; decide)
    (by rw [hsizeI]; decide)
    (show m₇.device.held + _ ≤ wordMax by
      rw [hsizeI, show roundUp 12 2 = 12 from rfl]
      have := hrep₁.held
      omega)
  rw [run_bind, run_guarded_of_ok hI]
  dsimp only
  obtain ⟨-, -, hbytesI⟩ := run_allocateWith_ok hI
  -- the buffers are attached: none of the run's creations took them
  have ha₉ := ha₇.of_adds
    ((Machine.Adds.of_device rfl rfl : m₇.Adds 0 (Buffer.retained m₇ k)).trans haddI) le_rfl
  -- the framebuffer's allocation is older than the run's creations
  have hadd : Machine.Adds { m₁ with journal := j₅ } (n + (0 + 1)) m₉ :=
    hadd₇.trans ((Machine.Adds.of_device rfl rfl : m₇.Adds 0 (Buffer.retained m₇ k)).trans haddI)
  have hcovH : m₉.Covers H (testSize * testSize * 4) := by
    refine (hrep₁.covers hcov : Machine.Covers { m₁ with journal := j₅ } _ _).of_adds hadd
      fun j hj => ?_
    rw [show m₁.device.created = m.device.created from hrep₁.created]
    exact hfresh j (by omega)
  have hcovH' : m₉.Covers (benchView k H).handle ((benchView k H).offset + (benchView k H).size) := by
    rw [hview.1, hview.2]
    exact hcovH
  obtain ⟨locP, hlocP⟩ := Option.isSome_iff_exists.1 hpos
  obtain ⟨hfits₉, hpass₉, htargets₉⟩ := draw_ready_bench (m := m₉) hfit rfl ha₉ ho₉
    ⟨locP, hlocP, hon₇ locP hlocP⟩ (benchSurface (benchView k H)) hcovH' hw hsizeI hcovI.holds
    hbytesI
  obtain ⟨o, c', m₁₀, hD⟩ := run_drawAndRead_finishes
    (p := Shader.Program.link { vs, fs, linker := lk }) hto hc hvk hvr hfk hfr
    (Shader.uniformsSized_reset _ _ _ _ _) hfits₉ hpass₉ htargets₉ ho₉ hcovH' hw
    (show 4 ≤ testSize * testSize * 4 by decide)
  rw [run_bind, run_guarded_of_ok hD]
  dsimp only
  -- the clean-up gives the buffers back, which never fails
  obtain ⟨u, m₁₁, hC, -⟩ := Triple.exists_ok (P := fun _ => True)
    (Triple.bind (Shader.release_total _) fun _ => Engine.release_total _) (s := m₁₀) trivial
  rw [run_bind, hC]
  exact ⟨_, _, _, rfl⟩

/-- **A test-only shader test finishes** on an open machine with room, from a display context
with no framebuffer bound, when its three shaders parse in the working directory and the vertex
shader has a `position` attribute. -/
theorem testRun_finishes {t : Test} (hto : t.testOnly = true) {c : Display.Context β α}
    (hc : c.framebuffer = none) (ho : m.Open) (hheld : m.device.held + 2 ^ 19 ≤ wordMax)
    {vs fs lk : Shader} (hvs : Shader.parseFile m.folder .vertex t.vsPath = .ok vs)
    (hfs : Shader.parseFile m.folder .fragment t.fsPath = .ok fs)
    (hlk : Shader.parseFile m.folder .linker t.linkerPath = .ok lk)
    (hpos : (vs.attributes.locate "position").isSome) :
    ∃ o c' m', Exec.run (t.run c) m = (.ok (.ok o, c'), m') := by
  obtain ⟨m₁, hF, ho₁, hadd₁, hcov₁, hheld₁, -⟩ := run_createFramebuffer_open ho
    (le_trans (Nat.add_le_add_left (by decide) _) hheld)
  unfold Test.run
  rw [run_bind, run_tryCatch, map_eq_bind_pure_comp, run_bind, hF]
  -- no framebuffer was bound before, so none is given back
  simp only [Function.comp_apply, run_pure, Display.Context.bind, hc]
  rw [← hadd₁.folder] at hvs hfs hlk
  have hsize : testSize * testSize = 65536 := rfl
  obtain ⟨o, c', m', hR⟩ := run_runBound_finishes hto (c := { c with
      clearColor := (clearLevel, clearLevel, clearLevel, clearLevel),
      framebuffer := some ⟨benchSurface (benchView m.stores.next (countHandle m.device.created)),
        none⟩ }) rfl ho₁
    (le_trans (Nat.add_le_add_right hheld₁ _) (by omega)) hcov₁
    (fun j _ => by
      rw [hadd₁.created, Nat.add_assoc]
      exact (countHandle_add_ne (by omega) (by omega)).symm) hvs hfs hlk hpos
  rw [run_tryCatch, run_bind, hR]
  exact ⟨_, _, _, rfl⟩

end Bench

end TegraGpu
