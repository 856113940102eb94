import Mathlib
import TegraGpu.Proofs.Layout
import TegraGpu.Proofs.Scissor
/-!
# Layouts and formats do not show

Two surfaces of one width and height that go through the same operations show the same pixels,
whatever their layouts: read pixel by pixel or as red, green, blue and alpha bytes.  A surface of
red-green-blue-alpha pixels and one of blue-green-red-alpha pixels that go through the same
clears, rasterizations and draws show the same red, green, blue and alpha bytes.  The operations
are writing a raw pixel, clearing, rasterizing triangles through the surface's own mapping, and
drawing with both surfaces bound as enabled render targets; the surfaces agree once every
operation has succeeded.  An operation that fails part way leaves them apart, since nothing is
undone: a write refused on the second surface, whose allocation its user holds mapped, after it
wrote the first, or a draw refused the mapping of a third target after it drew into the first.

* `Surface.pixelAt`, `Surface.run_readPixel`, `Surface.run_toRgba8` : what reads give.
* `Machine.Redrawn` and `run_writePixel_ok`, `run_clear_ok`, `run_rasterizeInto_ok`,
  `run_draw_ok` : what each operation leaves when it succeeds.
* `Agree` : the pixels of two surfaces agree under observations of their raw pixels.
* `PixelOp`, `PixelOp.apply`, `applyAll` : operations applied to both surfaces.
* `agree_applyAll` : every sequence of operations that succeeds keeps the agreement.
* `surfaces_agree` : **layouts and pixel formats do not show**;
  `surfaces_apart_after_refused_write` : a sequence that fails part way.
-/

namespace TegraGpu

open Buffer Host Exec Act Surface Raster

/-- The byte `i` of a window of bytes is the byte `i` places past the window's start. -/
theorem ByteArray.getElem!_extract (d : ByteArray) {b e i : Nat} (h : b + i < e) :
    (d.extract b e)[i]! = d[b + i]! := by
  rw [getElem!_def, getElem!_def]
  by_cases hi : b + i < d.size
  · have hi' : i < (d.extract b e).size := by
      rw [ByteArray.size_extract]
      omega
    rw [getElem?_pos (d.extract b e) i hi', getElem?_pos d (b + i) hi, ByteArray.getElem_extract]
  · have hi' : ¬ i < (d.extract b e).size := by
      rw [ByteArray.size_extract]
      omega
    rw [getElem?_neg (d.extract b e) i hi', getElem?_neg d (b + i) hi]

namespace Surface

/-! ### What reads give -/

/-- The raw pixel `(x, y)` as a read of the surface gives it. -/
def pixelAt (m : Machine) (s : Surface) (x y : Nat) : UInt32 :=
  s.format.load (s.view.bytes m) (s.pixelOffset x y)

/-- A read of a pixel of the surface reads the pixel in the bytes of its allocation. -/
theorem pixelAt_eq_pixelIn {m : Machine} {s : Surface} (hs : s.Laid) {d : ByteArray}
    (hd : m.device.storage? s.view.handle = some d) {x y : Nat} (hx : x < s.width)
    (hy : y < s.height) : s.pixelAt m x y = s.pixelIn d x y := by
  unfold Surface.pixelAt Surface.pixelIn View.bytes
  rw [hd]
  have hfit := hs.pixel_fits hx hy
  refine s.format.load_congr fun i hi => ?_
  rw [ByteArray.getElem!_extract _ (by omega), Nat.add_assoc]

/-- **Reading a pixel** of a surface whose mapping is granted gives the pixel, and changes
nothing. -/
theorem run_readPixel {m : Machine} {s : Surface} (hm : s.view.Mappable m) {x y : Nat}
    (hx : x < s.width) (hy : y < s.height) :
    Exec.run (s.readPixel x y) m = (.ok (s.pixelAt m x y), m) := by
  unfold Surface.readPixel Surface.checkBounds
  rw [if_neg (by omega), run_bind, run_pure]
  exact run_withMap_read hm (fun m => s.format.load (s.view.bytes m) (s.pixelOffset x y))
    fun _ => rfl

/-- **Reading all pixels** of a surface whose mapping is granted gives their bytes row by row,
and changes nothing. -/
theorem run_toRgba8 {m : Machine} {s : Surface} (hm : s.view.Mappable m) :
    Exec.run s.toRgba8 m = (.ok (s.rgba8Of (s.view.bytes m)), m) :=
  run_withMap_read hm (fun m => s.rgba8Of (s.view.bytes m)) fun _ => rfl

/-- The bytes of all pixels depend only on the width, the height and the colour of each pixel. -/
theorem rgba8Of_congr {s s' : Surface} {d d' : ByteArray} (hw : s.width = s'.width)
    (hh : s.height = s'.height)
    (h : ∀ x < s.width, ∀ y < s.height, s.format.toRgba8 (s.format.load d (s.pixelOffset x y)) =
      s'.format.toRgba8 (s'.format.load d' (s'.pixelOffset x y))) :
    s.rgba8Of d = s'.rgba8Of d' := by
  unfold Surface.rgba8Of
  simp only [Std.Legacy.Range.forIn_eq_forIn_range', List.forIn_pure_yield_eq_foldl,
    Std.Legacy.Range.size, Nat.sub_zero, Nat.add_sub_cancel, Nat.div_one, pure_bind, Id.run_pure]
  rw [← hw, ← hh]
  -- row by row and pixel by pixel, the same colour is pushed
  refine List.foldl_ext _ _ _ fun out y hy => List.foldl_ext _ _ _ fun out x hx => ?_
  have hx' : x < s.width := by simpa using hx
  have hy' : y < s.height := by simpa using hy
  rw [h x hx' y hy']

end Surface

/-! ### What an operation leaves when it succeeds -/

/-- `m'` is `m` with the allocations `objs`, and with records and invalidations added. -/
def Machine.Redrawn (m : Machine) (objs : List Allocation) (m' : Machine) : Prop :=
  ∃ inv j, m' = { m with
    device := { m.device with objects := objs, invalidations := inv }, journal := j }

namespace Machine.Redrawn

variable {m m₁ m₂ : Machine} {objs objs' : List Allocation}

theorem objects (h : m.Redrawn objs m₁) : m₁.device.objects = objs := by
  obtain ⟨inv, j, rfl⟩ := h
  rfl

theorem alike (h : m.Redrawn objs m₁)
    (hs : objs.map Allocation.shape = m.device.objects.map Allocation.shape) : m.Alike m₁ := by
  obtain ⟨inv, j, rfl⟩ := h
  exact m.alike_redrawn hs inv j

theorem trans (h : m.Redrawn objs m₁) (h' : m₁.Redrawn objs' m₂) : m.Redrawn objs' m₂ := by
  obtain ⟨inv, j, rfl⟩ := h
  obtain ⟨inv', j', rfl⟩ := h'
  exact ⟨inv', j', rfl⟩

end Machine.Redrawn

/-- **Rewriting the storage of a view under a granted mapping** rewrites the storage under its
handle and leaves the stores as they were. -/
theorem run_withMap_modifyStorage {m : Machine} {v : View} (hm : v.Mappable m) {α : Type}
    (dflt : α) (f : ByteArray → ByteArray × α) :
    ∃ x, Exec.run (v.withMap (v.modifyStorage dflt f)) m =
      (.ok x, m.paint v.handle fun d => (f d).1) := by
  rw [run_withMap_of_mappable hm, run_modifyStorage]
  simp only [Machine.paint_stores, unflag_flag hm.1]
  exact ⟨_, rfl⟩

/-- **Going on after rewriting the storage of a view under a mapping** succeeds only when the
mapping is granted, and then goes on from the machine with the storage rewritten. -/
theorem run_withMap_modifyStorage_bind {m m' : Machine} {v : View} {α β : Type} (dflt : α)
    (f : ByteArray → ByteArray × α) {k : α → Act β} {u : β}
    (h : Exec.run (v.withMap (v.modifyStorage dflt f) >>= k) m = (.ok u, m')) :
    ∃ x, Exec.run (k x) (m.paint v.handle fun d => (f d).1) = (.ok u, m') := by
  by_cases hm : v.Mappable m
  · obtain ⟨x, hw⟩ := run_withMap_modifyStorage hm dflt f
    rw [run_bind, hw] at h
    exact ⟨x, h⟩
  · -- a refused mapping fails the whole operation
    obtain ⟨e, j, hr⟩ := run_withMap_of_refused hm (v.modifyStorage dflt f)
    rw [run_bind, hr] at h
    cases h

namespace Surface

variable {s : Surface} {m m' : Machine}

/-- **A pixel write that succeeds** was inside the surface, and it stored the pixel into the
storage under the surface's handle. -/
theorem run_writePixel_ok {x y : Nat} {raw : UInt32} {u : Unit}
    (h : Exec.run (s.writePixel x y raw) m = (.ok u, m')) :
    x < s.width ∧ y < s.height ∧ m.Redrawn (paintObjects s.view.handle
      (fun d => s.format.store d (s.view.offset + s.pixelOffset x y) raw) m.device.objects) m' := by
  unfold Surface.writePixel Surface.checkBounds at h
  by_cases hb : s.width ≤ x ∨ s.height ≤ y
  · rw [if_pos hb, run_bind] at h
    cases h
  rw [if_neg hb, run_bind, run_pure] at h
  dsimp only at h
  obtain ⟨x', h⟩ := run_withMap_modifyStorage_bind () (fun data =>
    (s.format.store data (s.view.offset + s.pixelOffset x y) raw, ())) h
  -- the invalidation changes only the invalidations
  obtain ⟨r, inv, hinv, -⟩ := run_invalidate s.view s.view.size
    (m.paint s.view.handle fun d => s.format.store d (s.view.offset + s.pixelOffset x y) raw)
  rw [hinv] at h
  cases h
  exact ⟨by omega, by omega, inv, m.journal, rfl⟩

/-- **A clear that succeeds** filled every pixel of the view with the colour, in the storage
under the surface's handle. -/
theorem run_clear_ok {r g b a : Float32} {u : Unit}
    (h : Exec.run (s.clear r g b a) m = (.ok u, m')) :
    m.Redrawn (paintObjects s.view.handle (fillPixels s.format (s.format.pack r g b a)
      s.view.offset (s.view.size / s.format.bytesPerPixel)) m.device.objects) m' := by
  unfold Surface.clear at h
  dsimp only at h
  obtain ⟨x', h⟩ := run_withMap_modifyStorage_bind () (fun data =>
    (fillPixels s.format (s.format.pack r g b a) s.view.offset
      (s.view.size / s.format.bytesPerPixel) data, ())) h
  rw [run_bind, run_note] at h
  dsimp only at h
  -- past the record, the invalidation changes only the invalidations
  obtain ⟨r', inv, hinv, -⟩ := run_invalidate s.view s.view.size _
  rw [hinv] at h
  cases h
  exact ⟨inv, _, rfl⟩

/-- **A rasterization that succeeds** stored the writes of the triangles into the storage under
the surface's handle. -/
theorem run_rasterizeInto_ok {clip : Clip} {tris : List (Vertex × Vertex × Vertex)}
    {counts : Array Nat} (h : Exec.run (Engine.rasterizeInto clip s tris) m = (.ok counts, m')) :
    m.Redrawn (paintObjects s.view.handle (fun d => s.storePixels s.view.offset d
      (trianglesWrites clip s.width s.height s.format tris)) m.device.objects) m' := by
  by_cases hm : s.view.Mappable m
  · obtain ⟨counts', j, hr⟩ := run_rasterizeInto_of_mappable hm clip tris
    rw [hr] at h
    cases h
    exact ⟨m.device.invalidations, j, rfl⟩
  · obtain ⟨e, j, hr⟩ := run_rasterizeInto_of_refused hm clip tris
    rw [hr] at h
    cases h

end Surface

/-- **A draw that succeeds** drew its triangles, clipped to the scissor's rectangle, into the
enabled render targets of every slot. -/
theorem Raster.Engine.run_draw_ok {e : Engine} {prim : Primitive} {v : View}
    {width : IndexWidth} {count : Nat} {m m' : Machine} {u : Unit}
    (h : Exec.run (e.draw prim v width count) m = (.ok u, m')) :
    ∃ tris, m.Redrawn (e.paintSlots (clipOf e.state.scissor) tris (List.range targetSlots)
      m.device.objects) m' := by
  obtain ⟨tris, l₁, r, j, inv, -, hrun, hall⟩ := e.run_draw_eq prim v width count m
  rw [hrun] at h
  cases h
  rw [← hall rfl]
  exact ⟨tris, inv, j, rfl⟩

/-! ### The storage under a surface's handle after an operation -/

/-- The storage of the first allocation under a handle. -/
def dataOf (objs : List Allocation) (h : Handle) : Option ByteArray :=
  (objs.find? fun a => a.handle == h).map Allocation.data

theorem storage?_eq_dataOf (m : Machine) (h : Handle) :
    m.device.storage? h = dataOf m.device.objects h := rfl

/-- Rewriting the storage under one handle rewrites what is read under it, and nothing else. -/
theorem dataOf_paintObjects (h h' : Handle) (g : ByteArray → ByteArray) (objs : List Allocation) :
    dataOf (paintObjects h g objs) h' = if h' = h then (dataOf objs h').map g else dataOf objs h' := by
  unfold dataOf
  rw [find?_paintObjects, Option.map_map]
  by_cases hh : h' = h <;> simp [hh, Function.comp_def]

/-- A held allocation that covers a view has storage that holds the view's bytes. -/
theorem exists_storage {m : Machine} {v : View} (hh : m.device.holds v.handle = true)
    (hs : v.Spans m) : ∃ d, m.device.storage? v.handle = some d ∧ v.offset + v.size ≤ d.size := by
  obtain ⟨a, ha⟩ := Device.exists_object?_of_holds hh
  exact ⟨a.data, by simp [Device.storage?, ha], (hs a ha).1⟩

namespace Raster.Engine

/-- The engine draws into the surface: the enabled render target of some slot holds it, and
every enabled render target on its allocation holds the surface itself. -/
structure DrawsInto (e : Engine) (s : Surface) : Prop where
  /-- A slot holds the surface as an enabled render target. -/
  bound : ∃ slot < targetSlots, ∃ t, e.drawnTarget? slot = some t ∧ t.surface = s
  /-- No other enabled render target shares its allocation. -/
  alone : ∀ slot t, e.drawnTarget? slot = some t → t.surface.view.handle = s.view.handle →
    t.surface = s

variable (e : Engine) (clip : Clip) (tris : List (Vertex × Vertex × Vertex))

/-- **The storage of a surface after drawing into slots.**  When every enabled target of the
slots on the surface's allocation holds the surface, drawing into the slots stores the writes of
the triangles into the surface some number of times, at least once when a slot holds it. -/
theorem dataOf_paintSlots {s : Surface}
    (halone : ∀ slot t, e.drawnTarget? slot = some t →
      t.surface.view.handle = s.view.handle → t.surface = s) (l : List Nat)
    (objs : List Allocation) :
    ∃ k, dataOf (e.paintSlots clip tris l objs) s.view.handle =
        (dataOf objs s.view.handle).map (fun d => s.storePixels s.view.offset d
          (trianglesWrites clip s.width s.height s.format tris))^[k] ∧
      ((∃ slot ∈ l, ∃ t, e.drawnTarget? slot = some t ∧ t.surface = s) → 0 < k) := by
  induction l generalizing objs with
  | nil =>
    refine ⟨0, by simp [paintSlots], ?_⟩
    rintro ⟨_, h, _⟩
    exact absurd h List.not_mem_nil
  | cons slot l ih =>
    rw [paintSlots, List.foldl_cons, ← paintSlots]
    cases ht : e.drawnTarget? slot with
    | none =>
      -- an empty slot draws nothing
      obtain ⟨k, hk, hpos⟩ := ih objs
      refine ⟨k, hk, ?_⟩
      rintro ⟨slot', hslot', t, ht', hts⟩
      refine hpos ⟨slot', ?_, t, ht', hts⟩
      rcases List.mem_cons.1 hslot' with rfl | hl
      · rw [ht] at ht'
        cases ht'
      · exact hl
    | some t =>
      simp only [Option.map_some, Option.getD_some]
      obtain ⟨k, hk, hpos⟩ := ih (paintObjects t.surface.view.handle (t.draws clip tris) objs)
      rw [hk, dataOf_paintObjects]
      by_cases hh : s.view.handle = t.surface.view.handle
      · -- the slot holds the surface: one more store of the writes
        have hts := halone slot t ht hh.symm
        subst hts
        refine ⟨k + 1, ?_, fun _ => Nat.succ_pos k⟩
        rw [if_pos rfl, Option.map_map, Function.iterate_succ]
        rfl
      · -- the slot holds another allocation
        refine ⟨k, by rw [if_neg hh], ?_⟩
        rintro ⟨slot', hslot', t', ht', hts⟩
        refine hpos ⟨slot', ?_, t', ht', hts⟩
        rcases List.mem_cons.1 hslot' with rfl | hl
        · rw [ht] at ht'
          cases ht'
          exact absurd (by rw [hts]) hh
        · exact hl

end Raster.Engine

/-- The writes of triangles in two formats lie at the same pixels, in colours that observations
agreeing on every packed colour do not tell apart. -/
theorem Raster.trianglesWrites_recolour {β : Type} {fP fQ : Format} {oP oQ : UInt32 → β}
    (h : ∀ r g b a, oP (fP.pack r g b a) = oQ (fQ.pack r g b a)) (clip : Clip) (w hgt : Nat)
    (tris : List (Vertex × Vertex × Vertex)) :
    (trianglesWrites clip w hgt fP tris).map (fun wr => (wr.1, wr.2.1, oP wr.2.2)) =
      (trianglesWrites clip w hgt fQ tris).map (fun wr => (wr.1, wr.2.1, oQ wr.2.2)) := by
  unfold trianglesWrites
  simp only [List.map_flatMap]
  congr 1
  funext t
  unfold triangleWrites
  dsimp only
  -- the area, the turn and the rectangle visited do not depend on the format
  split
  · rfl
  · split
    · rfl
    · unfold rectWrites
      simp only [List.map_flatMap, List.map_filterMap]
      congr 1
      funext y
      congr 1
      funext x
      unfold shade
      dsimp only
      split <;> simp [h]

/-! ### The colours of the four-byte formats -/

/-- A saturating conversion into `[lo, hi]` gives at most `hi`. -/
theorem Binary32.toIntSat_le {lo hi : Int} (hlo : lo ≤ hi) (h0 : 0 ≤ hi)
    (r : Bool → Nat → Int → Int) (x : Float32) : Binary32.toIntSat lo hi r x ≤ hi := by
  unfold Binary32.toIntSat
  split
  · exact h0
  · split <;> omega
  · exact max_le hlo (min_le_left _ _)

theorem Binary32.roundByte_lt (x : Float32) : Binary32.roundByte x < 256 := by
  unfold Binary32.roundByte
  have hle := Binary32.toIntSat_le (show (0 : Int) ≤ 255 by decide) (by decide)
    Binary32.roundOf x
  omega

namespace Surface

/-- A channel becomes a byte. -/
theorem unorm8_lt (v : Float32) : unorm8 v < 256 := Binary32.roundByte_lt _

/-- The bytes of a word of four bytes are the four bytes. -/
theorem byteOf_word4 {b0 b1 b2 b3 : Nat} (h0 : b0 < 256) (h1 : b1 < 256) (h2 : b2 < 256)
    (h3 : b3 < 256) :
    byteOf (word4 b0 b1 b2 b3) 0 = b0 ∧ byteOf (word4 b0 b1 b2 b3) 1 = b1 ∧
      byteOf (word4 b0 b1 b2 b3) 2 = b2 ∧ byteOf (word4 b0 b1 b2 b3) 3 = b3 := by
  have hw : (word4 b0 b1 b2 b3).toNat = b0 + b1 * 256 + b2 * 65536 + b3 * 16777216 := by
    simp only [word4, Nat.toUInt32, UInt32.toNat_ofNat', Nat.pow_eq]
    omega
  simp only [byteOf, hw, Nat.pow_eq]
  omega

/-- **Packing and reading back are inverse in both four-byte formats**: a colour packed in
red-green-blue-alpha or in blue-green-red-alpha order reads back as the same four bytes. -/
theorem toRgba8_pack_of_four (r g b a : Float32) :
    Format.rgba8888.toRgba8 (Format.rgba8888.pack r g b a) =
        (unorm8 r, unorm8 g, unorm8 b, unorm8 a) ∧
      Format.bgra8888.toRgba8 (Format.bgra8888.pack r g b a) =
        (unorm8 r, unorm8 g, unorm8 b, unorm8 a) := by
  obtain ⟨hr0, hg1, hb2, ha3⟩ :=
    byteOf_word4 (unorm8_lt r) (unorm8_lt g) (unorm8_lt b) (unorm8_lt a)
  obtain ⟨hb0, hg1', hr2, ha3'⟩ :=
    byteOf_word4 (unorm8_lt b) (unorm8_lt g) (unorm8_lt r) (unorm8_lt a)
  exact ⟨by simp only [Format.pack, Format.toRgba8, hr0, hg1, hb2, ha3],
    by simp only [Format.pack, Format.toRgba8, hb0, hg1', hr2, ha3']⟩

end Surface

/-! ### Agreement of two surfaces -/

namespace Surface

/-- Observing the value of the last write, or else the value before, is taking the last of the
observed writes, or else the observed value before. -/
theorem observe_lastWrite {β : Type} (o : UInt32 → β) (f : Format)
    (ws : List (Nat × Nat × UInt32)) (x y : Nat) (v : UInt32) :
    o (((lastWrite ws x y).map f.truncate).getD v) =
      (lastWrite (ws.map fun w => (w.1, w.2.1, o (f.truncate w.2.2))) x y).getD (o v) := by
  rw [lastWrite_map (fun raw => o (f.truncate raw))]
  cases lastWrite ws x y <;> rfl

theorem size_iterate_storePixels (s : Surface) (ws : List (Nat × Nat × UInt32)) (k : Nat)
    (d : ByteArray) : ((fun d => s.storePixels s.view.offset d ws)^[k] d).size = d.size := by
  induction k with
  | zero => rfl
  | succ k ih => rw [Function.iterate_succ_apply', Surface.size_storePixels, ih]

/-- Storing the same writes again and again leaves the pixels as storing them once. -/
theorem pixelIn_iterate_storePixels {s : Surface} (hs : s.Laid) {d : ByteArray}
    (hd : s.view.offset + s.view.size ≤ d.size) {ws : List (Nat × Nat × UInt32)}
    (hws : ∀ w ∈ ws, w.1 < s.width ∧ w.2.1 < s.height) {k : Nat} (hk : 0 < k) {x y : Nat}
    (hx : x < s.width) (hy : y < s.height) :
    s.pixelIn ((fun d => s.storePixels s.view.offset d ws)^[k] d) x y =
      ((lastWrite ws x y).map s.format.truncate).getD (s.pixelIn d x y) := by
  induction k with
  | zero => omega
  | succ k ih =>
    have hd' : s.view.offset + s.view.size ≤
        ((fun d => s.storePixels s.view.offset d ws)^[k] d).size := by
      rw [size_iterate_storePixels]
      exact hd
    rw [Function.iterate_succ_apply', pixelIn_storePixels hs hd' hws hx hy]
    rcases Nat.eq_zero_or_pos k with rfl | hk'
    · rfl
    · -- a second store of the writes finds the pixels the first one left
      rw [ih hk']
      cases lastWrite ws x y <;> rfl

end Surface

section Agreement

variable {β : Type} (oP oQ : UInt32 → β) (P Q : Surface)

/-- The pixels of two surfaces agree under observations of raw pixels: both lie in held
allocations that cover them, and at every pixel of the first surface the observed raw pixels of
the two are equal. -/
structure Agree (m : Machine) : Prop where
  /-- The allocation of the first surface is held. -/
  holdsP : m.device.holds P.view.handle = true
  /-- It covers the first surface. -/
  spansP : P.view.Spans m
  /-- The allocation of the second surface is held. -/
  holdsQ : m.device.holds Q.view.handle = true
  /-- It covers the second surface. -/
  spansQ : Q.view.Spans m
  /-- The observed pixels agree. -/
  pixels : ∀ x < P.width, ∀ y < P.height, oP (P.pixelAt m x y) = oQ (Q.pixelAt m x y)

/-- The pixels of `P` in the bytes `dP` and of `Q` in the bytes `dQ` agree under the
observations. -/
def PixelsAgree (dP dQ : ByteArray) : Prop :=
  ∀ x < P.width, ∀ y < P.height, oP (P.pixelIn dP x y) = oQ (Q.pixelIn dQ x y)

/-- Rewriting the bytes of the two surfaces by `gP` and `gQ` keeps their pixels agreeing. -/
def KeepsAgreement (gP gQ : ByteArray → ByteArray) : Prop :=
  ∀ dP dQ, P.view.offset + P.view.size ≤ dP.size → Q.view.offset + Q.view.size ≤ dQ.size →
    PixelsAgree oP oQ P Q dP dQ → PixelsAgree oP oQ P Q (gP dP) (gQ dQ)

variable {oP oQ P Q} (hPl : P.Laid) (hQl : Q.Laid) (hw : P.width = Q.width)
  (hh : P.height = Q.height)
include hPl hQl hw hh

/-- **One step of the agreement.**  An operation that leaves the machine redrawn, with the
storage of each surface rewritten by a rewrite that keeps agreeing pixels agreeing, keeps the
two surfaces agreeing, and leaves a machine alike the one it started from. -/
theorem Agree.of_redrawn {m m' : Machine} (ha : Agree oP oQ P Q m) {objs : List Allocation}
    (hr : m.Redrawn objs m') (hshape : objs.map Allocation.shape = m.device.objects.map Allocation.shape)
    {gP gQ : ByteArray → ByteArray}
    (hdP : dataOf objs P.view.handle = (dataOf m.device.objects P.view.handle).map gP)
    (hdQ : dataOf objs Q.view.handle = (dataOf m.device.objects Q.view.handle).map gQ)
    (hg : KeepsAgreement oP oQ P Q gP gQ) : Agree oP oQ P Q m' ∧ m.Alike m' := by
  have halike := hr.alike hshape
  obtain ⟨dP, hdP₀, hsP⟩ := exists_storage ha.holdsP ha.spansP
  obtain ⟨dQ, hdQ₀, hsQ⟩ := exists_storage ha.holdsQ ha.spansQ
  -- after the operation each surface reads the rewritten bytes
  have hdP' : m'.device.storage? P.view.handle = some (gP dP) := by
    rw [storage?_eq_dataOf, hr.objects, hdP, ← storage?_eq_dataOf, hdP₀]
    rfl
  have hdQ' : m'.device.storage? Q.view.handle = some (gQ dQ) := by
    rw [storage?_eq_dataOf, hr.objects, hdQ, ← storage?_eq_dataOf, hdQ₀]
    rfl
  have hbefore : PixelsAgree oP oQ P Q dP dQ := by
    intro x hx y hy
    rw [← P.pixelAt_eq_pixelIn hPl hdP₀ hx hy, ← Q.pixelAt_eq_pixelIn hQl hdQ₀ (hw ▸ hx) (hh ▸ hy)]
    exact ha.pixels x hx y hy
  refine ⟨⟨by rw [halike.holds_eq]; exact ha.holdsP, (halike.spans_iff _).2 ha.spansP,
    by rw [halike.holds_eq]; exact ha.holdsQ, (halike.spans_iff _).2 ha.spansQ, ?_⟩, halike⟩
  intro x hx y hy
  rw [P.pixelAt_eq_pixelIn hPl hdP' hx hy, Q.pixelAt_eq_pixelIn hQl hdQ' (hw ▸ hx) (hh ▸ hy)]
  exact hg dP dQ hsP hsQ hbefore x hx y hy

/-- Writing one raw pixel into both surfaces keeps them agreeing when the observations agree on
what the formats keep of it. -/
theorem keepsAgreement_store {x₀ y₀ : Nat} (hx₀ : x₀ < P.width) (hy₀ : y₀ < P.height)
    {raw : UInt32} (hraw : oP (P.format.truncate raw) = oQ (Q.format.truncate raw)) :
    KeepsAgreement oP oQ P Q
      (fun d => P.format.store d (P.view.offset + P.pixelOffset x₀ y₀) raw)
      (fun d => Q.format.store d (Q.view.offset + Q.pixelOffset x₀ y₀) raw) := by
  intro dP dQ hsP hsQ hagree x hx y hy
  rw [pixelIn_store hPl hsP hx₀ hy₀ hx hy, pixelIn_store hQl hsQ (hw ▸ hx₀) (hh ▸ hy₀) (hw ▸ hx) (hh ▸ hy)]
  split
  · exact hraw
  · exact hagree x hx y hy

/-- Clearing both surfaces to one colour keeps them agreeing when the observations agree on the
colour as the formats pack and keep it. -/
theorem keepsAgreement_fill {r g b a : Float32}
    (hc : oP (P.format.truncate (P.format.pack r g b a)) = oQ (Q.format.truncate (Q.format.pack r g b a))) :
    KeepsAgreement oP oQ P Q
      (fillPixels P.format (P.format.pack r g b a) P.view.offset (P.view.size / P.format.bytesPerPixel))
      (fillPixels Q.format (Q.format.pack r g b a) Q.view.offset (Q.view.size / Q.format.bytesPerPixel)) := by
  intro dP dQ hsP hsQ _ x hx y hy
  rw [pixelIn_fillPixels hPl hsP _ hx hy, pixelIn_fillPixels hQl hsQ _ (hw ▸ hx) (hh ▸ hy)]
  exact hc

/-- Storing the writes of the same triangles into both surfaces, once or more, keeps them
agreeing when the observations agree on every colour as the formats pack and keep it. -/
theorem keepsAgreement_draws (clip : Clip) (tris : List (Vertex × Vertex × Vertex))
    (hc : ∀ r g b a, oP (P.format.truncate (P.format.pack r g b a)) =
      oQ (Q.format.truncate (Q.format.pack r g b a))) {kP kQ : Nat} (hkP : 0 < kP) (hkQ : 0 < kQ) :
    KeepsAgreement oP oQ P Q
      (fun d => P.storePixels P.view.offset d (trianglesWrites clip P.width P.height P.format tris))^[kP]
      (fun d => Q.storePixels Q.view.offset d (trianglesWrites clip Q.width Q.height Q.format tris))^[kQ] := by
  intro dP dQ hsP hsQ hagree x hx y hy
  have hinside : ∀ s : Surface, ∀ w ∈ trianglesWrites clip s.width s.height s.format tris,
      w.1 < s.width ∧ w.2.1 < s.height := fun s w hw' =>
    ⟨(mem_trianglesWrites hw').2.2.2.2.1, (mem_trianglesWrites hw').2.2.2.2.2⟩
  rw [pixelIn_iterate_storePixels hPl hsP (hinside P) hkP hx hy,
    pixelIn_iterate_storePixels hQl hsQ (hinside Q) hkQ (hw ▸ hx) (hh ▸ hy),
    observe_lastWrite oP P.format, observe_lastWrite oQ Q.format, hagree x hx y hy]
  -- the two surfaces get the same pixels, in colours that the observations do not tell apart
  have hws := @trianglesWrites_recolour _ P.format Q.format (fun raw => oP (P.format.truncate raw))
    (fun raw => oQ (Q.format.truncate raw)) hc clip P.width P.height tris
  rw [hws, hw, hh]

/-- An operation on `P` and then one on `Q`, each rewriting the storage of its own surface, keep
the two agreeing when the rewrites keep agreeing pixels agreeing. -/
theorem Agree.of_both {m m' : Machine} (ha : Agree oP oQ P Q m)
    (hne : P.view.handle ≠ Q.view.handle) {gP gQ : ByteArray → ByteArray}
    (hgP : ∀ d, (gP d).size = d.size) (hgQ : ∀ d, (gQ d).size = d.size)
    (hr : m.Redrawn (paintObjects Q.view.handle gQ (paintObjects P.view.handle gP m.device.objects)) m')
    (hg : KeepsAgreement oP oQ P Q gP gQ) : Agree oP oQ P Q m' ∧ m.Alike m' := by
  refine ha.of_redrawn hPl hQl hw hh hr ?_ ?_ ?_ hg
  · rw [shapes_paintObjects hgQ, shapes_paintObjects hgP]
  · rw [dataOf_paintObjects, if_neg hne, dataOf_paintObjects, if_pos rfl]
  · rw [dataOf_paintObjects, if_pos rfl, dataOf_paintObjects, if_neg (Ne.symm hne)]

end Agreement

/-! ### Operations applied to both surfaces -/

/-- An operation as both surfaces go through it. -/
inductive PixelOp where
  /-- Writing a raw pixel. -/
  | write (x y : Nat) (raw : UInt32)
  /-- Clearing to a colour. -/
  | clear (r g b a : Float32)
  /-- Rasterizing triangles through the surface's own mapping. -/
  | rasterize (clip : Clip) (tris : List (Vertex × Vertex × Vertex))
  /-- Drawing with an engine, once for both surfaces. -/
  | draw (e : Engine) (prim : Primitive) (v : View) (width : IndexWidth) (count : Nat)

namespace PixelOp

/-- The operation applied to `P` and then to `Q`; a draw runs once, drawing into both. -/
def apply (P Q : Surface) : PixelOp → Act Unit
  | .write x y raw => do
    P.writePixel x y raw
    Q.writePixel x y raw
  | .clear r g b a => do
    P.clear r g b a
    Q.clear r g b a
  | .rasterize clip tris => do
    let _ ← Engine.rasterizeInto clip P tris
    let _ ← Engine.rasterizeInto clip Q tris
    pure ()
  | .draw e prim v width count => e.draw prim v width count

/-- A draw draws into both surfaces. -/
def Fits (P Q : Surface) : PixelOp → Prop
  | .draw e _ _ _ _ => e.DrawsInto P ∧ e.DrawsInto Q
  | _ => True

/-- The operation writes a raw pixel. -/
def IsWrite : PixelOp → Prop
  | .write _ _ _ => True
  | _ => False

end PixelOp

/-- Operations applied one after the other to `P` and `Q`. -/
def applyAll (P Q : Surface) (ops : List PixelOp) : Act Unit := do
  for op in ops do
    op.apply P Q

/-- A sequence of two operations that succeeds is a first that succeeds and a second that
succeeds after it. -/
theorem exists_run_of_bind_ok {α β : Type} {a : Act α} {f : α → Act β} {m m' : Machine} {y : β}
    (h : Exec.run (a >>= f) m = (.ok y, m')) :
    ∃ x m₁, Exec.run a m = (.ok x, m₁) ∧ Exec.run (f x) m₁ = (.ok y, m') := by
  rw [run_bind] at h
  rcases hr : Exec.run a m with ⟨e | x, m₁⟩
  · rw [hr] at h
    cases h
  · rw [hr] at h
    exact ⟨x, m₁, rfl, h⟩

section Agreement

variable {β : Type} {oP oQ : UInt32 → β} {P Q : Surface} (hPl : P.Laid) (hQl : Q.Laid)
  (hw : P.width = Q.width) (hh : P.height = Q.height) (hne : P.view.handle ≠ Q.view.handle)
  (hc : ∀ r g b a, oP (P.format.truncate (P.format.pack r g b a)) =
    oQ (Q.format.truncate (Q.format.pack r g b a)))
include hPl hQl hw hh hne hc

/-- **One operation keeps the agreement.**  An operation that fits the two surfaces and
succeeds keeps them agreeing, and the machine alike the one the operations started from, when
the observations agree on every colour as the formats pack and keep it, and, for a pixel write,
on every raw pixel as the formats keep it. -/
theorem agree_apply (m₀ : Machine) {op : PixelOp} (hfit : op.Fits P Q)
    (hwr : op.IsWrite → ∀ raw, oP (P.format.truncate raw) = oQ (Q.format.truncate raw)) :
    Triple (fun m => Agree oP oQ P Q m ∧ m₀.Alike m) (op.apply P Q)
      (fun _ m => Agree oP oQ P Q m ∧ m₀.Alike m) fun _ => True := by
  refine Exec.Triple.of_ok fun m m' u ⟨ha, h₀⟩ hrun => ?_
  suffices hstep : Agree oP oQ P Q m' ∧ m.Alike m' from ⟨hstep.1, h₀.trans hstep.2⟩
  cases op with
  | write x y raw =>
    obtain ⟨u₁, m₁, hr₁, hr₂⟩ := exists_run_of_bind_ok hrun
    obtain ⟨hx, hy, hd₁⟩ := P.run_writePixel_ok hr₁
    obtain ⟨-, -, hd₂⟩ := Q.run_writePixel_ok hr₂
    rw [hd₁.objects] at hd₂
    exact ha.of_both hPl hQl hw hh hne (fun d => Format.size_store _ _ _ _)
      (fun d => Format.size_store _ _ _ _) (hd₁.trans hd₂)
      (keepsAgreement_store hPl hQl hw hh hx hy (hwr trivial raw))
  | clear r g b a =>
    obtain ⟨u₁, m₁, hr₁, hr₂⟩ := exists_run_of_bind_ok hrun
    have hd₁ := P.run_clear_ok hr₁
    have hd₂ := Q.run_clear_ok hr₂
    rw [hd₁.objects] at hd₂
    exact ha.of_both hPl hQl hw hh hne (fun d => size_fillPixels _ _ _ _ _)
      (fun d => size_fillPixels _ _ _ _ _) (hd₁.trans hd₂)
      (keepsAgreement_fill hPl hQl hw hh (hc r g b a))
  | rasterize clip tris =>
    obtain ⟨c₁, m₁, hr₁, hr₂⟩ := exists_run_of_bind_ok hrun
    obtain ⟨c₂, m₂, hr₂, hr₃⟩ := exists_run_of_bind_ok hr₂
    have hd₁ := P.run_rasterizeInto_ok hr₁
    have hd₂ := Q.run_rasterizeInto_ok hr₂
    cases hr₃
    rw [hd₁.objects] at hd₂
    -- rasterizing stores the writes of the triangles once into each surface
    have hg := keepsAgreement_draws hPl hQl hw hh clip tris hc Nat.one_pos Nat.one_pos
    rw [Function.iterate_one, Function.iterate_one] at hg
    exact ha.of_both hPl hQl hw hh hne (fun d => Surface.size_storePixels _ _ _ _)
      (fun d => Surface.size_storePixels _ _ _ _) (hd₁.trans hd₂) hg
  | draw e prim v width count =>
    obtain ⟨hdP, hdQ⟩ := hfit
    obtain ⟨tris, hd⟩ := Engine.run_draw_ok hrun
    -- each surface is drawn into by at least one slot, and by nothing else
    have hbound : ∀ {s : Surface}, e.DrawsInto s → ∃ slot ∈ List.range targetSlots, ∃ t,
        e.drawnTarget? slot = some t ∧ t.surface = s := fun hs => by
      obtain ⟨slot, hslot, t, ht, hts⟩ := hs.bound
      exact ⟨slot, List.mem_range.2 hslot, t, ht, hts⟩
    obtain ⟨kP, hkP, hposP⟩ := e.dataOf_paintSlots (Engine.clipOf e.state.scissor) tris hdP.alone
      (List.range targetSlots) m.device.objects
    obtain ⟨kQ, hkQ, hposQ⟩ := e.dataOf_paintSlots (Engine.clipOf e.state.scissor) tris hdQ.alone
      (List.range targetSlots) m.device.objects
    exact ha.of_redrawn hPl hQl hw hh hd (e.shapes_paintSlots _ _ _ _) hkP hkQ
      (keepsAgreement_draws hPl hQl hw hh _ tris hc (hposP (hbound hdP)) (hposQ (hbound hdQ)))

/-- **Every sequence of operations that succeeds keeps the agreement**, and leaves the machine
alike the one it started from. -/
theorem agree_applyAll (m₀ : Machine) {ops : List PixelOp}
    (hops : ∀ op ∈ ops, op.Fits P Q ∧
      (op.IsWrite → ∀ raw, oP (P.format.truncate raw) = oQ (Q.format.truncate raw))) :
    Triple (fun m => Agree oP oQ P Q m ∧ m₀.Alike m) (applyAll P Q ops)
      (fun _ m => Agree oP oQ P Q m ∧ m₀.Alike m) fun _ => True := by
  unfold applyAll
  refine Triple.bind (Exec.Triple.forIn_list_mem (I := fun _ m => Agree oP oQ P Q m ∧ m₀.Alike m)
    ops PUnit.unit fun op hop _ => ?_) fun _ => Triple.pure _ fun _ h => h
  -- each step applies one operation and goes on
  exact Triple.bind (agree_apply hPl hQl hw hh hne hc m₀ (hops op hop).1 (hops op hop).2)
    fun _ => Triple.pure _ fun _ h => h

end Agreement

/-! ### Layouts and formats do not show -/

section Reads

variable {P Q : Surface} (hw : P.width = Q.width) (hh : P.height = Q.height) {m : Machine}
  (hmP : P.view.Mappable m) (hmQ : Q.view.Mappable m)
include hw hh hmP hmQ

/-- Surfaces whose raw pixels agree read the same at every pixel. -/
theorem Agree.readPixel_eq (ha : Agree id id P Q m) {x y : Nat} (hx : x < P.width)
    (hy : y < P.height) :
    (Exec.run (P.readPixel x y) m).1 = (Exec.run (Q.readPixel x y) m).1 := by
  rw [P.run_readPixel hmP hx hy, Q.run_readPixel hmQ (hw ▸ hx) (hh ▸ hy)]
  exact congrArg Except.ok (ha.pixels x hx y hy)

/-- Surfaces whose pixels have the same colours read the same bytes when all their pixels are
read. -/
theorem Agree.toRgba8_eq (ha : Agree P.format.toRgba8 Q.format.toRgba8 P Q m) :
    (Exec.run P.toRgba8 m).1 = (Exec.run Q.toRgba8 m).1 := by
  rw [P.run_toRgba8 hmP, Q.run_toRgba8 hmQ]
  exact congrArg Except.ok (Surface.rgba8Of_congr hw hh ha.pixels)

end Reads

/-- **Layouts and pixel formats do not show.**  Take two surfaces laid out as made, of one width
and height, on allocations of their own, and a sequence of operations that fit them: pixel
writes, clears, rasterizations through the surfaces' own mappings, and draws by engines that
draw into both and into nothing else on their allocations.  When the whole sequence succeeds:

* surfaces of one format whose pixels were equal have equal pixels after, and reading a pixel,
  or all pixels, of the one gives what it gives of the other, whatever the two layouts;
* a red-green-blue-alpha surface and a blue-green-red-alpha surface whose pixels had the same
  colours, put through a sequence that writes no raw pixel, have pixels of the same colours
  after, and reading all pixels gives the same bytes. -/
theorem surfaces_agree {P Q : Surface} (hPl : P.Laid) (hQl : Q.Laid) (hw : P.width = Q.width)
    (hh : P.height = Q.height) (hne : P.view.handle ≠ Q.view.handle) {ops : List PixelOp}
    (hfits : ∀ op ∈ ops, op.Fits P Q) {m : Machine}
    (hok : (Exec.run (applyAll P Q ops) m).1 = .ok ()) :
    (P.format = Q.format → Agree id id P Q m →
      Agree id id P Q (Exec.run (applyAll P Q ops) m).2 ∧
      (P.view.Mappable m → Q.view.Mappable m →
        (∀ x < P.width, ∀ y < P.height,
          (Exec.run (P.readPixel x y) (Exec.run (applyAll P Q ops) m).2).1 =
            (Exec.run (Q.readPixel x y) (Exec.run (applyAll P Q ops) m).2).1) ∧
        (Exec.run P.toRgba8 (Exec.run (applyAll P Q ops) m).2).1 =
          (Exec.run Q.toRgba8 (Exec.run (applyAll P Q ops) m).2).1)) ∧
    (P.format = .rgba8888 → Q.format = .bgra8888 → (∀ op ∈ ops, ¬ op.IsWrite) →
      Agree P.format.toRgba8 Q.format.toRgba8 P Q m →
      Agree P.format.toRgba8 Q.format.toRgba8 P Q (Exec.run (applyAll P Q ops) m).2 ∧
      (P.view.Mappable m → Q.view.Mappable m →
        (Exec.run P.toRgba8 (Exec.run (applyAll P Q ops) m).2).1 =
          (Exec.run Q.toRgba8 (Exec.run (applyAll P Q ops) m).2).1)) := by
  obtain ⟨m', hrun⟩ : ∃ m', Exec.run (applyAll P Q ops) m = (.ok (), m') := by
    rcases hr : Exec.run (applyAll P Q ops) m with ⟨e | u, m'⟩
    · rw [hr] at hok
      cases hok
    · exact ⟨m', rfl⟩
  rw [hrun]
  constructor
  · -- one format: the raw pixels themselves agree
    intro hf ha
    have hc : ∀ r g b a, id (P.format.truncate (P.format.pack r g b a)) =
        id (Q.format.truncate (Q.format.pack r g b a)) := fun r g b a => by rw [hf]
    obtain ⟨ha', halike⟩ := (agree_applyAll hPl hQl hw hh hne hc m fun op hop =>
      ⟨hfits op hop, fun _ raw => by rw [id, id, hf]⟩).apply ⟨ha, Machine.Alike.refl m⟩ |>.1 () m' hrun
    refine ⟨ha', fun hmP hmQ => ?_⟩
    have hmP' := (halike.mappable_iff _).2 hmP
    have hmQ' := (halike.mappable_iff _).2 hmQ
    refine ⟨fun x hx y hy => ha'.readPixel_eq hw hh hmP' hmQ' hx hy, ?_⟩
    -- equal raw pixels in one format have equal colours
    refine Agree.toRgba8_eq hw hh hmP' hmQ' ⟨ha'.holdsP, ha'.spansP, ha'.holdsQ, ha'.spansQ, ?_⟩
    intro x hx y hy
    rw [hf]
    exact congrArg Q.format.toRgba8 (ha'.pixels x hx y hy)
  · -- the two four-byte formats: the colours agree
    intro hfP hfQ hnw ha
    have hc : ∀ r g b a, P.format.toRgba8 (P.format.truncate (P.format.pack r g b a)) =
        Q.format.toRgba8 (Q.format.truncate (Q.format.pack r g b a)) := by
      intro r g b a
      rw [hfP, hfQ, Format.truncate_of_four rfl, Format.truncate_of_four rfl,
        (toRgba8_pack_of_four r g b a).1, (toRgba8_pack_of_four r g b a).2]
    obtain ⟨ha', halike⟩ := (agree_applyAll hPl hQl hw hh hne hc m fun op hop =>
      ⟨hfits op hop, fun hwr => absurd hwr (hnw op hop)⟩).apply ⟨ha, Machine.Alike.refl m⟩
      |>.1 () m' hrun
    exact ⟨ha', fun hmP hmQ => Agree.toRgba8_eq hw hh ((halike.mappable_iff _).2 hmP)
      ((halike.mappable_iff _).2 hmQ) ha'⟩

set_option maxRecDepth 8000 in
/-- Three fresh surfaces of one pixel: a linear red-green-blue-alpha one, a tiled one of the same
format and a tiled blue-green-red-alpha one.  The first two agree after a pixel write into both,
and the first and the third after a clear of both. -/
theorem surfaces_agree_fresh :
    let P : Surface := ⟨1, 1, .rgba8888, .linear, 4, ⟨0, ⟨1⟩, 0, 4, { renderTarget := true }⟩⟩
    let Q : Surface := ⟨1, 1, .rgba8888, .tiled, 64, ⟨1, ⟨2⟩, 0, 1024, { renderTarget := true }⟩⟩
    let R : Surface := ⟨1, 1, .bgra8888, .tiled, 64, ⟨2, ⟨3⟩, 0, 1024, { renderTarget := true }⟩⟩
    let m := (Exec.run (do
      let _ ← Surface.create 1 1 .rgba8888 .linear
      let _ ← Surface.create 1 1 .rgba8888 .tiled
      let _ ← Surface.create 1 1 .bgra8888 .tiled
      pure ()) ({} : Machine)).2
    let write := [PixelOp.write 0 0 0x11223344]
    let clear := [PixelOp.clear one32 zero32 zero32 one32]
    (P.Laid ∧ Q.Laid ∧ P.view.handle ≠ Q.view.handle ∧ (∀ op ∈ write, op.Fits P Q) ∧
      (Exec.run (applyAll P Q write) m).1 = .ok () ∧ P.format = Q.format ∧ Agree id id P Q m ∧
      P.view.Mappable m ∧ Q.view.Mappable m ∧
      Agree id id P Q (Exec.run (applyAll P Q write) m).2 ∧
      (Exec.run (P.readPixel 0 0) (Exec.run (applyAll P Q write) m).2).1 =
        (Exec.run (Q.readPixel 0 0) (Exec.run (applyAll P Q write) m).2).1) ∧
    (R.Laid ∧ P.view.handle ≠ R.view.handle ∧ (∀ op ∈ clear, op.Fits P R ∧ ¬ op.IsWrite) ∧
      (Exec.run (applyAll P R clear) m).1 = .ok () ∧
      Agree P.format.toRgba8 R.format.toRgba8 P R m ∧ R.view.Mappable m ∧
      (Exec.run P.toRgba8 (Exec.run (applyAll P R clear) m).2).1 =
        (Exec.run R.toRgba8 (Exec.run (applyAll P R clear) m).2).1) := by
  intro P Q R m write clear
  have hPl : P.Laid := by
    unfold Surface.Laid
    decide
  have hQl : Q.Laid := by
    unfold Surface.Laid
    decide
  have hRl : R.Laid := by
    unfold Surface.Laid
    decide
  have hwrite : ∀ op ∈ write, op.Fits P Q := by
    intro op hop
    rw [List.mem_singleton.1 hop]
    trivial
  have hclear : ∀ op ∈ clear, op.Fits P R ∧ ¬ op.IsWrite := by
    intro op hop
    rw [List.mem_singleton.1 hop]
    exact ⟨trivial, id⟩
  have hokQ : (Exec.run (applyAll P Q write) m).1 = .ok () := by decide +kernel
  have hokR : (Exec.run (applyAll P R clear) m).1 = .ok () := by decide +kernel
  -- fresh allocations hold zeros, so every pixel reads zero
  have hdP : m.device.storage? P.view.handle = some (Host.zeros 4) := rfl
  have hdQ : m.device.storage? Q.view.handle = some (Host.zeros 1024) := rfl
  have hdR : m.device.storage? R.view.handle = some (Host.zeros 1024) := rfl
  have hzP : P.pixelAt m 0 0 = 0 := by
    rw [P.pixelAt_eq_pixelIn hPl hdP Nat.one_pos Nat.one_pos]
    decide +kernel
  have hzQ : Q.pixelAt m 0 0 = 0 := by
    rw [Q.pixelAt_eq_pixelIn hQl hdQ Nat.one_pos Nat.one_pos]
    decide +kernel
  have hzR : R.pixelAt m 0 0 = 0 := by
    rw [R.pixelAt_eq_pixelIn hRl hdR Nat.one_pos Nat.one_pos]
    decide +kernel
  have hsP : P.view.Spans m := View.spans_of_shape 4 4 (by decide +kernel) (by decide)
    (by decide) (by decide)
  have hsQ : Q.view.Spans m := View.spans_of_shape 1024 1024 (by decide +kernel) (by decide)
    (by decide) (by decide)
  have hsR : R.view.Spans m := View.spans_of_shape 1024 1024 (by decide +kernel) (by decide)
    (by decide) (by decide)
  have haQ : Agree id id P Q m := by
    refine ⟨by decide +kernel, hsP, by decide +kernel, hsQ, ?_⟩
    intro x hx y hy
    obtain rfl : x = 0 := Nat.lt_one_iff.1 hx
    obtain rfl : y = 0 := Nat.lt_one_iff.1 hy
    rw [id_eq, id_eq, hzP, hzQ]
  have haR : Agree P.format.toRgba8 R.format.toRgba8 P R m := by
    refine ⟨by decide +kernel, hsP, by decide +kernel, hsR, ?_⟩
    intro x hx y hy
    obtain rfl : x = 0 := Nat.lt_one_iff.1 hx
    obtain rfl : y = 0 := Nat.lt_one_iff.1 hy
    rw [hzP, hzR]
    decide
  have hmP : P.view.Mappable m := ⟨by decide +kernel, by decide +kernel⟩
  have hmQ : Q.view.Mappable m := ⟨by decide +kernel, by decide +kernel⟩
  have hmR : R.view.Mappable m := ⟨by decide +kernel, by decide +kernel⟩
  obtain ⟨haQ', hreads⟩ := (surfaces_agree hPl hQl rfl rfl (by decide) hwrite hokQ).1 rfl haQ
  obtain ⟨-, hbytes⟩ := (surfaces_agree hPl hRl rfl rfl (by decide)
    (fun op hop => (hclear op hop).1) hokR).2 rfl rfl (fun op hop => (hclear op hop).2) haR
  exact ⟨⟨hPl, hQl, by decide, hwrite, hokQ, rfl, haQ, hmP, hmQ, haQ',
      (hreads hmP hmQ).1 0 Nat.one_pos 0 Nat.one_pos⟩,
    ⟨hRl, by decide, hclear, hokR, haR, hmR, hbytes hmP hmR⟩⟩

set_option maxRecDepth 8000 in
/-- A sequence that fails part of the way can leave the surfaces apart.  While the tiled
surface's allocation is mapped by its user, a write into both surfaces writes the linear one and
is refused on the tiled one; once that mapping ends, the two read different pixels. -/
theorem surfaces_apart_after_refused_write :
    let P : Surface := ⟨1, 1, .rgba8888, .linear, 4, ⟨0, ⟨1⟩, 0, 4, { renderTarget := true }⟩⟩
    let Q : Surface := ⟨1, 1, .rgba8888, .tiled, 64, ⟨1, ⟨2⟩, 0, 1024, { renderTarget := true }⟩⟩
    let m := (Exec.run (do
      let _ ← Surface.create 1 1 .rgba8888 .linear
      let _ ← Surface.create 1 1 .rgba8888 .tiled
      Q.view.map) ({} : Machine)).2
    let write := [PixelOp.write 0 0 0x11223344]
    let m' := (Exec.run Q.view.unmap (Exec.run (applyAll P Q write) m).2).2
    (Exec.run (applyAll P Q write) m).1 ≠ .ok () ∧
      (Exec.run (P.readPixel 0 0) m').1 = .ok 0x11223344 ∧
      (Exec.run (Q.readPixel 0 0) m').1 = .ok 0 := by
  intro P Q m write m'
  have hQl : Q.Laid := by
    unfold Surface.Laid
    decide
  -- the refused write leaves the tiled surface's fresh zeros in place
  have hdQ : m'.device.storage? Q.view.handle = some (Host.zeros 1024) := rfl
  have hmP : P.view.Mappable m' := ⟨by decide +kernel, by decide +kernel⟩
  have hmQ : Q.view.Mappable m' := ⟨by decide +kernel, by decide +kernel⟩
  refine ⟨by decide +kernel, ?_, ?_⟩
  · rw [P.run_readPixel hmP Nat.one_pos Nat.one_pos]
    decide +kernel
  · rw [Q.run_readPixel hmQ Nat.one_pos Nat.one_pos,
      Q.pixelAt_eq_pixelIn hQl hdQ Nat.one_pos Nat.one_pos]
    decide +kernel

end TegraGpu
