import Mathlib
import TegraGpu.Proofs.Layout
/-!
# The rasterizer stays inside the clip rectangle and the surface

Rasterizing a triangle visits a rectangle of pixels, the corners' box rounded outwards and cut
to the clip rectangle and the surface, and writes the pixels of it whose centres the triangle
covers.  Whatever the clip rectangle (negative, inverted or reaching the greatest 32-bit value)
and whatever the corners (NaN, infinite or past every machine integer), the pixels written lie
in the clip rectangle cut to the surface, so that their bytes lie inside the surface's buffer;
each is written once, and the count the rasterizer gives is the number of pixels it wrote.  A
triangle of zero or non-finite signed area writes nothing.

* `foldl_row_snd`, `foldl_rows_snd`, `drawTriangle_snd` : the count of the pixel loops is the
  number of writes.
* `rectWrites_pixels_nodup`, `triangleWrites_pixels_nodup` : no pixel is written twice.
* `Raster.ClippedDraw` : what a rasterization of one triangle keeps to;
  `drawTriangle_clipped` : **every rasterization keeps to it**.
-/

namespace TegraGpu

open Surface

namespace Raster

/-! ### The count of the pixel loops -/

/-- One row of the pixel loop counts one for each pixel it writes. -/
theorem foldl_row_snd (xs : List Nat) (y : Nat) (c : Nat → Nat → Bool) (val : Nat → Nat → UInt32)
    (pos : Nat → Nat → Nat) (st : ByteArray → Nat → UInt32 → ByteArray) (b : ByteArray × Nat) :
    (xs.foldl (fun b x => if c x y = true then (st b.1 (pos x y) (val x y), b.2 + 1)
        else (b.1, b.2)) b).2 =
      b.2 + (xs.filterMap fun x => if c x y = true then some (x, y, val x y) else none).length := by
  induction xs generalizing b with
  | nil => rfl
  | cons x xs ih =>
    by_cases hc : c x y = true
    · simp only [List.foldl_cons, hc, if_true, ih, List.filterMap_cons, List.length_cons]
      omega
    · simp [hc, ih]

/-- The two nested pixel loops count one for each pixel of all rows they write. -/
theorem foldl_rows_snd (xs ys : List Nat) (c : Nat → Nat → Bool) (val : Nat → Nat → UInt32)
    (pos : Nat → Nat → Nat) (st : ByteArray → Nat → UInt32 → ByteArray) (d : ByteArray) (n : Nat) :
    (ys.foldl (fun b y =>
        ((xs.foldl (fun b x => if c x y = true then (st b.1 (pos x y) (val x y), b.2 + 1)
            else (b.1, b.2)) (b.1, b.2)).1,
         (xs.foldl (fun b x => if c x y = true then (st b.1 (pos x y) (val x y), b.2 + 1)
            else (b.1, b.2)) (b.1, b.2)).2)) (d, n)).2 =
      n + (ys.flatMap fun y => xs.filterMap fun x =>
          if c x y = true then some (x, y, val x y) else none).length := by
  induction ys generalizing d n with
  | nil => rfl
  | cons y ys ih =>
    rw [List.foldl_cons, ih, List.flatMap_cons, List.length_append, foldl_row_snd]
    omega

/-- **The count of a rasterization** is the number of its writes. -/
theorem drawTriangle_snd (clip : Clip) (s : Surface) (base : Nat) (data : ByteArray)
    (v0 v1 v2 : Vertex) :
    (drawTriangle clip s base data v0 v1 v2).2.1 =
      (triangleWrites clip s.width s.height s.format v0 v1 v2).length := by
  unfold drawTriangle triangleWrites
  dsimp only
  split
  · rfl
  · -- the triangle turned to positive area, whose corners the loops read
    generalize (if edge v0 v1 v2.x v2.y < zero32 then (v2, v1, -edge v0 v1 v2.x v2.y)
      else (v1, v2, edge v0 v1 v2.x v2.y)) = t
    obtain ⟨u1, u2, area⟩ := t
    dsimp only
    -- both sides visit the rectangle that `bounds` gives, when it gives one
    rcases bounds clip s.width s.height v0 u1 u2 with _ | ⟨x0, y0, x1, y1⟩
    · rfl
    · dsimp only
      simp only [Std.Legacy.Range.forIn_eq_forIn_range', ite_pure_yield,
        List.forIn_pure_yield_eq_foldl, pure_bind]
      rw [foldl_rows_snd _ _ _ _ _ s.format.store, Nat.zero_add]
      unfold rectWrites shade
      simp only [Std.Legacy.Range.size, Nat.add_sub_cancel, Nat.div_one,
        apply_ite (Option.map _), Option.map_some, Option.map_none]
      rfl

/-! ### No pixel twice -/

/-- The pixel of a write. -/
def pixelOf (w : Nat × Nat × UInt32) : Nat × Nat := (w.1, w.2.1)

/-- The writes over a rectangle are at distinct pixels: rows are visited once each, and in a row
each column once. -/
theorem rectWrites_pixels_nodup (f : Format) (v0 v1 v2 : Vertex) (area : Float32)
    (x0 y0 x1 y1 : Nat) : ((rectWrites f v0 v1 v2 area x0 y0 x1 y1).map pixelOf).Nodup := by
  unfold rectWrites
  rw [List.map_flatMap]
  refine List.nodup_flatMap.2 ⟨fun y _ => ?_, ?_⟩
  · -- in a row, the columns are distinct
    rw [List.map_filterMap]
    refine List.Nodup.filterMap ?_ (List.nodup_range' _)
    intro x x' p hp hp'
    simp only [Option.map_map, Option.mem_def, Option.map_eq_some_iff, Function.comp_apply,
      pixelOf] at hp hp'
    obtain ⟨_, -, rfl⟩ := hp
    obtain ⟨_, -, hxy⟩ := hp'
    exact (Prod.mk.inj hxy).1.symm
  · -- two rows write at pixels of their own rows
    refine (List.nodup_range' _).pairwise_of_forall_ne fun y _ y' _ hne p hp hp' => hne ?_
    simp only [List.mem_map, List.mem_filterMap, Option.map_eq_some_iff] at hp hp'
    obtain ⟨_, ⟨x, -, _, -, rfl⟩, rfl⟩ := hp
    obtain ⟨_, ⟨x', -, _, -, rfl⟩, hxy⟩ := hp'
    exact (Prod.mk.inj hxy).2.symm

/-- **A triangle writes each pixel at most once.** -/
theorem triangleWrites_pixels_nodup (clip : Clip) (width height : Nat) (f : Format)
    (v0 v1 v2 : Vertex) : ((triangleWrites clip width height f v0 v1 v2).map pixelOf).Nodup := by
  unfold triangleWrites
  dsimp only
  split
  · exact List.nodup_nil
  · generalize (if edge v0 v1 v2.x v2.y < zero32 then (v2, v1, -edge v0 v1 v2.x v2.y)
      else (v1, v2, edge v0 v1 v2.x v2.y)) = t
    obtain ⟨u1, u2, area⟩ := t
    split
    · exact List.nodup_nil
    · exact rectWrites_pixels_nodup _ _ _ _ _ _ _ _ _

/-- Distinct pixels of a surface are at most as many as the surface has. -/
theorem length_le_of_pixels_nodup {ws : List (Nat × Nat × UInt32)} {width height : Nat}
    (hnd : (ws.map pixelOf).Nodup) (hin : ∀ w ∈ ws, w.1 < width ∧ w.2.1 < height) :
    ws.length ≤ width * height := by
  have hsub : (ws.map pixelOf).toFinset ⊆ Finset.range width ×ˢ Finset.range height := by
    intro p hp
    obtain ⟨w, hw, rfl⟩ := List.mem_map.1 (List.mem_toFinset.1 hp)
    simpa [pixelOf] using hin w hw
  calc ws.length = (ws.map pixelOf).toFinset.card := by
        rw [List.toFinset_card_of_nodup hnd, List.length_map]
    _ ≤ (Finset.range width ×ˢ Finset.range height).card := Finset.card_le_card hsub
    _ = width * height := by simp

/-! ### What a rasterization keeps to -/

/-- What rasterizing a triangle into the bytes `data` of a surface, whose pixels start at `base`,
keeps to.  The writes are those of `triangleWrites`, which the rasterizer stores in order. -/
structure ClippedDraw (clip : Clip) (s : Surface) (base : Nat) (data : ByteArray)
    (v0 v1 v2 : Vertex) : Prop where
  /-- The bytes are the writes stored in order. -/
  stores : (drawTriangle clip s base data v0 v1 v2).1 =
    s.storePixels base data (triangleWrites clip s.width s.height s.format v0 v1 v2)
  /-- A byte changed is a byte of a pixel written. -/
  footprint : ∀ p, (drawTriangle clip s base data v0 v1 v2).1[p]? ≠ data[p]? →
    ∃ w ∈ triangleWrites clip s.width s.height s.format v0 v1 v2,
      base + s.pixelOffset w.1 w.2.1 ≤ p ∧ p < base + s.pixelOffset w.1 w.2.1 + s.format.bytesPerPixel
  /-- A pixel written lies in the clip rectangle cut to the surface, and its bytes in the
  buffer. -/
  inside : ∀ w ∈ triangleWrites clip s.width s.height s.format v0 v1 v2,
    max clip.left 0 ≤ (w.1 : Int) ∧ (w.1 : Int) ≤ min clip.right ((s.width : Int) - 1) ∧
    max clip.top 0 ≤ (w.2.1 : Int) ∧ (w.2.1 : Int) ≤ min clip.bottom ((s.height : Int) - 1) ∧
    s.pixelOffset w.1 w.2.1 + s.format.bytesPerPixel ≤ s.view.size
  /-- No pixel is written twice. -/
  once : ((triangleWrites clip s.width s.height s.format v0 v1 v2).map pixelOf).Nodup
  /-- The count is the number of pixels written, at most the pixels of the surface. -/
  count : (drawTriangle clip s base data v0 v1 v2).2.1 =
      (triangleWrites clip s.width s.height s.format v0 v1 v2).length ∧
    (triangleWrites clip s.width s.height s.format v0 v1 v2).length ≤ s.width * s.height
  /-- A triangle of zero or non-finite signed area writes nothing. -/
  degenerate : (edge v0 v1 v2.x v2.y == zero32 || !(edge v0 v1 v2.x v2.y).isFinite) = true →
    triangleWrites clip s.width s.height s.format v0 v1 v2 = []

/-- **The rasterizer stays inside the clip rectangle and the surface.**  For every clip rectangle,
every surface laid out as made, every start of its bytes and every triangle, whatever its
coordinates and colours, the rasterization writes only pixels of the clip rectangle cut to the
surface, whose bytes lie inside the buffer, each at most once, and counts exactly the pixels it
wrote; a triangle of zero or non-finite signed area writes nothing. -/
theorem drawTriangle_clipped (clip : Clip) {s : Surface} (hs : s.Laid) (base : Nat)
    (data : ByteArray) (v0 v1 v2 : Vertex) : ClippedDraw clip s base data v0 v1 v2 := by
  have hstores := drawTriangle_fst clip s base data v0 v1 v2
  -- each write is admitted by the clip rectangle and the surface
  have hclip : ∀ w ∈ triangleWrites clip s.width s.height s.format v0 v1 v2,
      clip.Admits s.width s.height w.1 w.2.1 := fun w hw => mem_triangleWrites hw
  refine ⟨hstores, fun p hp => ?_, fun w hw => ?_, triangleWrites_pixels_nodup _ _ _ _ _ _ _,
    ⟨drawTriangle_snd _ _ _ _ _ _ _, ?_⟩, fun hdeg => ?_⟩
  · rw [hstores] at hp
    exact Surface.footprint_of_storePixels s base hp
  · obtain ⟨hl, hr, ht, hb, hx, hy⟩ := hclip w hw
    exact ⟨max_le hl (Int.natCast_nonneg _), le_min hr (by omega), max_le ht (Int.natCast_nonneg _),
      le_min hb (by omega), hs.pixel_fits hx hy⟩
  · exact length_le_of_pixels_nodup (triangleWrites_pixels_nodup _ _ _ _ _ _ _)
      fun w hw => ⟨(hclip w hw).2.2.2.2.1, (hclip w hw).2.2.2.2.2⟩
  · unfold triangleWrites
    simp only [hdeg, if_true]

set_option maxRecDepth 8000 in
/-- A triangle over the whole of a 4×4 surface, clipped to the rectangle from `(1, 1)` to
`(2, 2)`: the rasterization writes the four pixels of the rectangle and keeps to it. -/
theorem drawTriangle_clipped_cut :
    let s : Surface := ⟨4, 4, .rgba8888, .linear, 16, ⟨0, ⟨1⟩, 0, 64, { renderTarget := true }⟩⟩
    let eight : Float32 := Float32.ofBits 0x41000000
    let c := (one32, one32, one32, one32)
    s.Laid ∧
      (triangleWrites ⟨1, 1, 2, 2⟩ 4 4 .rgba8888 ⟨zero32, zero32, c⟩ ⟨eight, zero32, c⟩
          ⟨zero32, eight, c⟩).map pixelOf = [(1, 1), (2, 1), (1, 2), (2, 2)] ∧
      ClippedDraw ⟨1, 1, 2, 2⟩ s 0 (Host.zeros 64) ⟨zero32, zero32, c⟩ ⟨eight, zero32, c⟩
        ⟨zero32, eight, c⟩ :=
  have hs : Surface.Laid ⟨4, 4, .rgba8888, .linear, 16, ⟨0, ⟨1⟩, 0, 64, { renderTarget := true }⟩⟩ := by
    unfold Surface.Laid
    decide
  ⟨hs, by decide +kernel, drawTriangle_clipped ⟨1, 1, 2, 2⟩ hs 0 (Host.zeros 64) _ _ _⟩

end Raster

end TegraGpu
