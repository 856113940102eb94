import Mathlib
import TegraGpu.Raster.Engine
/-!
# The pixels a triangle writes

Rasterizing a triangle visits the rectangle of pixels that `bounds` gives, row by row, and at
each pixel whose centre the triangle covers stores the colour there.  Which pixels are written,
and with what raw values, depends on the clip rectangle, the surface's width, height and format
and the corners only; the layout enters only where a pixel's bytes lie.  This module writes the
rasterizer's loops as that list of writes stored through the layout.

* `shade` : the raw pixel a triangle turned to positive area gives a pixel, if it covers it.
* `rectWrites`, `triangleWrites` : the writes of a triangle, in the order they happen.
* `Surface.storePixels` : writes stored into the bytes of a surface.
* `drawTriangle_fst`, `rasterizeEach_fst` : the rasterizer stores exactly these writes.
* `Clip.Admits`, `mem_triangleWrites` : every write lies in the clip rectangle and the surface.
-/

namespace TegraGpu

open Surface

namespace Surface

/-- Stores pixel writes `(x, y, raw)`, in order, into the bytes of a surface whose pixels start
at `base`. -/
def storePixels (s : Surface) (base : Nat) (data : ByteArray)
    (ws : List (Nat × Nat × UInt32)) : ByteArray :=
  ws.foldl (fun d w => s.format.store d (base + s.pixelOffset w.1 w.2.1) w.2.2) data

theorem storePixels_append (s : Surface) (base : Nat) (data : ByteArray)
    (ws ws' : List (Nat × Nat × UInt32)) :
    s.storePixels base data (ws ++ ws') = s.storePixels base (s.storePixels base data ws) ws' := by
  simp only [Surface.storePixels, List.foldl_append]

end Surface

namespace Raster

/-- The raw pixel that a triangle of positive area `area`, its corners in that sense, gives the
pixel `(x, y)`: none when the triangle does not cover the pixel's centre, and else the colour
interpolated there, packed in the format. -/
def shade (f : Format) (v0 v1 v2 : Vertex) (area : Float32) (x y : Nat) : Option UInt32 :=
  let py := y.toUInt32.toFloat32 + half32
  let px := x.toUInt32.toFloat32 + half32
  let w0 := edge v1 v2 px py
  let w1 := edge v2 v0 px py
  let w2 := edge v0 v1 px py
  if covers w0 (isTopLeft v1 v2) && covers w1 (isTopLeft v2 v0) && covers w2 (isTopLeft v0 v1)
  then
    let (r, g, b, a) := blend (w0 / area) (w1 / area) (w2 / area) v0.color v1.color v2.color
    some (f.pack r g b a)
  else none

/-- The writes of a triangle of positive area over the rectangle `[x0, x1] × [y0, y1]`, row by
row. -/
def rectWrites (f : Format) (v0 v1 v2 : Vertex) (area : Float32) (x0 y0 x1 y1 : Nat) :
    List (Nat × Nat × UInt32) :=
  (List.range' y0 (y1 + 1 - y0)).flatMap fun y =>
    (List.range' x0 (x1 + 1 - x0)).filterMap fun x =>
      (shade f v0 v1 v2 area x y).map fun raw => (x, y, raw)

/-- The writes of a triangle on a surface of the given width, height and format: none for a
triangle of zero or non-finite area, and else those of the triangle turned to positive area over
the rectangle it visits. -/
def triangleWrites (clip : Clip) (width height : Nat) (f : Format) (v0 v1 v2 : Vertex) :
    List (Nat × Nat × UInt32) :=
  let area := edge v0 v1 v2.x v2.y
  if area == zero32 || !area.isFinite then []
  else
    let (v1, v2, area) := if area < zero32 then (v2, v1, -area) else (v1, v2, area)
    match bounds clip width height v0 v1 v2 with
    | none => []
    | some (x0, y0, x1, y1) => rectWrites f v0 v1 v2 area x0 y0 x1 y1

/-- The writes of a list of triangles, one after the other. -/
def trianglesWrites (clip : Clip) (width height : Nat) (f : Format)
    (tris : List (Vertex × Vertex × Vertex)) : List (Nat × Nat × UInt32) :=
  tris.flatMap fun t => triangleWrites clip width height f t.1 t.2.1 t.2.2

/-! ### The loops of the rasterizer -/

theorem ite_pure_yield {β : Type} (c : Prop) [Decidable c] (a b : β) :
    (if c then (pure (ForInStep.yield a) : Id (ForInStep β)) else pure (ForInStep.yield b)) =
      pure (ForInStep.yield (if c then a else b)) := by
  split <;> rfl

/-- One row of the pixel loop, counting its writes beside the bytes: the bytes are those of the
row's writes stored in order. -/
theorem foldl_row_fst (xs : List Nat) (y : Nat) (c : Nat → Nat → Bool) (val : Nat → Nat → UInt32)
    (pos : Nat → Nat → Nat) (st : ByteArray → Nat → UInt32 → ByteArray) (b : ByteArray × Nat) :
    (xs.foldl (fun b x => if c x y = true then (st b.1 (pos x y) (val x y), b.2 + 1)
        else (b.1, b.2)) b).1 =
      (xs.filterMap fun x => if c x y = true then some (x, y, val x y) else none).foldl
        (fun d w => st d (pos w.1 w.2.1) w.2.2) b.1 := by
  induction xs generalizing b with
  | nil => rfl
  | cons x xs ih => by_cases hc : c x y = true <;> simp [hc, ih]

/-- The two nested pixel loops: the bytes are those of the writes of all rows stored in order. -/
theorem foldl_rows_fst (xs ys : List Nat) (c : Nat → Nat → Bool) (val : Nat → Nat → UInt32)
    (pos : Nat → Nat → Nat) (st : ByteArray → Nat → UInt32 → ByteArray) (d : ByteArray) (n : Nat) :
    (ys.foldl (fun b y =>
        ((xs.foldl (fun b x => if c x y = true then (st b.1 (pos x y) (val x y), b.2 + 1)
            else (b.1, b.2)) (b.1, b.2)).1,
         (xs.foldl (fun b x => if c x y = true then (st b.1 (pos x y) (val x y), b.2 + 1)
            else (b.1, b.2)) (b.1, b.2)).2)) (d, n)).1 =
      (ys.flatMap fun y => xs.filterMap fun x =>
          if c x y = true then some (x, y, val x y) else none).foldl
        (fun d w => st d (pos w.1 w.2.1) w.2.2) d := by
  induction ys generalizing d n with
  | nil => rfl
  | cons y ys ih => rw [List.foldl_cons, ih, List.flatMap_cons, List.foldl_append, foldl_row_fst]

/-- **The rasterizer stores the writes of the triangle.**  The bytes that rasterizing a triangle
leaves are its writes stored into the surface's bytes in order. -/
theorem drawTriangle_fst (clip : Clip) (s : Surface) (base : Nat) (data : ByteArray)
    (v0 v1 v2 : Vertex) :
    (drawTriangle clip s base data v0 v1 v2).1 =
      s.storePixels base data (triangleWrites clip s.width s.height s.format v0 v1 v2) := by
  unfold drawTriangle triangleWrites
  dsimp only
  split
  · rfl
  · -- the triangle turned to positive area, whose corners the loops read
    generalize (if edge v0 v1 v2.x v2.y < zero32 then (v2, v1, -edge v0 v1 v2.x v2.y)
      else (v1, v2, edge v0 v1 v2.x v2.y)) = t
    obtain ⟨u1, u2, area⟩ := t
    dsimp only
    -- both sides visit the rectangle that `bounds` gives, when it gives one
    rcases bounds clip s.width s.height v0 u1 u2 with _ | ⟨x0, y0, x1, y1⟩
    · rfl
    · dsimp only
      simp only [Std.Legacy.Range.forIn_eq_forIn_range', ite_pure_yield,
        List.forIn_pure_yield_eq_foldl, pure_bind]
      rw [foldl_rows_fst _ _ _ _ _ s.format.store]
      unfold Surface.storePixels rectWrites shade
      simp only [Std.Legacy.Range.size, Nat.add_sub_cancel, Nat.div_one,
        apply_ite (Option.map _), Option.map_some, Option.map_none]
      rfl

/-- Rasterizing triangles one after the other stores their writes one after the other. -/
theorem rasterizeEach_fst (clip : Clip) (s : Surface) (base : Nat)
    (tris : List (Vertex × Vertex × Vertex)) (data : ByteArray) :
    (Engine.rasterizeEach clip s base tris data).1 =
      s.storePixels base data (trianglesWrites clip s.width s.height s.format tris) := by
  unfold Engine.rasterizeEach trianglesWrites
  -- the counts and records that the fold carries beside the bytes do not reach them
  generalize (#[] : Array Nat) = ns
  generalize (#[] : Array Record) = rs
  induction tris generalizing data ns rs with
  | nil => rfl
  | cons t tris ih =>
    obtain ⟨v0, v1, v2⟩ := t
    rw [List.foldl_cons, List.flatMap_cons, Surface.storePixels_append, ← drawTriangle_fst]
    exact ih _ _ _

/-! ### Where the writes lie -/

/-- The pixel `(x, y)` lies in the clip rectangle, ends included, and in a surface of the given
width and height. -/
def Clip.Admits (clip : Clip) (width height x y : Nat) : Prop :=
  clip.left ≤ x ∧ (x : Int) ≤ clip.right ∧ clip.top ≤ y ∧ (y : Int) ≤ clip.bottom ∧
    x < width ∧ y < height

/-- The rectangle a triangle visits lies in the clip rectangle and the surface, whatever the
corners' box. -/
theorem bounds_admits {clip : Clip} {width height : Nat} {v0 v1 v2 : Vertex}
    {x0 y0 x1 y1 : Nat} (hb : bounds clip width height v0 v1 v2 = some (x0, y0, x1, y1))
    {x y : Nat} (hx : x0 ≤ x ∧ x ≤ x1) (hy : y0 ≤ y ∧ y ≤ y1) : clip.Admits width height x y := by
  unfold bounds at hb
  extract_lets minX maxX minY maxY a0 b0 a1 b1 at hb
  split at hb
  · cases hb
  · next hne =>
    simp only [Option.some.injEq, Prod.mk.injEq] at hb
    obtain ⟨rfl, rfl, rfl, rfl⟩ := hb
    simp only [not_or, not_lt] at hne
    -- each end of the rectangle is cut to the clip rectangle and the surface, whatever the box
    have hl : clip.left ≤ a0 := le_max_of_le_left (le_max_right _ _)
    have hl0 : 0 ≤ a0 := le_max_right _ _
    have hr : a1 ≤ clip.right := min_le_of_left_le (min_le_right _ _)
    have hw : a1 ≤ (width : Int) - 1 := min_le_right _ _
    have ht : clip.top ≤ b0 := le_max_of_le_left (le_max_right _ _)
    have ht0 : 0 ≤ b0 := le_max_right _ _
    have hbot : b1 ≤ clip.bottom := min_le_of_left_le (min_le_right _ _)
    have hh : b1 ≤ (height : Int) - 1 := min_le_right _ _
    clear_value minX maxX minY maxY a0 b0 a1 b1
    unfold Clip.Admits
    omega

theorem mem_rectWrites {f : Format} {v0 v1 v2 : Vertex} {area : Float32} {x0 y0 x1 y1 : Nat}
    {w : Nat × Nat × UInt32} (hw : w ∈ rectWrites f v0 v1 v2 area x0 y0 x1 y1) :
    (x0 ≤ w.1 ∧ w.1 ≤ x1) ∧ (y0 ≤ w.2.1 ∧ w.2.1 ≤ y1) := by
  unfold rectWrites at hw
  simp only [List.mem_flatMap, List.mem_range'_1, List.mem_filterMap, Option.map_eq_some_iff] at hw
  obtain ⟨y, hy, x, hx, raw, -, rfl⟩ := hw
  dsimp only
  omega

/-- **Every write of a triangle lies in the clip rectangle and the surface.** -/
theorem mem_triangleWrites {clip : Clip} {width height : Nat} {f : Format} {v0 v1 v2 : Vertex}
    {w : Nat × Nat × UInt32} (hw : w ∈ triangleWrites clip width height f v0 v1 v2) :
    clip.Admits width height w.1 w.2.1 := by
  unfold triangleWrites at hw
  dsimp only at hw
  split at hw
  · cases hw
  · generalize (if edge v0 v1 v2.x v2.y < zero32 then (v2, v1, -edge v0 v1 v2.x v2.y)
      else (v1, v2, edge v0 v1 v2.x v2.y)) = t at hw
    obtain ⟨u1, u2, area⟩ := t
    split at hw
    · cases hw
    · next hb =>
      obtain ⟨hx, hy⟩ := mem_rectWrites hw
      exact bounds_admits hb hx hy

theorem mem_trianglesWrites {clip : Clip} {width height : Nat} {f : Format}
    {tris : List (Vertex × Vertex × Vertex)} {w : Nat × Nat × UInt32}
    (hw : w ∈ trianglesWrites clip width height f tris) : clip.Admits width height w.1 w.2.1 := by
  obtain ⟨t, -, hwt⟩ := List.mem_flatMap.1 hw
  exact mem_triangleWrites hwt

end Raster

end TegraGpu
