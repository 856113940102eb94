import Mathlib
import TegraGpu.Proofs.Coverage
import TegraGpu.Proofs.SingleSign
/-!
# The sense of a triangle's corners does not matter

The rasterizer turns a triangle to positive signed area before it visits any pixel.  Listing the
last two corners the other way round swaps the two products of the signed area, so that the area
becomes the same difference taken the other way; in single precision that is exactly its
negation (or a zero again), whatever the coordinates, NaN, infinities and signed zeros included.
Both listings are then turned to the same corners in the same order with the same area, so they
write the same pixels with the same raw values, in the same order, and give the same count and
the same record.

* `edge_swap_corners` : the swapped area is the same difference taken the other way.
* `degenerate_swap` : a triangle is skipped for its area exactly when the swapped one is.
* `degenerate_swap_corners`, `turned_swap_corners` : both listings are skipped together, and
  otherwise turned to the same corners and area.
* `drawTriangle_winding` : **the rasterization does not depend on the corners' sense.**
-/

namespace TegraGpu.Raster

open Surface Binary32
open Float.Model (UnpackedFloat)

/-! ### Comparisons with zero -/

theorem unpack_zero32 : zero32.toModel.unpack = .zero .positive := rfl

theorem beq_zero32 (x : Float32) :
    (x == zero32) = x.toModel.unpack.beq (.zero .positive) := by
  show x.toModel.unpack.beq zero32.toModel.unpack = _
  rw [unpack_zero32]

theorem lt_zero32_iff (x : Float32) :
    x < zero32 ↔ x.toModel.unpack.lt (.zero .positive) = true := by
  show Float32.lt x zero32 = true ↔ _
  unfold Float32.lt
  rw [decide_eq_true_iff, ← unpack_zero32]
  rfl

theorem isFinite_single (x : Float32) : x.isFinite = x.toModel.unpack.isFinite := rfl

/-- A number that is neither a zero nor infinite nor NaN unpacks to a finite nonzero value. -/
theorem finite_of_not_degenerate {d : Float32} (hd : (d == zero32 || !d.isFinite) = false) :
    ∃ s m e h, d.toModel.unpack = .finite s m e h := by
  rw [beq_zero32, isFinite_single] at hd
  cases hu : d.toModel.unpack with
  | notANumber => rw [hu] at hd; cases hd
  | infinity s => rw [hu] at hd; cases s <;> cases hd
  | zero s => rw [hu] at hd; cases hd
  | finite s m e h => exact ⟨s, m, e, h, rfl⟩

/-- Negation keeps a number a zero, finite or not. -/
theorem degenerate_neg (d : Float32) :
    ((-d) == zero32 || !(-d).isFinite) = (d == zero32 || !d.isFinite) := by
  rw [beq_zero32, beq_zero32, isFinite_single, isFinite_single, unpack_neg_single]
  cases d.toModel.unpack with
  | notANumber => rfl
  | infinity s => cases s <;> rfl
  | zero s => cases s <;> rfl
  | finite s m e h => cases s <;> rfl

theorem degenerate_of_isZero {d : Float32} (hd : IsZero d.toModel.unpack) :
    (d == zero32 || !d.isFinite) = true := by
  obtain ⟨s, hs⟩ := hd
  rw [beq_zero32, hs]
  cases s <;> rfl

/-! ### The swapped corners -/

/-- Listing the last two corners the other way round gives the signed area as the same
difference of products taken the other way. -/
theorem edge_swap_corners (v0 v1 v2 : Vertex) :
    edge v0 v2 v1.x v1.y =
      (v1.y - v0.y) * (v2.x - v0.x) - (v1.x - v0.x) * (v2.y - v0.y) := by
  unfold edge
  rw [mul_comm_single (v2.x - v0.x), mul_comm_single (v2.y - v0.y)]

/-- A difference is skipped as a degenerate area exactly when the swapped difference is. -/
theorem degenerate_swap (a b : Float32) :
    ((b - a) == zero32 || !(b - a).isFinite) = ((a - b) == zero32 || !(a - b).isFinite) := by
  rcases sub_swap_single a b with h | ⟨h0, h1⟩
  · rw [h, degenerate_neg]
  · rw [degenerate_of_isZero h0, degenerate_of_isZero h1]

/-- A nonzero finite area and its negation turn the two listings of the corners to the same
corners, in the same order, with the same area. -/
theorem turned_swap (v1 v2 : Vertex) {d : Float32} (hd : (d == zero32 || !d.isFinite) = false) :
    (if -d < zero32 then (v1, v2, -(-d)) else (v2, v1, -d)) =
      (if d < zero32 then (v2, v1, -d) else (v1, v2, d)) := by
  obtain ⟨s, m, e, h, hu⟩ := finite_of_not_degenerate hd
  have hneg : (-d).toModel.unpack = .finite (-s) m e h := by rw [unpack_neg_single, hu]; rfl
  cases s with
  | negative =>
    -- a negative area is turned; its negation is positive and kept
    have hlt : d < zero32 := by rw [lt_zero32_iff, hu]; rfl
    have hnlt : ¬ -d < zero32 := by rw [lt_zero32_iff, hneg]; exact Bool.false_ne_true
    rw [if_neg hnlt, if_pos hlt]
  | positive =>
    have hlt : ¬ d < zero32 := by rw [lt_zero32_iff, hu]; exact Bool.false_ne_true
    have hnlt : -d < zero32 := by rw [lt_zero32_iff, hneg]; rfl
    rw [if_pos hnlt, if_neg hlt, neg_neg_single]

/-- The swapped listing of the corners is skipped for its area exactly when the original is. -/
theorem degenerate_swap_corners (v0 v1 v2 : Vertex) :
    (edge v0 v2 v1.x v1.y == zero32 || !(edge v0 v2 v1.x v1.y).isFinite) =
      (edge v0 v1 v2.x v2.y == zero32 || !(edge v0 v1 v2.x v2.y).isFinite) := by
  rw [edge_swap_corners]
  exact degenerate_swap _ _

/-- Both listings of the corners of a triangle that is not skipped are turned to the same
corners with the same area. -/
theorem turned_swap_corners (v0 v1 v2 : Vertex)
    (hd : (edge v0 v1 v2.x v2.y == zero32 || !(edge v0 v1 v2.x v2.y).isFinite) = false) :
    (if edge v0 v2 v1.x v1.y < zero32 then (v1, v2, -edge v0 v2 v1.x v1.y)
      else (v2, v1, edge v0 v2 v1.x v1.y)) =
    (if edge v0 v1 v2.x v2.y < zero32 then (v2, v1, -edge v0 v1 v2.x v2.y)
      else (v1, v2, edge v0 v1 v2.x v2.y)) := by
  rw [edge_swap_corners]
  rcases sub_swap_single ((v1.x - v0.x) * (v2.y - v0.y)) ((v1.y - v0.y) * (v2.x - v0.x))
    with h | ⟨h0, -⟩
  · rw [h]
    exact turned_swap v1 v2 hd
  · exact absurd (degenerate_of_isZero h0) (ne_true_of_eq_false hd)

/-! ### The rasterization -/

/-- **The rasterization does not depend on the sense of the corners.**  For every clip rectangle,
every surface and its bytes and every triangle, whatever its coordinates and colours, listing the
last two corners the other way round writes the same pixels with the same raw values in the same
order, and leaves the same bytes, count and record. -/
theorem drawTriangle_winding (clip : Clip) (s : Surface) (base : Nat) (data : ByteArray)
    (v0 v1 v2 : Vertex) :
    triangleWrites clip s.width s.height s.format v0 v2 v1 =
        triangleWrites clip s.width s.height s.format v0 v1 v2 ∧
      drawTriangle clip s base data v0 v2 v1 = drawTriangle clip s base data v0 v1 v2 := by
  constructor
  · unfold triangleWrites
    dsimp only
    rw [degenerate_swap_corners]
    split
    · rfl
    · next hd => rw [turned_swap_corners v0 v1 v2 (Bool.eq_false_iff.2 hd)]
  · unfold drawTriangle
    dsimp only
    rw [degenerate_swap_corners]
    split
    · rfl
    · next hd => rw [turned_swap_corners v0 v1 v2 (Bool.eq_false_iff.2 hd)]

end TegraGpu.Raster
