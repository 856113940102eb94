import Mathlib
import TegraGpu.Proofs.Coverage
import TegraGpu.Proofs.SingleExact
import TegraGpu.Proofs.Nudge
/-!
# The top-left rule

For a triangle whose corners lie on the integer grid within `[-512, 512]`, every number the
rasterizer computes for coverage is a whole or half number well below `2 ^ 23`: the corners'
box, the pixel centres it visits, the differences, products and edge functions.  Single
precision holds all of them exactly, so each coverage test is the test on the exact edge
function, and the top-left rule is the sign of the edge function at the centre moved right by
a tiny `e` and down by a tinier `e ^ 2`.  A triangle writes a pixel of the clip rectangle and
the surface exactly when that moved centre lies in the open triangle for all small `e > 0`;
so triangles whose interiors do not meet never write one pixel twice, and they cover the
interior of their union without gaps.

* `Vertex.OnGrid`, `Vertex.point`, `triangle`, `Writes` : corners on the grid, the closed
  triangle of three corners, and the pixels a triangle writes.
* `valueOf_edge`, `covers_edge_iff` : an edge function and its coverage test are exact.
* `bounds_grid`, `visits_iff_of_bounds` : a triangle of positive area writes the pixels whose
  moved centres lie in its interior.
* `triangleWrites_topLeft` : **the top-left rule, and the partition of the pixels among
  triangles with disjoint interiors.**
-/

namespace TegraGpu.Raster

open Surface Binary32 Filter Topology Set
open Float.Model (UnpackedFloat)

/-- A corner on the integer grid: its coordinates are whole numbers from `-512` to `512`. -/
def Vertex.OnGrid (v : Vertex) : Prop :=
  ∃ X Y : ℤ, valueOf v.x = some (X : ℚ) ∧ valueOf v.y = some (Y : ℚ) ∧
    -512 ≤ X ∧ X ≤ 512 ∧ -512 ≤ Y ∧ Y ≤ 512

/-- The point of the plane a corner stands at; the origin stands in for an infinite or NaN
coordinate. -/
noncomputable def Vertex.point (v : Vertex) : ℝ × ℝ :=
  ((((valueOf v.x).getD 0 : ℚ) : ℝ), (((valueOf v.y).getD 0 : ℚ) : ℝ))

/-- The closed triangle of three corners. -/
noncomputable def triangle (v0 v1 v2 : Vertex) : Set (ℝ × ℝ) :=
  convexHull ℝ {v0.point, v1.point, v2.point}

/-- The triangle writes the pixel `(x, y)` of a surface of the given width, height and
format. -/
def Writes (clip : Clip) (width height : Nat) (f : Format) (v0 v1 v2 : Vertex) (x y : Nat) :
    Prop :=
  ∃ raw, (x, y, raw) ∈ triangleWrites clip width height f v0 v1 v2

/-- A black corner at the whole point `(x, y)`. -/
def gridCorner (x y : Nat) : Vertex :=
  ⟨x.toUInt32.toFloat32, y.toUInt32.toFloat32, (zero32, zero32, zero32, zero32)⟩

theorem point_eq {v : Vertex} {X Y : ℤ} (hx : valueOf v.x = some (X : ℚ))
    (hy : valueOf v.y = some (Y : ℚ)) : v.point = ((X : ℝ), (Y : ℝ)) := by
  simp only [Vertex.point, hx, hy, Option.getD_some, Rat.cast_intCast]

/-! ### The numbers of the coverage test -/

theorem valueOf_zero32 : valueOf zero32 = some 0 := by
  rw [valueOf_eq_unpacked]
  rfl

theorem valueOf_half32 : valueOf half32 = some (1 / 2) := by
  rw [valueOf_eq_unpacked]
  show unpackedValue (.finite .positive (2 ^ 23) (-24) (by norm_num)) = _
  simp only [unpackedValue, Float.Model.UnpackedFloat.Sign.apply]
  norm_num

theorem representable_of_half {p : ℚ} (k : ℤ) (hp : p = k / 2) (hk : k.natAbs < 2 ^ 24) :
    Representable p :=
  hp ▸ representable_half k hk

theorem natAbs_mul_le {a b : ℤ} {m n : ℕ} (ha : a.natAbs ≤ m) (hb : b.natAbs ≤ n) :
    (a * b).natAbs ≤ m * n := by
  rw [Int.natAbs_mul]
  exact Nat.mul_le_mul ha hb

theorem valueOf_natCast {n : ℕ} (h : n ≤ 512) :
    valueOf n.toUInt32.toFloat32 = some ((n : ℤ) : ℚ) := by
  have hs : n.toUInt32.toNat = n := UInt32.toNat_ofNat_of_lt' (lt_of_le_of_lt h (by decide))
  rw [valueOf_toFloat32 _ (by omega), hs, Int.cast_natCast]

theorem gridCorner_onGrid {x y : ℕ} (hx : x ≤ 512) (hy : y ≤ 512) : (gridCorner x y).OnGrid :=
  ⟨x, y, valueOf_natCast hx, valueOf_natCast hy, by omega, by omega, by omega, by omega⟩

/-- The centre of a pixel is exact. -/
theorem valueOf_pixel {n : ℕ} (h : n ≤ 512) :
    valueOf (n.toUInt32.toFloat32 + half32) = some (((2 * n + 1 : ℤ) : ℚ) / 2) := by
  rw [valueOf_add (valueOf_natCast h) valueOf_half32
    (representable_of_half (2 * n + 1) (by push_cast; ring) (by omega))]
  congr 1
  push_cast
  ring

/-- **An edge function of corners on the grid is exact** at every point of half-integer
coordinates up to `1025 / 2`. -/
theorem valueOf_edge {a b : Vertex} {px py : Float32} {Ax Ay Bx By P Q : ℤ}
    (hax : valueOf a.x = some (Ax : ℚ)) (hay : valueOf a.y = some (Ay : ℚ))
    (hbx : valueOf b.x = some (Bx : ℚ)) (hby : valueOf b.y = some (By : ℚ))
    (hp : valueOf px = some ((P : ℚ) / 2)) (hq : valueOf py = some ((Q : ℚ) / 2))
    (hA : Ax.natAbs ≤ 512 ∧ Ay.natAbs ≤ 512) (hB : Bx.natAbs ≤ 512 ∧ By.natAbs ≤ 512)
    (hP : P.natAbs ≤ 1025) (hQ : Q.natAbs ≤ 1025) :
    valueOf (edge a b px py) =
      some ((((Bx - Ax) * (Q - 2 * Ay) - (By - Ay) * (P - 2 * Ax) : ℤ) : ℚ) / 2) := by
  unfold edge
  have hdx := valueOf_sub hbx hax
    (representable_of_half (2 * (Bx - Ax)) (by push_cast; ring) (by omega))
  have hdy := valueOf_sub hby hay
    (representable_of_half (2 * (By - Ay)) (by push_cast; ring) (by omega))
  have hqy := valueOf_sub hq hay
    (representable_of_half (Q - 2 * Ay) (by push_cast; ring) (by omega))
  have hpx := valueOf_sub hp hax
    (representable_of_half (P - 2 * Ax) (by push_cast; ring) (by omega))
  -- each product is below `1024 * 2049`, their difference below `2 ^ 23`
  have hm1 : ((Bx - Ax) * (Q - 2 * Ay)).natAbs ≤ 1024 * 2049 :=
    natAbs_mul_le (by omega) (by omega)
  have hm2 : ((By - Ay) * (P - 2 * Ax)).natAbs ≤ 1024 * 2049 :=
    natAbs_mul_le (by omega) (by omega)
  have h1 := valueOf_mul hdx hqy
    (representable_of_half ((Bx - Ax) * (Q - 2 * Ay)) (by push_cast; ring) (by omega))
  have h2 := valueOf_mul hdy hpx
    (representable_of_half ((By - Ay) * (P - 2 * Ax)) (by push_cast; ring) (by omega))
  rw [valueOf_sub h1 h2 (representable_of_half ((Bx - Ax) * (Q - 2 * Ay) - (By - Ay) *
    (P - 2 * Ax)) (by push_cast; ring) (by omega))]
  congr 1
  push_cast
  ring

/-- A coverage test is the lexicographic sign of the edge function and the edge's normal. -/
theorem covers_iff {w : Float32} {W : ℚ} (hw : valueOf w = some W) {tl : Bool} {A B : ℝ}
    (htl : tl = true ↔ 0 < A ∨ A = 0 ∧ 0 < B) : covers w tl = true ↔ LexPos (W : ℝ) A B := by
  unfold covers LexPos
  rw [Bool.or_eq_true, Bool.and_eq_true, decide_eq_true_iff,
    lt_iff_valueOf valueOf_zero32 hw, beq_iff_valueOf hw valueOf_zero32, htl, Rat.cast_pos,
    Rat.cast_eq_zero]

/-- An edge is a top or a left edge exactly when its normal points down, or right for a
horizontal edge. -/
theorem isTopLeft_iff {a b : Vertex} {Ax Ay Bx By : ℚ} (hax : valueOf a.x = some Ax)
    (hay : valueOf a.y = some Ay) (hbx : valueOf b.x = some Bx) (hby : valueOf b.y = some By) :
    isTopLeft a b = true ↔
      0 < (Ay : ℝ) - By ∨ (Ay : ℝ) - By = 0 ∧ 0 < (Bx : ℝ) - Ax := by
  unfold isTopLeft
  rw [Bool.or_eq_true, Bool.and_eq_true, decide_eq_true_iff, decide_eq_true_iff,
    beq_iff_valueOf hay hby, lt_iff_valueOf hax hbx, lt_iff_valueOf hby hay]
  simp only [sub_pos, sub_eq_zero, Rat.cast_lt, Rat.cast_inj]
  tauto

/-- The edge function of corners on the grid at a pixel centre is exact: the one of the plane. -/
theorem valueOf_edge_centre {a b : Vertex} (ha : a.OnGrid) (hb : b.OnGrid) {x y : ℕ}
    (hx : x ≤ 512) (hy : y ≤ 512) :
    ∃ W : ℚ, valueOf (edge a b (x.toUInt32.toFloat32 + half32) (y.toUInt32.toFloat32 + half32)) =
      some W ∧ (W : ℝ) = edgeR a.point b.point (centre x y) := by
  obtain ⟨Ax, Ay, hax, hay, hA⟩ := ha
  obtain ⟨Bx, By, hbx, hby, hB⟩ := hb
  refine ⟨_, valueOf_edge hax hay hbx hby (valueOf_pixel hx) (valueOf_pixel hy) (by omega)
    (by omega) (by omega) (by omega), ?_⟩
  rw [point_eq hax hay, point_eq hbx hby]
  unfold edgeR centre
  push_cast
  ring

/-- **The coverage test of an edge of corners on the grid is the top-left rule in the plane**,
at every pixel the corners' box can hold. -/
theorem covers_edge_iff {a b : Vertex} (ha : a.OnGrid) (hb : b.OnGrid) {x y : ℕ} (hx : x ≤ 512)
    (hy : y ≤ 512) :
    covers (edge a b (x.toUInt32.toFloat32 + half32) (y.toUInt32.toFloat32 + half32))
        (isTopLeft a b) = true ↔ CoversR a.point b.point x y := by
  obtain ⟨W, hw, hWe⟩ := valueOf_edge_centre ha hb hx hy
  obtain ⟨Ax, Ay, hax, hay, -⟩ := ha
  obtain ⟨Bx, By, hbx, hby, -⟩ := hb
  rw [covers_iff hw (isTopLeft_iff hax hay hbx hby), CoversR, hWe, point_eq hax hay,
    point_eq hbx hby]
  simp only [Rat.cast_intCast]

/-! ### The rectangle visited -/

theorem unpack_posInf32 : posInf32.toModel.unpack = .infinity .positive := rfl

theorem unpack_negInf32 : negInf32.toModel.unpack = .infinity .negative := rfl

theorem lt_posInf32 {a : Float32} {p : ℚ} (ha : valueOf a = some p) : a < posInf32 := by
  show Float32.lt a posInf32 = true
  unfold Float32.lt
  rw [decide_eq_true_iff]
  show a.toModel.unpack.lt posInf32.toModel.unpack = true
  rw [unpack_posInf32]
  rcases (represents_unpack ha).cases with ⟨s, hs, -⟩ | ⟨s, m, e, hm, hs, -⟩ <;> rw [hs] <;>
    cases s <;> rfl

theorem negInf32_lt {a : Float32} {p : ℚ} (ha : valueOf a = some p) : negInf32 < a := by
  show Float32.lt negInf32 a = true
  unfold Float32.lt
  rw [decide_eq_true_iff]
  show negInf32.toModel.unpack.lt a.toModel.unpack = true
  rw [unpack_negInf32]
  rcases (represents_unpack ha).cases with ⟨s, hs, -⟩ | ⟨s, m, e, hm, hs, -⟩ <;> rw [hs] <;>
    cases s <;> rfl

theorem fmin_posInf32 {a : Float32} {p : ℚ} (ha : valueOf a = some p) : fmin posInf32 a = a := by
  have hn : posInf32.isNaN = false := rfl
  simp only [fmin, hn, isNaN_of_valueOf ha, Bool.false_eq_true, if_false, if_pos (lt_posInf32 ha)]

theorem fmax_negInf32 {a : Float32} {p : ℚ} (ha : valueOf a = some p) : fmax negInf32 a = a := by
  have hn : negInf32.isNaN = false := rfl
  simp only [fmax, hn, isNaN_of_valueOf ha, Bool.false_eq_true, if_false, if_pos (negInf32_lt ha)]

theorem valueOf_fmin {a b : Float32} {p q : ℚ} (ha : valueOf a = some p)
    (hb : valueOf b = some q) : valueOf (fmin a b) = some (min p q) := by
  simp only [fmin, isNaN_of_valueOf ha, isNaN_of_valueOf hb, Bool.false_eq_true, if_false]
  by_cases h : b < a
  · rw [if_pos h, hb, min_eq_right ((lt_iff_valueOf hb ha).1 h).le]
  · rw [if_neg h, ha, min_eq_left (not_lt.1 ((lt_iff_valueOf hb ha).not.1 h))]

theorem valueOf_fmax {a b : Float32} {p q : ℚ} (ha : valueOf a = some p)
    (hb : valueOf b = some q) : valueOf (fmax a b) = some (max p q) := by
  simp only [fmax, isNaN_of_valueOf ha, isNaN_of_valueOf hb, Bool.false_eq_true, if_false]
  by_cases h : a < b
  · rw [if_pos h, hb, max_eq_right ((lt_iff_valueOf ha hb).1 h).le]
  · rw [if_neg h, ha, max_eq_left (not_lt.1 ((lt_iff_valueOf ha hb).not.1 h))]

theorem int64Min_le : int64Min ≤ -512 := by decide

theorem le_int64Max : 512 ≤ int64Max := by decide

/-- The least of three whole coordinates, read back as a whole number. -/
theorem floorInt64_min3 {a b c : Float32} {A B C : ℤ} (ha : valueOf a = some (A : ℚ))
    (hb : valueOf b = some (B : ℚ)) (hc : valueOf c = some (C : ℚ))
    (hA : A.natAbs ≤ 512) (hB : B.natAbs ≤ 512) (hC : C.natAbs ≤ 512) :
    floorInt64 (fmin (fmin (fmin posInf32 a) b) c) = min (min A B) C := by
  rw [fmin_posInf32 ha]
  have h := valueOf_fmin (valueOf_fmin ha hb) hc
  rw [← Int.cast_min, ← Int.cast_min] at h
  exact floorInt64_of_value h (by have := int64Min_le; omega) (by have := le_int64Max; omega)

/-- The greatest of three whole coordinates, read back as a whole number. -/
theorem ceilInt64_max3 {a b c : Float32} {A B C : ℤ} (ha : valueOf a = some (A : ℚ))
    (hb : valueOf b = some (B : ℚ)) (hc : valueOf c = some (C : ℚ))
    (hA : A.natAbs ≤ 512) (hB : B.natAbs ≤ 512) (hC : C.natAbs ≤ 512) :
    ceilInt64 (fmax (fmax (fmax negInf32 a) b) c) = max (max A B) C := by
  rw [fmax_negInf32 ha]
  have h := valueOf_fmax (valueOf_fmax ha hb) hc
  rw [← Int.cast_max, ← Int.cast_max] at h
  exact ceilInt64_of_value h (by have := int64Min_le; omega) (by have := le_int64Max; omega)

/-- **The rectangle a triangle of grid corners visits**: the corners' box, cut to the clip
rectangle and the surface. -/
theorem bounds_grid {clip : Clip} {width height : Nat} {u0 u1 u2 : Vertex} {X0 Y0 X1 Y1 X2 Y2 : ℤ}
    (h0x : valueOf u0.x = some (X0 : ℚ)) (h0y : valueOf u0.y = some (Y0 : ℚ))
    (h1x : valueOf u1.x = some (X1 : ℚ)) (h1y : valueOf u1.y = some (Y1 : ℚ))
    (h2x : valueOf u2.x = some (X2 : ℚ)) (h2y : valueOf u2.y = some (Y2 : ℚ))
    (hX : X0.natAbs ≤ 512 ∧ X1.natAbs ≤ 512 ∧ X2.natAbs ≤ 512)
    (hY : Y0.natAbs ≤ 512 ∧ Y1.natAbs ≤ 512 ∧ Y2.natAbs ≤ 512) :
    bounds clip width height u0 u1 u2 =
      if min (min (max (max X0 X1) X2) clip.right) ((width : ℤ) - 1) <
            max (max (min (min X0 X1) X2) clip.left) 0 ∨
          min (min (max (max Y0 Y1) Y2) clip.bottom) ((height : ℤ) - 1) <
            max (max (min (min Y0 Y1) Y2) clip.top) 0 then none
      else some ((max (max (min (min X0 X1) X2) clip.left) 0).toNat,
        (max (max (min (min Y0 Y1) Y2) clip.top) 0).toNat,
        (min (min (max (max X0 X1) X2) clip.right) ((width : ℤ) - 1)).toNat,
        (min (min (max (max Y0 Y1) Y2) clip.bottom) ((height : ℤ) - 1)).toNat) := by
  unfold bounds
  dsimp only
  rw [floorInt64_min3 h0x h1x h2x hX.1 hX.2.1 hX.2.2, ceilInt64_max3 h0x h1x h2x hX.1 hX.2.1 hX.2.2,
    floorInt64_min3 h0y h1y h2y hY.1 hY.2.1 hY.2.2, ceilInt64_max3 h0y h1y h2y hY.1 hY.2.1 hY.2.2]

theorem mem_rectWrites_iff {f : Format} {v0 v1 v2 : Vertex} {area : Float32}
    {x0 y0 x1 y1 x y : Nat} {raw : UInt32} :
    (x, y, raw) ∈ rectWrites f v0 v1 v2 area x0 y0 x1 y1 ↔
      ((x0 ≤ x ∧ x ≤ x1) ∧ (y0 ≤ y ∧ y ≤ y1)) ∧ shade f v0 v1 v2 area x y = some raw := by
  unfold rectWrites
  simp only [List.mem_flatMap, List.mem_range'_1, List.mem_filterMap, Option.map_eq_some_iff,
    Prod.mk.injEq]
  constructor
  · rintro ⟨y', hy', x', hx', raw', hs, rfl, rfl, rfl⟩
    exact ⟨⟨⟨by omega, by omega⟩, by omega, by omega⟩, hs⟩
  · rintro ⟨⟨hx, hy⟩, hs⟩
    exact ⟨y, by omega, x, by omega, raw, hs, rfl, rfl, rfl⟩

/-- A pixel coordinate lies in a nonempty visited range, read as natural numbers, exactly when
it lies in the box, in the clip range and in the surface. -/
theorem mem_range_iff {a M l r : ℤ} {w x : ℕ} (h : max (max a l) 0 ≤ min (min M r) ((w : ℤ) - 1)) :
    ((max (max a l) 0).toNat ≤ x ∧ x ≤ (min (min M r) ((w : ℤ) - 1)).toNat) ↔
      (a ≤ x ∧ (x : ℤ) ≤ M) ∧ l ≤ x ∧ (x : ℤ) ≤ r ∧ x < w := by
  omega

theorem not_mem_range {a M l r : ℤ} {w x : ℕ} (h : min (min M r) ((w : ℤ) - 1) < max (max a l) 0) :
    ¬((a ≤ x ∧ (x : ℤ) ≤ M) ∧ l ≤ x ∧ (x : ℤ) ≤ r ∧ x < w) := by
  omega

/-! ### Coverage -/

/-- A triangle of grid corners gives a pixel of its box a colour exactly when each edge lets
the pixel's centre in. -/
theorem shade_isSome_iff {f : Format} {v0 v1 v2 : Vertex} (g0 : v0.OnGrid) (g1 : v1.OnGrid)
    (g2 : v2.OnGrid) (area : Float32) {x y : ℕ} (hx : x ≤ 512) (hy : y ≤ 512) :
    (∃ raw, shade f v0 v1 v2 area x y = some raw) ↔
      CoversR v1.point v2.point x y ∧ CoversR v2.point v0.point x y ∧
        CoversR v0.point v1.point x y := by
  rw [← covers_edge_iff g1 g2 hx hy, ← covers_edge_iff g2 g0 hx hy, ← covers_edge_iff g0 g1 hx hy]
  unfold shade
  dsimp only
  split
  · next h =>
    simp only [Bool.and_eq_true] at h
    exact ⟨fun _ => ⟨h.1.1, h.1.2, h.2⟩, fun _ => ⟨_, rfl⟩⟩
  · next h =>
    simp only [Bool.and_eq_true, not_and] at h
    simp only [reduceCtorEq, exists_false, false_iff, not_and]
    exact fun h0 h1 => h ⟨h0, h1⟩

/-- A pixel whose moved centre lies in a triangle of grid corners for all small `e` lies in the
corners' box. -/
theorem pixel_mem_box {X0 Y0 X1 Y1 X2 Y2 : ℤ} {x y : ℕ}
    (h : ∀ᶠ e in 𝓝[>] (0 : ℝ), nudged x y e ∈
      convexHull ℝ {((X0 : ℝ), (Y0 : ℝ)), ((X1 : ℝ), (Y1 : ℝ)), ((X2 : ℝ), (Y2 : ℝ))}) :
    (min (min X0 X1) X2 ≤ x ∧ (x : ℤ) ≤ max (max X0 X1) X2) ∧
      (min (min Y0 Y1) Y2 ≤ y ∧ (y : ℤ) ≤ max (max Y0 Y1) Y2) := by
  obtain ⟨e, hmem, he0, he1⟩ := (h.and (Ioo_mem_nhdsGT (by norm_num : (0 : ℝ) < 1 / 2))).exists
  obtain ⟨h1, h2, h3, h4⟩ := convexHull_subset_box _ _ _ hmem
  simp only [nudged] at h1 h2 h3 h4
  have he2 : e ^ 2 < 1 / 2 := by nlinarith
  have he2' : 0 ≤ e ^ 2 := sq_nonneg e
  -- the moved centre lies within half a pixel of the centre, so the whole coordinates are caught
  have hx1 : ((min (min X0 X1) X2 : ℤ) : ℝ) < ((x + 1 : ℤ) : ℝ) := by push_cast; linarith
  have hx2 : ((x : ℤ) : ℝ) < ((max (max X0 X1) X2 : ℤ) : ℝ) := by push_cast; linarith
  have hy1 : ((min (min Y0 Y1) Y2 : ℤ) : ℝ) < ((y + 1 : ℤ) : ℝ) := by push_cast; linarith
  have hy2 : ((y : ℤ) : ℝ) < ((max (max Y0 Y1) Y2 : ℤ) : ℝ) := by push_cast; linarith
  rw [Int.cast_lt] at hx1 hx2 hy1 hy2
  omega

/-- A triangle of grid corners that visits no pixel has no pixel of the clip rectangle and the
surface whose moved centre stays in it. -/
theorem not_eventually_of_bounds_none {clip : Clip} {width height : Nat} {u0 u1 u2 : Vertex}
    (g0 : u0.OnGrid) (g1 : u1.OnGrid) (g2 : u2.OnGrid)
    (hb : bounds clip width height u0 u1 u2 = none) {x y : Nat}
    (hxy : clip.Admits width height x y) :
    ¬∀ᶠ e in 𝓝[>] (0 : ℝ), nudged x y e ∈ interior (triangle u0 u1 u2) := by
  obtain ⟨X0, Y0, h0x, h0y, b0⟩ := g0
  obtain ⟨X1, Y1, h1x, h1y, b1⟩ := g1
  obtain ⟨X2, Y2, h2x, h2y, b2⟩ := g2
  rw [bounds_grid h0x h0y h1x h1y h2x h2y (by omega) (by omega)] at hb
  split_ifs at hb with hne
  intro he
  rw [triangle, point_eq h0x h0y, point_eq h1x h1y, point_eq h2x h2y] at he
  obtain ⟨⟨bx, bx'⟩, by', by''⟩ := pixel_mem_box (he.mono fun e he => interior_subset he)
  obtain ⟨lx, rx, ty, bty, wx, hy⟩ := hxy
  rcases hne with hne | hne
  · exact not_mem_range hne ⟨⟨bx, bx'⟩, lx, rx, wx⟩
  · exact not_mem_range hne ⟨⟨by', by''⟩, ty, bty, hy⟩

/-- **A triangle of grid corners and positive area writes the pixels of the clip rectangle and
the surface whose moved centres lie in its interior for all small `e`.** -/
theorem visits_iff_of_bounds {clip : Clip} {width height : Nat} {f : Format}
    {u0 u1 u2 : Vertex} (g0 : u0.OnGrid) (g1 : u1.OnGrid) (g2 : u2.OnGrid)
    (hpos : 0 < edgeR u0.point u1.point u2.point) (area : Float32) {x0 y0 x1 y1 : Nat}
    (hb : bounds clip width height u0 u1 u2 = some (x0, y0, x1, y1)) {x y : Nat}
    (hxy : clip.Admits width height x y) :
    (∃ raw, (x, y, raw) ∈ rectWrites f u0 u1 u2 area x0 y0 x1 y1) ↔
      ∀ᶠ e in 𝓝[>] (0 : ℝ), nudged x y e ∈ interior (triangle u0 u1 u2) := by
  have hcov := shade_isSome_iff (f := f) g0 g1 g2 area (x := x) (y := y)
  obtain ⟨X0, Y0, h0x, h0y, b0⟩ := g0
  obtain ⟨X1, Y1, h1x, h1y, b1⟩ := g1
  obtain ⟨X2, Y2, h2x, h2y, b2⟩ := g2
  rw [bounds_grid h0x h0y h1x h1y h2x h2y (by omega) (by omega)] at hb
  split_ifs at hb with hne
  simp only [Option.some.injEq, Prod.mk.injEq] at hb
  obtain ⟨rfl, rfl, rfl, rfl⟩ := hb
  rw [not_or, not_lt, not_lt] at hne
  simp only [mem_rectWrites_iff, mem_range_iff hne.1, mem_range_iff hne.2]
  rw [triangle, eventually_interior_iff hpos]
  rw [point_eq h0x h0y, point_eq h1x h1y, point_eq h2x h2y] at hpos hcov ⊢
  constructor
  · rintro ⟨raw, ⟨⟨hbx, -⟩, hby, -⟩, hs⟩
    exact (hcov (by omega) (by omega)).1 ⟨raw, hs⟩
  · intro hc
    obtain ⟨hbx, hby⟩ := pixel_mem_box ((eventually_interior_iff hpos x y).2 hc |>.mono
      fun e he => interior_subset he)
    obtain ⟨raw, hs⟩ := (hcov (by omega) (by omega)).2 hc
    obtain ⟨lx, rx, ty, bty, wx, hy⟩ := hxy
    exact ⟨raw, ⟨⟨hbx, lx, rx, wx⟩, hby, ty, bty, hy⟩, hs⟩

/-! ### The top-left rule -/

theorem triangle_swap (v0 v1 v2 : Vertex) : triangle v0 v2 v1 = triangle v0 v1 v2 := by
  unfold triangle
  rw [pair_comm]

/-- The signed area of a triangle of grid corners is exact. -/
theorem valueOf_area {v0 v1 v2 : Vertex} (g0 : v0.OnGrid) (g1 : v1.OnGrid) (g2 : v2.OnGrid) :
    ∃ D : ℚ, valueOf (edge v0 v1 v2.x v2.y) = some D ∧
      (D : ℝ) = edgeR v0.point v1.point v2.point := by
  obtain ⟨X0, Y0, h0x, h0y, b0⟩ := g0
  obtain ⟨X1, Y1, h1x, h1y, b1⟩ := g1
  obtain ⟨X2, Y2, h2x, h2y, b2⟩ := g2
  have hx : valueOf v2.x = some (((2 * X2 : ℤ) : ℚ) / 2) := by
    rw [h2x]
    push_cast
    ring_nf
  have hy : valueOf v2.y = some (((2 * Y2 : ℤ) : ℚ) / 2) := by
    rw [h2y]
    push_cast
    ring_nf
  refine ⟨_, valueOf_edge h0x h0y h1x h1y hx hy (by omega) (by omega) (by omega) (by omega), ?_⟩
  rw [point_eq h0x h0y, point_eq h1x h1y, point_eq h2x h2y]
  unfold edgeR
  push_cast
  ring

/-- A number of nonzero value is neither a zero nor infinite. -/
theorem degenerate_eq_false {d : Float32} {D : ℚ} (hd : valueOf d = some D) (h : D ≠ 0) :
    (d == zero32 || !d.isFinite) = false := by
  rw [Bool.eq_false_iff.2 fun hb => h ((beq_iff_valueOf hd valueOf_zero32).1 hb),
    isFinite_of_valueOf hd]
  rfl

/-- **The top-left rule.**  A triangle of grid corners writes a pixel of the clip rectangle and
the surface exactly when the pixel's centre, moved right by `e` and down by `e ^ 2`, lies in the
open triangle for all small `e > 0`, whatever the sense of its corners. -/
theorem writes_iff_eventually_interior {clip : Clip} {width height : Nat} {f : Format}
    {v0 v1 v2 : Vertex} (g0 : v0.OnGrid) (g1 : v1.OnGrid) (g2 : v2.OnGrid) {x y : Nat}
    (hxy : clip.Admits width height x y) :
    Writes clip width height f v0 v1 v2 x y ↔
      ∀ᶠ e in 𝓝[>] (0 : ℝ), nudged x y e ∈ interior (triangle v0 v1 v2) := by
  obtain ⟨D, hD, hDe⟩ := valueOf_area g0 g1 g2
  unfold Writes triangleWrites
  dsimp only
  rcases lt_trichotomy D 0 with hneg | rfl | hpos
  · -- a triangle of negative area is turned to the other sense
    rw [if_neg (by rw [degenerate_eq_false hD hneg.ne]; exact Bool.false_ne_true),
      if_pos ((lt_iff_valueOf hD valueOf_zero32).2 hneg)]
    dsimp only
    have hturn : 0 < edgeR v0.point v2.point v1.point := by
      rw [edgeR_swap, ← hDe]
      exact neg_pos.2 (Rat.cast_lt_zero.2 hneg)
    rw [← triangle_swap]
    split
    · next hb =>
      simp only [List.not_mem_nil, exists_false, false_iff]
      exact not_eventually_of_bounds_none g0 g2 g1 hb hxy
    · next hb => exact visits_iff_of_bounds g0 g2 g1 hturn _ hb hxy
  · -- a triangle of zero area writes nothing, and lies on a line the moved centre leaves
    rw [if_pos (by rw [(beq_iff_valueOf hD valueOf_zero32).2 rfl]; rfl)]
    simp only [List.not_mem_nil, exists_false, false_iff]
    intro he
    obtain ⟨u, v, huv, hsub⟩ := exists_line_of_degenerate (by rw [← hDe, Rat.cast_zero])
    obtain ⟨e, h1, h2⟩ := (he.and (eventually_not_mem_line huv x y)).exists
    exact h2 (hsub (interior_subset h1))
  · rw [if_neg (by rw [degenerate_eq_false hD hpos.ne']; exact Bool.false_ne_true),
      if_neg (fun h => absurd ((lt_iff_valueOf hD valueOf_zero32).1 h) (not_lt.2 hpos.le))]
    dsimp only
    have hpos' : 0 < edgeR v0.point v1.point v2.point := by
      rw [← hDe]
      exact_mod_cast hpos
    split
    · next hb =>
      simp only [List.not_mem_nil, exists_false, false_iff]
      exact not_eventually_of_bounds_none g0 g1 g2 hb hxy
    · next hb => exact visits_iff_of_bounds g0 g1 g2 hpos' _ hb hxy

/-! ### Triangles with disjoint interiors -/

section Partition

variable {ι : Type} {clip : Clip} {width height : Nat} {f : Format} {v0 v1 v2 : ι → Vertex}

/-- Triangles of grid corners whose interiors do not meet never write one pixel twice. -/
theorem writes_disjoint (hgrid : ∀ i, (v0 i).OnGrid ∧ (v1 i).OnGrid ∧ (v2 i).OnGrid)
    (hdisj : Pairwise fun i j => Disjoint (interior (triangle (v0 i) (v1 i) (v2 i)))
      (interior (triangle (v0 j) (v1 j) (v2 j))))
    {i j : ι} (hij : i ≠ j) {x y : Nat} (hi : Writes clip width height f (v0 i) (v1 i) (v2 i) x y) :
    ¬Writes clip width height f (v0 j) (v1 j) (v2 j) x y := by
  intro hj
  obtain ⟨raw, hraw⟩ := hi
  have hxy : clip.Admits width height x y := mem_triangleWrites hraw
  have hei := (writes_iff_eventually_interior (hgrid i).1 (hgrid i).2.1 (hgrid i).2.2 hxy).1
    ⟨raw, hraw⟩
  have hej := (writes_iff_eventually_interior (hgrid j).1 (hgrid j).2.1 (hgrid j).2.2 hxy).1 hj
  obtain ⟨e, h1, h2⟩ := (hei.and hej).exists
  exact Set.disjoint_left.1 (hdisj hij) h1 h2

/-- Finitely many triangles of grid corners whose interiors do not meet write every pixel of the
clip rectangle and the surface whose centre lies inside their union exactly once. -/
theorem writes_existsUnique [Finite ι]
    (hgrid : ∀ i, (v0 i).OnGrid ∧ (v1 i).OnGrid ∧ (v2 i).OnGrid)
    (hdisj : Pairwise fun i j => Disjoint (interior (triangle (v0 i) (v1 i) (v2 i)))
      (interior (triangle (v0 j) (v1 j) (v2 j))))
    {x y : Nat} (hxy : clip.Admits width height x y)
    (hc : centre x y ∈ interior (⋃ i, triangle (v0 i) (v1 i) (v2 i))) :
    ∃! i, Writes clip width height f (v0 i) (v1 i) (v2 i) x y := by
  -- the moved centre stays in the union, so for all small `e` in one triangle's interior
  have hU : ∀ᶠ e in 𝓝[>] (0 : ℝ), nudged x y e ∈ ⋃ i, triangle (v0 i) (v1 i) (v2 i) :=
    (tendsto_nudged x y).eventually_mem (mem_interior_iff_mem_nhds.1 hc)
  have hex : ∃ i, ∀ᶠ e in 𝓝[>] (0 : ℝ),
      nudged x y e ∈ interior (triangle (v0 i) (v1 i) (v2 i)) := by
    by_contra hne
    have hout : ∀ i, ∀ᶠ e in 𝓝[>] (0 : ℝ), nudged x y e ∉ triangle (v0 i) (v1 i) (v2 i) :=
      fun i => (eventually_interior_or_not_mem _ _ _ x y).resolve_left fun h => hne ⟨i, h⟩
    obtain ⟨e, hin, hnot⟩ := (hU.and (eventually_all.2 hout)).exists
    obtain ⟨i, hi⟩ := Set.mem_iUnion.1 hin
    exact hnot i hi
  obtain ⟨i, hi⟩ := hex
  have hwi : Writes clip width height f (v0 i) (v1 i) (v2 i) x y :=
    (writes_iff_eventually_interior (hgrid i).1 (hgrid i).2.1 (hgrid i).2.2 hxy).2 hi
  refine ⟨i, hwi, fun j hj => ?_⟩
  by_contra hji
  exact writes_disjoint hgrid hdisj (Ne.symm hji) hwi hj

end Partition

/-- **The top-left rule.**  For triangles whose corners lie on the integer grid within
`[-512, 512]`, in either sense: the rasterizer writes a pixel of the clip rectangle and the
surface exactly when the pixel's centre moved by `(e, e ^ 2)` lies in the open triangle for all
small `e > 0`.  Consequently, for finitely many such triangles whose interiors do not meet, drawn
with one clip rectangle on one surface, no pixel is written by two of them, and every pixel of
the clip rectangle and the surface whose centre lies in the interior of their union is written
by exactly one of them. -/
theorem triangleWrites_topLeft (clip : Clip) (width height : Nat) (f : Format) :
    (∀ v0 v1 v2 : Vertex, v0.OnGrid → v1.OnGrid → v2.OnGrid → ∀ x y : Nat,
      clip.Admits width height x y →
        (Writes clip width height f v0 v1 v2 x y ↔
          ∀ᶠ e in 𝓝[>] (0 : ℝ), nudged x y e ∈ interior (triangle v0 v1 v2))) ∧
    ∀ {ι : Type} [Finite ι] (v0 v1 v2 : ι → Vertex),
      (∀ i, (v0 i).OnGrid ∧ (v1 i).OnGrid ∧ (v2 i).OnGrid) →
      (Pairwise fun i j => Disjoint (interior (triangle (v0 i) (v1 i) (v2 i)))
        (interior (triangle (v0 j) (v1 j) (v2 j)))) →
      (∀ i j, i ≠ j → ∀ x y : Nat, Writes clip width height f (v0 i) (v1 i) (v2 i) x y →
        ¬Writes clip width height f (v0 j) (v1 j) (v2 j) x y) ∧
      ∀ x y : Nat, clip.Admits width height x y →
        centre x y ∈ interior (⋃ i, triangle (v0 i) (v1 i) (v2 i)) →
          ∃! i, Writes clip width height f (v0 i) (v1 i) (v2 i) x y :=
  ⟨fun _ _ _ g0 g1 g2 _ _ hxy => writes_iff_eventually_interior g0 g1 g2 hxy,
    fun _ _ _ hgrid hdisj => ⟨fun _ _ hij _ _ hi => writes_disjoint hgrid hdisj hij hi,
      fun _ _ hxy hc => writes_existsUnique hgrid hdisj hxy hc⟩⟩

theorem triangleWrites_topLeft_sample :
    (Writes Clip.default 4 4 .rgba8888 (gridCorner 0 0) (gridCorner 4 0) (gridCorner 0 4) 0 0 ↔
      ∀ᶠ e in 𝓝[>] (0 : ℝ), nudged 0 0 e ∈
        interior (triangle (gridCorner 0 0) (gridCorner 4 0) (gridCorner 0 4))) ∧
    ∀ x y : Nat, Clip.default.Admits 4 4 x y →
      centre x y ∈
          interior (⋃ _ : Unit, triangle (gridCorner 0 0) (gridCorner 4 0) (gridCorner 0 4)) →
        ∃! _ : Unit, Writes Clip.default 4 4 .rgba8888 (gridCorner 0 0) (gridCorner 4 0)
          (gridCorner 0 4) x y := by
  have g0 := gridCorner_onGrid (x := 0) (y := 0) (by norm_num) (by norm_num)
  have g1 := gridCorner_onGrid (x := 4) (y := 0) (by norm_num) (by norm_num)
  have g2 := gridCorner_onGrid (x := 0) (y := 4) (by norm_num) (by norm_num)
  have hadm : Clip.default.Admits 4 4 0 0 := by
    unfold Clip.Admits Clip.default int32Max Int.pow
    decide
  exact ⟨(triangleWrites_topLeft Clip.default 4 4 .rgba8888).1 _ _ _ g0 g1 g2 0 0 hadm,
    ((triangleWrites_topLeft Clip.default 4 4 .rgba8888).2 (fun _ : Unit => gridCorner 0 0)
      (fun _ => gridCorner 4 0) (fun _ => gridCorner 0 4) (fun _ => ⟨g0, g1, g2⟩)
      (fun i j hij => absurd (Subsingleton.elim i j) hij)).2⟩

end TegraGpu.Raster
