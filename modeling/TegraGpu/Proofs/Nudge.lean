import Mathlib
/-!
# Triangles of the plane near a pixel centre

The top-left rule decides a pixel centre on an edge as if the centre were moved right by a
tiny `e` and down by a tinier `e ^ 2`.  Along that move an edge function is
`w + e * A + e ^ 2 * B`, with `w` its value at the centre and `(A, B)` the edge's normal;
for all small `e > 0` its sign is the sign of the first nonzero of `w, A, B`.  So a triangle
of positive area holds the moved point in its interior for all small `e` exactly when each of
its edges, read lexicographically, is positive at the centre; and otherwise the moved point
leaves the closed triangle for all small `e`.  A triangle of zero area lies on a line, which
the moved point leaves as well.

* `edgeR`, `nudged`, `LexPos` : edge functions of the plane, the moved centre, and the sign
  of `w + e * A + e ^ 2 * B` for small `e`.
* `convexHull_subset_edges`, `edges_pos_subset_interior` : a triangle of positive area is
  where its edge functions are nonnegative, and its interior holds where they are positive.
* `eventually_interior_iff` : the moved centre lies in the interior for all small `e` exactly
  when each edge lets the centre in.
* `eventually_interior_or_not_mem` : for every triangle the moved centre lies either in its
  interior or outside it, for all small `e`.
-/

namespace TegraGpu.Raster

open Filter Topology Set

/-- Twice the signed area of the triangle `a b p` of the plane. -/
def edgeR (a b p : ℝ × ℝ) : ℝ := (b.1 - a.1) * (p.2 - a.2) - (b.2 - a.2) * (p.1 - a.1)

/-- The centre of the pixel `(x, y)`. -/
noncomputable def centre (x y : ℕ) : ℝ × ℝ := (x + 1 / 2, y + 1 / 2)

/-- The centre of the pixel `(x, y)` moved right by `e` and down by `e ^ 2`. -/
noncomputable def nudged (x y : ℕ) (e : ℝ) : ℝ × ℝ := (x + 1 / 2 + e, y + 1 / 2 + e ^ 2)

/-- The first nonzero of `w, A, B` is positive: the sign of `w + e * A + e ^ 2 * B` for all
small `e > 0`. -/
def LexPos (w A B : ℝ) : Prop := 0 < w ∨ w = 0 ∧ (0 < A ∨ A = 0 ∧ 0 < B)

/-- The edge from `a` to `b` lets the centre of the pixel `(x, y)` in: its edge function is
positive there, or zero and positive along the move. -/
def CoversR (a b : ℝ × ℝ) (x y : ℕ) : Prop :=
  LexPos (edgeR a b (centre x y)) (a.2 - b.2) (b.1 - a.1)

/-- The moved centre tends to the centre as `e` falls to zero. -/
theorem tendsto_nudged (x y : ℕ) : Tendsto (nudged x y) (𝓝[>] 0) (𝓝 (centre x y)) := by
  have hcont : Continuous (nudged x y) := by
    unfold nudged
    fun_prop
  have h := hcont.tendsto 0
  simp only [nudged, add_zero, ne_eq, OfNat.ofNat_ne_zero, not_false_eq_true, zero_pow] at h
  exact tendsto_nhdsWithin_of_tendsto_nhds h

/-! ### Edge functions -/

theorem edgeR_nudged (a b : ℝ × ℝ) (x y : ℕ) (e : ℝ) :
    edgeR a b (nudged x y e) =
      edgeR a b (centre x y) + e * (a.2 - b.2) + e ^ 2 * (b.1 - a.1) := by
  simp only [edgeR, nudged, centre]
  ring

theorem edgeR_combo (a b p q : ℝ × ℝ) {α β : ℝ} (h : α + β = 1) :
    edgeR a b (α • p + β • q) = α * edgeR a b p + β * edgeR a b q := by
  obtain rfl : β = 1 - α := by linarith
  simp only [edgeR, Prod.fst_add, Prod.snd_add, Prod.smul_fst, Prod.smul_snd, smul_eq_mul]
  ring

theorem edgeR_cycle (a b c : ℝ × ℝ) : edgeR b c a = edgeR a b c ∧ edgeR c a b = edgeR a b c := by
  constructor <;> simp only [edgeR] <;> ring

theorem edgeR_swap (a b c : ℝ × ℝ) : edgeR a c b = -edgeR a b c := by
  simp only [edgeR]
  ring

theorem edgeR_self (a p : ℝ × ℝ) : edgeR a a p = 0 := by
  simp only [edgeR]
  ring

theorem edgeR_self_left (a b : ℝ × ℝ) : edgeR a b a = 0 := by
  simp only [edgeR]
  ring

theorem edgeR_self_right (a b : ℝ × ℝ) : edgeR a b b = 0 := by
  simp only [edgeR]
  ring

theorem continuous_edgeR (a b : ℝ × ℝ) : Continuous (edgeR a b) := by
  unfold edgeR
  fun_prop

theorem convex_edgeR_nonneg (a b : ℝ × ℝ) : Convex ℝ {p | 0 ≤ edgeR a b p} := by
  intro p hp q hq α β hα hβ hαβ
  show 0 ≤ edgeR a b (α • p + β • q)
  rw [edgeR_combo a b p q hαβ]
  exact add_nonneg (mul_nonneg hα hp) (mul_nonneg hβ hq)

theorem convex_edgeR_zero (a b : ℝ × ℝ) : Convex ℝ {p | edgeR a b p = 0} := by
  intro p hp q hq α β _ _ hαβ
  show edgeR a b (α • p + β • q) = 0
  rw [edgeR_combo a b p q hαβ, show edgeR a b p = 0 from hp, show edgeR a b q = 0 from hq]
  ring

/-- An edge between two distinct points has a nonzero normal. -/
theorem normal_ne_zero {a b : ℝ × ℝ} (hab : a ≠ b) : a.2 - b.2 ≠ 0 ∨ b.1 - a.1 ≠ 0 := by
  by_contra h
  simp only [not_or, not_not, sub_eq_zero] at h
  exact hab (Prod.ext h.2.symm h.1)

/-! ### Signs for small `e` -/

/-- **The first nonzero coefficient decides the sign for small `e`.** -/
theorem eventually_pos_of_lexPos {w A B : ℝ} (h : LexPos w A B) :
    ∀ᶠ e in 𝓝[>] (0 : ℝ), 0 < w + e * A + e ^ 2 * B := by
  rcases h with hw | ⟨rfl, hA | ⟨rfl, hB⟩⟩
  · -- the constant term wins near zero
    have hc : Tendsto (fun e : ℝ => w + e * A + e ^ 2 * B) (𝓝 0) (𝓝 w) := by
      have hcont : Continuous fun e : ℝ => w + e * A + e ^ 2 * B := by fun_prop
      simpa using hcont.tendsto 0
    exact nhdsWithin_le_nhds (hc.eventually (lt_mem_nhds hw))
  · -- the linear term wins: the value is `e * (A + e * B)`
    have hc : Tendsto (fun e : ℝ => A + e * B) (𝓝 0) (𝓝 A) := by
      have hcont : Continuous fun e : ℝ => A + e * B := by fun_prop
      simpa using hcont.tendsto 0
    filter_upwards [self_mem_nhdsWithin, nhdsWithin_le_nhds (hc.eventually (lt_mem_nhds hA))]
      with e he hAe
    have hpos : 0 < e * (A + e * B) := mul_pos he hAe
    linarith
  · filter_upwards [self_mem_nhdsWithin] with e he
    have hpos : 0 < e ^ 2 * B := mul_pos (pow_pos he 2) hB
    linarith

theorem lexPos_or_neg {w A B : ℝ} (h : A ≠ 0 ∨ B ≠ 0) :
    LexPos w A B ∨ LexPos (-w) (-A) (-B) := by
  unfold LexPos
  rcases lt_trichotomy w 0 with hw | rfl | hw
  · exact .inr (.inl (by linarith))
  · rcases lt_trichotomy A 0 with hA | rfl | hA
    · exact .inr (.inr ⟨neg_zero, .inl (by linarith)⟩)
    · rcases lt_trichotomy B 0 with hB | rfl | hB
      · exact .inr (.inr ⟨neg_zero, .inr ⟨neg_zero, by linarith⟩⟩)
      · simp at h
      · exact .inl (.inr ⟨rfl, .inr ⟨rfl, hB⟩⟩)
    · exact .inl (.inr ⟨rfl, .inl hA⟩)
  · exact .inl (.inl hw)

theorem eventually_neg_of_lexPos_neg {w A B : ℝ} (h : LexPos (-w) (-A) (-B)) :
    ∀ᶠ e in 𝓝[>] (0 : ℝ), w + e * A + e ^ 2 * B < 0 :=
  (eventually_pos_of_lexPos h).mono fun e he => by linarith

/-- A coefficient triple that is not all zero, nonnegative for arbitrarily small `e`, is
lexicographically positive. -/
theorem lexPos_of_frequently_nonneg {w A B : ℝ} (hAB : A ≠ 0 ∨ B ≠ 0)
    (h : ∃ᶠ e in 𝓝[>] (0 : ℝ), 0 ≤ w + e * A + e ^ 2 * B) : LexPos w A B := by
  rcases lexPos_or_neg hAB with hp | hn
  · exact hp
  · obtain ⟨e, h1, h2⟩ := (h.and_eventually (eventually_neg_of_lexPos_neg hn)).exists
    exact absurd h1 (not_le.2 h2)

theorem eventually_edge_pos {a b : ℝ × ℝ} {x y : ℕ} (h : CoversR a b x y) :
    ∀ᶠ e in 𝓝[>] (0 : ℝ), 0 < edgeR a b (nudged x y e) := by
  simp only [edgeR_nudged]
  exact eventually_pos_of_lexPos h

theorem coversR_of_frequently {a b : ℝ × ℝ} (hab : a ≠ b) {x y : ℕ}
    (h : ∃ᶠ e in 𝓝[>] (0 : ℝ), 0 ≤ edgeR a b (nudged x y e)) : CoversR a b x y := by
  simp only [edgeR_nudged] at h
  exact lexPos_of_frequently_nonneg (normal_ne_zero hab) h

/-- The moved centre leaves every line for all small `e`. -/
theorem eventually_not_mem_line {u v : ℝ × ℝ} (huv : u ≠ v) (x y : ℕ) :
    ∀ᶠ e in 𝓝[>] (0 : ℝ), edgeR u v (nudged x y e) ≠ 0 := by
  simp only [edgeR_nudged]
  rcases lexPos_or_neg (w := edgeR u v (centre x y)) (normal_ne_zero huv) with hp | hn
  · exact (eventually_pos_of_lexPos hp).mono fun e he => he.ne'
  · exact (eventually_neg_of_lexPos_neg hn).mono fun e he => he.ne

/-! ### Triangles -/

section Triangle

variable {a b c : ℝ × ℝ}

/-- **A triangle of positive area lies on the inner side of each of its edges.** -/
theorem convexHull_subset_edges (h : 0 < edgeR a b c) :
    convexHull ℝ {a, b, c} ⊆ {p | 0 ≤ edgeR b c p ∧ 0 ≤ edgeR c a p ∧ 0 ≤ edgeR a b p} := by
  obtain ⟨h1, h2⟩ := edgeR_cycle a b c
  refine convexHull_min ?_
    ((convex_edgeR_nonneg b c).inter ((convex_edgeR_nonneg c a).inter (convex_edgeR_nonneg a b)))
  -- each corner is on the two edges through it and inside the third
  simp only [insert_subset_iff, singleton_subset_iff, mem_ofPred_eq, edgeR_self_left,
    edgeR_self_right, h1, h2, le_refl, h.le, and_self]

/-- A point on the inner side of each edge of a triangle of positive area lies in it: it is
the combination of the corners weighted by its edge functions. -/
theorem mem_convexHull_of_edges (h : 0 < edgeR a b c) {p : ℝ × ℝ}
    (hp : 0 ≤ edgeR b c p ∧ 0 ≤ edgeR c a p ∧ 0 ≤ edgeR a b p) :
    p ∈ convexHull ℝ {a, b, c} := by
  have hA := h.ne'
  have hw : ∀ i ∈ (Finset.univ : Finset (Fin 3)),
      0 ≤ ![edgeR b c p / edgeR a b c, edgeR c a p / edgeR a b c, edgeR a b p / edgeR a b c] i := by
    intro i _
    fin_cases i <;> simp only [Fin.zero_eta, Fin.mk_one, Fin.reduceFinMk, Matrix.cons_val] <;>
      exact div_nonneg (by linarith [hp.1, hp.2.1, hp.2.2]) h.le
  have hsum : ∑ i, ![edgeR b c p / edgeR a b c, edgeR c a p / edgeR a b c,
      edgeR a b p / edgeR a b c] i = 1 := by
    simp only [Fin.sum_univ_three, Matrix.cons_val]
    field_simp
    simp only [edgeR]
    ring
  have hz : ∀ i ∈ (Finset.univ : Finset (Fin 3)), ![a, b, c] i ∈ convexHull ℝ {a, b, c} := by
    intro i _
    apply subset_convexHull
    fin_cases i <;> simp
  have hmem := (convex_convexHull ℝ ({a, b, c} : Set (ℝ × ℝ))).sum_mem hw hsum hz
  convert hmem using 1
  simp only [Fin.sum_univ_three, Matrix.cons_val]
  ext <;> simp only [Prod.fst_add, Prod.snd_add, Prod.smul_fst, Prod.smul_snd, smul_eq_mul] <;>
    field_simp <;> simp only [edgeR] <;> ring

theorem isOpen_edges_pos :
    IsOpen {p | 0 < edgeR b c p ∧ 0 < edgeR c a p ∧ 0 < edgeR a b p} :=
  (isOpen_lt continuous_const (continuous_edgeR b c)).inter
    ((isOpen_lt continuous_const (continuous_edgeR c a)).inter
      (isOpen_lt continuous_const (continuous_edgeR a b)))

/-- The points strictly inside each edge of a triangle of positive area lie in its interior. -/
theorem edges_pos_subset_interior (h : 0 < edgeR a b c) :
    {p | 0 < edgeR b c p ∧ 0 < edgeR c a p ∧ 0 < edgeR a b p} ⊆
      interior (convexHull ℝ {a, b, c}) :=
  interior_maximal (fun _ hp => mem_convexHull_of_edges h ⟨hp.1.le, hp.2.1.le, hp.2.2.le⟩)
    isOpen_edges_pos

theorem corners_ne_of_pos (h : 0 < edgeR a b c) : b ≠ c ∧ c ≠ a ∧ a ≠ b := by
  refine ⟨fun hbc => ?_, fun hca => ?_, fun hab => ?_⟩
  · rw [hbc, edgeR_self_right] at h
    exact lt_irrefl 0 h
  · rw [hca, edgeR_self_left] at h
    exact lt_irrefl 0 h
  · rw [hab, edgeR_self] at h
    exact lt_irrefl 0 h

/-- A triangle lies in the box of its corners. -/
theorem convexHull_subset_box (a b c : ℝ × ℝ) :
    convexHull ℝ {a, b, c} ⊆ {p | min (min a.1 b.1) c.1 ≤ p.1 ∧ p.1 ≤ max (max a.1 b.1) c.1 ∧
      min (min a.2 b.2) c.2 ≤ p.2 ∧ p.2 ≤ max (max a.2 b.2) c.2} := by
  refine convexHull_min ?_ ((convex_halfSpace_ge (LinearMap.fst ℝ ℝ ℝ).isLinear _).inter
    ((convex_halfSpace_le (LinearMap.fst ℝ ℝ ℝ).isLinear _).inter
      ((convex_halfSpace_ge (LinearMap.snd ℝ ℝ ℝ).isLinear _).inter
        (convex_halfSpace_le (LinearMap.snd ℝ ℝ ℝ).isLinear _))))
  simp only [insert_subset_iff, singleton_subset_iff, mem_ofPred_eq]
  refine ⟨⟨?_, ?_, ?_, ?_⟩, ⟨?_, ?_, ?_, ?_⟩, ?_, ?_, ?_, ?_⟩ <;> simp

/-- A moved centre that meets a triangle of positive area for arbitrarily small `e` is let in
by each of its edges. -/
theorem coversR_of_frequently_mem (h : 0 < edgeR a b c) {x y : ℕ}
    (hf : ∃ᶠ e in 𝓝[>] (0 : ℝ), nudged x y e ∈ convexHull ℝ {a, b, c}) :
    CoversR b c x y ∧ CoversR c a x y ∧ CoversR a b x y := by
  obtain ⟨hbc, hca, hab⟩ := corners_ne_of_pos h
  have hsub := convexHull_subset_edges h
  exact ⟨coversR_of_frequently hbc (hf.mono fun e he => (hsub he).1),
    coversR_of_frequently hca (hf.mono fun e he => (hsub he).2.1),
    coversR_of_frequently hab (hf.mono fun e he => (hsub he).2.2)⟩

/-- **The top-left rule in the plane.**  For a triangle of positive area, the centre moved by
`(e, e ^ 2)` lies in the interior for all small `e > 0` exactly when each edge lets the centre
in. -/
theorem eventually_interior_iff (h : 0 < edgeR a b c) (x y : ℕ) :
    (∀ᶠ e in 𝓝[>] (0 : ℝ), nudged x y e ∈ interior (convexHull ℝ {a, b, c})) ↔
      CoversR b c x y ∧ CoversR c a x y ∧ CoversR a b x y := by
  constructor
  · intro he
    exact coversR_of_frequently_mem h (he.mono fun e he => interior_subset he).frequently
  · rintro ⟨hbc, hca, hab⟩
    filter_upwards [eventually_edge_pos hbc, eventually_edge_pos hca, eventually_edge_pos hab]
      with e h1 h2 h3
    exact edges_pos_subset_interior h ⟨h1, h2, h3⟩

/-- A triangle of zero area lies on a line through two distinct points. -/
theorem exists_line_of_degenerate (h : edgeR a b c = 0) :
    ∃ u v, u ≠ v ∧ convexHull ℝ {a, b, c} ⊆ {p | edgeR u v p = 0} := by
  -- the line through two distinct corners, or any line through a single point
  have hline : ∀ u v, u ≠ v → {a, b, c} ⊆ {p | edgeR u v p = 0} →
      ∃ u v, u ≠ v ∧ convexHull ℝ {a, b, c} ⊆ {p | edgeR u v p = 0} :=
    fun u v huv hs => ⟨u, v, huv, convexHull_min hs (convex_edgeR_zero u v)⟩
  by_cases hab : a = b
  · subst hab
    by_cases hac : a = c
    · subst hac
      refine hline a (a + (1, 0)) (by simp) ?_
      simp only [insert_subset_iff, singleton_subset_iff, mem_ofPred_eq, edgeR_self_left,
        and_self]
    · refine hline a c hac ?_
      simp only [insert_subset_iff, singleton_subset_iff, mem_ofPred_eq, edgeR_self_left,
        edgeR_self_right, and_self]
  · refine hline a b hab ?_
    simp only [insert_subset_iff, singleton_subset_iff, mem_ofPred_eq, edgeR_self_left,
      edgeR_self_right, h, and_self]

/-- **For every triangle the moved centre settles**: for all small `e` it lies in the interior,
or for all small `e` outside the triangle. -/
theorem eventually_interior_or_not_mem (a b c : ℝ × ℝ) (x y : ℕ) :
    (∀ᶠ e in 𝓝[>] (0 : ℝ), nudged x y e ∈ interior (convexHull ℝ {a, b, c})) ∨
      ∀ᶠ e in 𝓝[>] (0 : ℝ), nudged x y e ∉ convexHull ℝ {a, b, c} := by
  -- a triangle of positive area, its corners in either sense
  have hpos : ∀ {a b c : ℝ × ℝ}, 0 < edgeR a b c →
      (∀ᶠ e in 𝓝[>] (0 : ℝ), nudged x y e ∈ interior (convexHull ℝ {a, b, c})) ∨
        ∀ᶠ e in 𝓝[>] (0 : ℝ), nudged x y e ∉ convexHull ℝ {a, b, c} := by
    intro a b c h
    by_cases hf : ∃ᶠ e in 𝓝[>] (0 : ℝ), nudged x y e ∈ convexHull ℝ {a, b, c}
    · exact .inl ((eventually_interior_iff h x y).2 (coversR_of_frequently_mem h hf))
    · exact .inr (not_frequently.1 hf)
  rcases lt_trichotomy (edgeR a b c) 0 with h | h | h
  · rw [show ({a, b, c} : Set (ℝ × ℝ)) = {a, c, b} by rw [pair_comm]]
    exact hpos (by rw [edgeR_swap]; linarith)
  · obtain ⟨u, v, huv, hsub⟩ := exists_line_of_degenerate h
    exact .inr ((eventually_not_mem_line huv x y).mono fun e he hm => he (hsub hm))
  · exact hpos h

end Triangle

end TegraGpu.Raster
