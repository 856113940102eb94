import Mathlib
import TegraGpu.Binary32.Nearest
/-!
# Rounding a fraction to the nearest number

`Precision.nearest` reads the binade of `num / den` off the bit lengths of `num` and `den` and
one comparison with a power of two, scales the fraction to units in the last place of that
binade, and rounds the quotient with halves to even.  In the normal range this is rounding to
the nearest number of the format: when `num / den` lies in the binade `[2 ^ (f + k),
2 ^ (f + k + 1))`, at less than half a unit `2 ^ k` from `q · 2 ^ k` with `q < 2 ^ (f + 1)`,
`nearest` gives the bits of `q · 2 ^ k`.

* `atLeastPow_iff` : the comparison with a power of two.
* `log_eq_of_binade`, `binade_of_bits` : the bit lengths bracket the exponent of the fraction
  within one, and the comparison settles it.
* `near_of_scaled`, `rounds_to_of_near` : a quotient within a half of `q` rounds to `q`.
* `nearest_of_near` : **the bits of the nearest number of the format.**
-/

namespace TegraGpu.Binary32

/-! ### The binade of a fraction -/

theorem atLeastPow_iff {num den : Nat} (hden : 0 < den) (b : Int) :
    atLeastPow num den b = true ↔ (2 : ℚ) ^ b ≤ num / den := by
  have hd : (0 : ℚ) < den := by exact_mod_cast hden
  rw [le_div_iff₀ hd]
  cases b with
  | ofNat k =>
    rw [Int.ofNat_eq_natCast, zpow_natCast, mul_comm]
    simp only [atLeastPow, decide_eq_true_eq, Nat.pow_eq]
    exact_mod_cast Iff.rfl
  | negSucc k =>
    rw [zpow_negSucc, inv_mul_le_iff₀ (by positivity), mul_comm]
    simp only [atLeastPow, decide_eq_true_eq, Nat.pow_eq]
    exact_mod_cast Iff.rfl

/-- The exponent of a number in the binade `[2 ^ z, 2 ^ (z + 1))` is `z`. -/
theorem log_eq_of_binade {x : ℚ} {z : Int} (hlo : (2 : ℚ) ^ z ≤ x) (hhi : x < 2 ^ (z + 1)) :
    Int.log 2 x = z := by
  have hx : 0 < x := lt_of_lt_of_le (by positivity) hlo
  have h₁ : z ≤ Int.log 2 x := (Int.zpow_le_iff_le_log (by norm_num) hx).1 (by exact_mod_cast hlo)
  have h₂ : Int.log 2 x < z + 1 :=
    (Int.lt_zpow_iff_log_lt (by norm_num) hx).1 (by exact_mod_cast hhi)
  omega

/-- **The binade that `nearest` finds** is the exponent of the fraction: the bit lengths of
`num` and `den` give it within one, and the comparison with that power of two settles it. -/
theorem binade_of_bits {num den : Nat} (hnum : 0 < num) (hden : 0 < den) :
    (if atLeastPow num den ((Nat.log2 num : Int) - Nat.log2 den) then
        (Nat.log2 num : Int) - Nat.log2 den
      else (Nat.log2 num : Int) - Nat.log2 den - 1) = Int.log 2 ((num : ℚ) / den) := by
  set b : Int := (Nat.log2 num : Int) - Nat.log2 den with hb
  have hd : (0 : ℚ) < den := by exact_mod_cast hden
  have hpow (j : Nat) : (2 : ℚ) ^ (j : Int) = ((2 ^ j : Nat) : ℚ) := by
    rw [zpow_natCast]
    push_cast
    rfl
  -- `2 ^ log2 n ≤ n < 2 ^ (log2 n + 1)`, for the numerator and the denominator
  have hn₁ : (2 : ℚ) ^ (Nat.log2 num : Int) ≤ num := by
    rw [hpow]
    exact_mod_cast Nat.log2_self_le hnum.ne'
  have hn₂ : (num : ℚ) < 2 ^ ((Nat.log2 num + 1 : Nat) : Int) := by
    rw [hpow]
    exact_mod_cast Nat.lt_log2_self
  have hd₁ : (2 : ℚ) ^ (Nat.log2 den : Int) ≤ den := by
    rw [hpow]
    exact_mod_cast Nat.log2_self_le hden.ne'
  have hd₂ : (den : ℚ) < 2 ^ ((Nat.log2 den + 1 : Nat) : Int) := by
    rw [hpow]
    exact_mod_cast Nat.lt_log2_self
  have hhi : (num : ℚ) / den < 2 ^ (b + 1) := by
    rw [div_lt_iff₀ hd]
    calc (num : ℚ) < 2 ^ ((Nat.log2 num + 1 : Nat) : Int) := hn₂
      _ = 2 ^ (b + 1) * 2 ^ (Nat.log2 den : Int) := by
        rw [← zpow_add₀ two_ne_zero]
        congr 1
        omega
      _ ≤ 2 ^ (b + 1) * den := by gcongr
  have hlo : (2 : ℚ) ^ (b - 1) < num / den := by
    rw [lt_div_iff₀ hd]
    calc (2 : ℚ) ^ (b - 1) * den < 2 ^ (b - 1) * 2 ^ ((Nat.log2 den + 1 : Nat) : Int) := by
          gcongr
      _ = 2 ^ (Nat.log2 num : Int) := by
        rw [← zpow_add₀ two_ne_zero]
        congr 1
        omega
      _ ≤ num := hn₁
  by_cases h : atLeastPow num den b = true
  · rw [if_pos h]
    exact (log_eq_of_binade ((atLeastPow_iff hden b).1 h) hhi).symm
  · rw [if_neg h]
    have hbelow : (num : ℚ) / den < 2 ^ (b - 1 + 1) := by
      rw [sub_add_cancel]
      exact lt_of_not_ge fun h' => h ((atLeastPow_iff hden b).2 h')
    exact (log_eq_of_binade hlo.le hbelow).symm

/-! ### Rounding the scaled fraction -/

/-- A fraction within half a unit `2 ^ k` of `q · 2 ^ k`, scaled to units of `2 ^ k` as `n / d`,
puts `2 n` within `d` of `2 q d`. -/
theorem near_of_scaled {x : ℚ} {k : Int} {n d q : Nat} (hd : 0 < d)
    (hs : (n : ℚ) / d = x / 2 ^ k) (hnear : |x - q * 2 ^ k| < 2 ^ k / 2) :
    2 * (q * d) < 2 * n + d ∧ 2 * n < 2 * (q * d) + d := by
  have hk : (0 : ℚ) < 2 ^ k := by positivity
  have hd' : (0 : ℚ) < d := by exact_mod_cast hd
  -- in units of `2 ^ k` the distance to `q` is below a half
  have hnq : |(n : ℚ) / d - q| < 1 / 2 := by
    have hdiv : x / 2 ^ k - q = (x - q * 2 ^ k) / 2 ^ k := by
      field_simp
    rw [hs, hdiv, abs_div, abs_of_pos hk, div_lt_iff₀ hk]
    linarith
  obtain ⟨h₁, h₂⟩ := abs_sub_lt_iff.1 hnq
  have hn : (n : ℚ) / d * d = n := div_mul_cancel₀ _ hd'.ne'
  constructor
  · have : (2 * (q * d) : ℚ) < 2 * n + d := by nlinarith
    exact_mod_cast this
  · have : (2 * n : ℚ) < 2 * (q * d) + d := by nlinarith
    exact_mod_cast this

/-- **Halves to even leave a near quotient alone**: `n / d` rounds to `q` when `2 n` lies within
`d` of `2 q d`. -/
theorem rounds_to_of_near {n d q : Nat} (hd : 0 < d) (hlo : 2 * (q * d) < 2 * n + d)
    (hhi : 2 * n < 2 * (q * d) + d) :
    (if (decide (d < 2 * (n % d)) || (decide (2 * (n % d) = d) && n / d % 2 == 1)) = true then
      n / d + 1 else n / d) = q := by
  have hmod := Nat.div_add_mod n d
  have hlt := Nat.mod_lt n hd
  rw [Nat.mul_comm] at hmod
  rcases Nat.lt_or_ge n (q * d) with hn | hn
  · -- below `q d`: the quotient is `q - 1`, and the remainder past a half rounds it up
    obtain ⟨p, rfl⟩ : ∃ p, q = p + 1 := ⟨q - 1, by cases q <;> simp_all⟩
    have hsucc : (p + 1) * d = p * d + d := Nat.succ_mul p d
    rw [hsucc] at hlo hhi hn
    have hq : n / d = p := Nat.div_eq_of_lt_le (by omega) (by rw [hsucc]; omega)
    rw [hq] at hmod ⊢
    have hup : d < 2 * (n % d) := by omega
    simp [hup]
  · -- at or past `q d`: the quotient is `q`, and the remainder short of a half
    have hq : n / d = q := Nat.div_eq_of_lt_le hn (by rw [Nat.succ_mul]; omega)
    rw [hq] at hmod ⊢
    have hup : ¬ d < 2 * (n % d) := by omega
    have htie : ¬ 2 * (n % d) = d := by omega
    simp [hup, htie]

/-! ### The nearest number -/

/-- **The bits of the nearest number.**  A fraction in the binade `[2 ^ (f + k), 2 ^ (f + k + 1))`
of the normal range, at less than half a unit `2 ^ k` from `q · 2 ^ k` with `q < 2 ^ (f + 1)`,
is given the bits of `q · 2 ^ k`: the exponent `k` counted from the least, above the bits of `q`,
whose leading bit lands in the exponent field.  That `q` has its leading bit follows from the
binade. -/
theorem nearest_of_near (p : Precision) {num den q : Nat} {k : Int} (hden : 0 < den)
    (hq : q < 2 ^ (p.fraction + 1)) (hleast : p.least ≤ k)
    (htop : k < p.top) (hbinade : (2 : ℚ) ^ (p.fraction + k) ≤ num / den)
    (hnear : |(num : ℚ) / den - q * 2 ^ k| < 2 ^ k / 2) :
    p.nearest num den = (k - p.least).toNat * 2 ^ p.fraction + q := by
  have hxpos : (0 : ℚ) < num / den := lt_of_lt_of_le (by positivity) hbinade
  have hnum : 0 < num := by
    rcases Nat.eq_zero_or_pos num with h | h
    · simp [h] at hxpos
    · exact h
  -- the fraction stays below the next binade, since `q` is short of `2 ^ (f + 1)`
  have hupper : (num : ℚ) / den < 2 ^ ((p.fraction : Int) + k + 1) := by
    have hq₁ : (q : ℚ) + 1 ≤ 2 ^ (p.fraction + 1) := by exact_mod_cast hq
    have hk : (0 : ℚ) < 2 ^ k := by positivity
    calc (num : ℚ) / den < q * 2 ^ k + 2 ^ k / 2 := by linarith [(abs_sub_lt_iff.1 hnear).1]
      _ < (q + 1) * 2 ^ k := by linarith
      _ ≤ 2 ^ (p.fraction + 1) * 2 ^ k := by gcongr
      _ = 2 ^ ((p.fraction : Int) + k + 1) := by
        rw [← zpow_natCast, ← zpow_add₀ two_ne_zero]
        congr 1
        push_cast
        ring
  have hscale : max (Int.log 2 ((num : ℚ) / den) - p.fraction) p.least = k := by
    rw [log_eq_of_binade hbinade hupper, add_sub_cancel_left]
    exact max_eq_left hleast
  unfold Precision.nearest
  dsimp only
  rw [binade_of_bits hnum hden, hscale]
  -- scaled to units of `2 ^ k`, the fraction is `n / d`, which rounds to `q` without a carry
  have hcarry : ¬ q = 2 ^ (p.fraction + 1) := by omega
  rcases k with j | j
  · have hs : ((num : Nat) : ℚ) / ((den * 2 ^ j : Nat) : ℚ) = num / den / 2 ^ (Int.ofNat j) := by
      rw [Int.ofNat_eq_natCast, zpow_natCast, div_div]
      push_cast
      rfl
    obtain ⟨hlo, hhi⟩ := near_of_scaled (by positivity) hs hnear
    dsimp only
    simp only [Nat.pow_eq]
    rw [rounds_to_of_near (by positivity) hlo hhi, if_neg hcarry]
    dsimp only
    rw [if_neg (not_le.2 htop)]
  · have hs : ((num * 2 ^ (j + 1) : Nat) : ℚ) / (den : ℚ) = num / den / 2 ^ (Int.negSucc j) := by
      rw [zpow_negSucc, div_inv_eq_mul]
      push_cast
      ring
    obtain ⟨hlo, hhi⟩ := near_of_scaled hden hs hnear
    dsimp only
    simp only [Nat.pow_eq]
    rw [rounds_to_of_near hden hlo hhi, if_neg hcarry]
    dsimp only
    rw [if_neg (not_le.2 htop)]

example : single.nearest 1 1 = 0x3F800000 := by decide

example : single.nearest 1 10 = 0x3DCCCCCD := by decide

end TegraGpu.Binary32
