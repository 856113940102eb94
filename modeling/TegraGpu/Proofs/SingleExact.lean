import Mathlib
import TegraGpu.Proofs.SingleValue
/-!
# Exact single-precision arithmetic

Rounding changes nothing when the exact result already has a canonical form: its mantissa
below `2 ^ 24`, its exponent between `-149` and `104`.  The arithmetic model lines the exact
mantissa up with the exponent of that form, shifting out only zero bits, and rounds nothing
away.  So differences, sums and products of numbers, and conversions of small whole numbers,
give exactly the rational result whenever that result is representable; in particular
whenever it is a whole or half number below `2 ^ 23`.

* `Represents`, `Representable` : a canonical unpacked number standing for a rational.
* `roundWithAccuracy_exact`, `round_exact` : rounding a representable value returns its
  canonical form.
* `sub_represents`, `add_represents`, `mul_represents`, `ofNat_represents` : the exact
  operations of the arithmetic model.
* `valueOf_sub`, `valueOf_add`, `valueOf_mul`, `valueOf_toFloat32` : the same for numbers.
-/

namespace TegraGpu.Binary32

open Float.Model.UnpackedFloat
open Float.Model (UnpackedFloat)

/-- A canonical unpacked number standing for the rational `p`. -/
def Represents (u : UnpackedFloat) (p : ℚ) : Prop := Canon u ∧ unpackedValue u = some p

/-- A rational that some single-precision number stands for exactly. -/
def Representable (p : ℚ) : Prop := ∃ u, Represents u p

/-! ### Shifting mantissas -/

theorem log2_mul_two_pow {n : Nat} (hn : n ≠ 0) (k : Nat) : (n * 2 ^ k).log2 = n.log2 + k := by
  induction k with
  | zero => simp
  | succ k ih =>
    have hk : n * 2 ^ k ≠ 0 := Nat.mul_ne_zero hn (by positivity)
    rw [pow_succ, ← Nat.mul_assoc, Nat.mul_comm _ 2, Nat.log2_two_mul hk, ih, Nat.add_assoc]

/-- Shifting out zero bits loses nothing. -/
theorem shiftRight_exact (M j : Nat) :
    ExtendedMantissa.ofMantissaAndAccuracy (M * 2 ^ j) .exact >>> j =
      ExtendedMantissa.ofMantissaAndAccuracy M .exact := by
  show j.repeat ExtendedMantissa.shiftRightOne _ = _
  induction j generalizing M with
  | zero => simp [Nat.repeat]
  | succ j ih =>
    rw [Nat.repeat, pow_succ', ← Nat.mul_assoc, ih]
    simp [ExtendedMantissa.shiftRightOne, ExtendedMantissa.ofMantissaAndAccuracy]

theorem shiftRight_zero (em : ExtendedMantissa) : em >>> 0 = em := rfl

theorem roundedMantissa_exact (M : Nat) :
    (ExtendedMantissa.ofMantissaAndAccuracy M .exact).roundedMantissa = M := rfl

/-! ### Equal values -/

/-- Of two mantissas standing for one value, the one with the smaller exponent is the other
shifted up. -/
theorem nat_eq_of_value_eq {m n : Nat} {e t : Int} (h : (m : ℚ) * 2 ^ e = n * 2 ^ t)
    (het : e ≤ t) : m = n * 2 ^ (t - e).toNat := by
  have hk : ((t - e).toNat : Int) = t - e := Int.toNat_of_nonneg (by omega)
  have hq : (m : ℚ) = n * 2 ^ (t - e).toNat := by
    rw [← zpow_natCast, hk, zpow_sub₀ two_ne_zero, ← mul_div_assoc, ← h,
      mul_div_cancel_right₀ _ (zpow_ne_zero e two_ne_zero)]
  exact_mod_cast hq

theorem totalExponent_of_value_eq {m n : Nat} {e t : Int} (hm : 0 < m) (hn : 0 < n)
    (h : (m : ℚ) * 2 ^ e = n * 2 ^ t) : Float.Model.totalExponent m e =
      Float.Model.totalExponent n t := by
  unfold Float.Model.totalExponent
  rcases le_total e t with het | het
  · rw [nat_eq_of_value_eq h het, log2_mul_two_pow hn.ne']
    omega
  · rw [nat_eq_of_value_eq h.symm het, log2_mul_two_pow hm.ne']
    omega

/-- The exponent that rounding aims at is the exponent of the canonical form. -/
theorem targetExponent_canonical {n : Nat} {t : Int} (hn : 0 < n) (hc : Canonical n t) :
    Float.Model.Format.binary32.targetExponent (Float.Model.totalExponent n t) = t := by
  obtain ⟨hlt, hlo, -, hnorm⟩ := hc
  have hlog : n.log2 < 24 := (Nat.log2_lt hn.ne').2 hlt
  unfold Float.Model.Format.targetExponent Float.Model.totalExponent
  show max (_ - 24) (-149) = t
  rcases hnorm with hnorm | rfl
  · have h23 : 23 ≤ n.log2 := (Nat.le_log2 hn.ne').2 hnorm
    omega
  · omega

/-! ### Exact rounding -/

/-- **Rounding a representable value from below its exponent gives its canonical form.** -/
theorem roundWithAccuracy_exact (s : Sign) {m : Nat} {e : Int} (hm : 0 < m) {n : Nat} {t : Int}
    (hn : 0 < n) (hc : Canonical n t) (hv : (m : ℚ) * 2 ^ e = n * 2 ^ t)
    (he : e ≤ Float.Model.Format.binary32.targetExponent (Float.Model.totalExponent m e)) :
    roundWithAccuracy .binary32 s m e .exact = .finite s n t hn := by
  have ht : Float.Model.Format.binary32.targetExponent (Float.Model.totalExponent m e) = t := by
    rw [totalExponent_of_value_eq hm hn hv, targetExponent_canonical hn hc]
  rw [ht] at he
  have hk : e + ((t - e).toNat : Int) = t := by omega
  unfold roundWithAccuracy shiftToTargetExponent shiftToExponent
  dsimp only
  -- the first shift takes out exactly the zero bits the mantissa has beyond the canonical one
  rw [ht, nat_eq_of_value_eq hv he, shiftRight_exact]
  simp only [roundedMantissa_exact, hk, targetExponent_canonical hn hc, Int.sub_self,
    Int.toNat_zero, shiftRight_zero, Nat.cast_zero, Int.add_zero]
  exact dif_neg hn.ne'

/-- The shift up that `round` makes first keeps the value. -/
theorem decreaseExponent_value (m : Nat) (e t : Int) :
    ((decreaseExponent m e t).1 : ℚ) * 2 ^ (decreaseExponent m e t).2 = m * 2 ^ e := by
  simp only [decreaseExponent, Nat.shiftLeft_eq, Nat.cast_mul, Nat.cast_pow, Nat.cast_ofNat]
  rw [← zpow_natCast, mul_assoc, ← zpow_add₀ two_ne_zero]
  congr 2
  omega

/-- **Rounding a representable value gives its canonical form.** -/
theorem round_exact (s : Sign) {m : Nat} {e : Int} (hm : 0 < m) {n : Nat} {t : Int}
    (hn : 0 < n) (hc : Canonical n t) (hv : (m : ℚ) * 2 ^ e = n * 2 ^ t) :
    UnpackedFloat.round .binary32 s m e = .finite s n t hn := by
  have ht : Float.Model.Format.binary32.targetExponent (Float.Model.totalExponent m e) = t := by
    rw [totalExponent_of_value_eq hm hn hv, targetExponent_canonical hn hc]
  unfold UnpackedFloat.round
  dsimp only
  rw [ht]
  -- the mantissa shifted up to the canonical exponent when it lies above it
  have hdv := (decreaseExponent_value m e t).trans hv
  have hdm : 0 < (decreaseExponent m e t).1 := by
    simp only [decreaseExponent, Nat.shiftLeft_eq]
    positivity
  have hde : (decreaseExponent m e t).2 ≤ t := by
    simp only [decreaseExponent]
    omega
  refine roundWithAccuracy_exact s hdm hn hc hdv ?_
  rwa [totalExponent_of_value_eq hdm hn hdv, targetExponent_canonical hn hc]

/-! ### Numbers standing for a rational -/

theorem represents_zero (s : Sign) : Represents (.zero s) 0 := ⟨trivial, rfl⟩

theorem represents_finite (s : Sign) {n : Nat} {t : Int} (hn : 0 < n) (hc : Canonical n t) :
    Represents (.finite s n t hn) ((s.apply n : ℚ) * 2 ^ t) := ⟨hc, rfl⟩

/-- A canonical number standing for a rational is a zero standing for zero, or a finite
number. -/
theorem Represents.cases {u : UnpackedFloat} {p : ℚ} (h : Represents u p) :
    (∃ s, u = .zero s ∧ p = 0) ∨
      ∃ s m e, ∃ hm : 0 < m, u = .finite s m e hm ∧ Canonical m e ∧
        p = (s.apply m : ℚ) * 2 ^ e := by
  obtain ⟨hc, hv⟩ := h
  cases u with
  | notANumber => cases hv
  | infinity _ => cases hv
  | zero s =>
    cases hv
    exact .inl ⟨s, rfl, rfl⟩
  | finite s m e hm =>
    cases hv
    exact .inr ⟨s, m, e, hm, rfl, hc, rfl⟩

theorem signed_value_eq_iff {s s' : Sign} {m n : Nat} {e t : Int} (hm : 0 < m) (hn : 0 < n) :
    (s.apply m : ℚ) * 2 ^ e = s'.apply n * 2 ^ t ↔ s = s' ∧ (m : ℚ) * 2 ^ e = n * 2 ^ t := by
  have hp := finite_value_pos m e hm
  have hq := finite_value_pos n t hn
  cases s <;> cases s' <;>
    simp only [Sign.apply, Int.cast_neg, Int.cast_natCast, neg_mul, neg_inj, true_and,
      reduceCtorEq, false_and, iff_false]
  · linarith
  · linarith

/-- A nonzero representable value has a canonical form of its own sign. -/
theorem canonical_of_representable (s : Sign) {m : Nat} (hm : 0 < m) (e : Int)
    (hr : Representable ((s.apply m : ℚ) * 2 ^ e)) :
    ∃ n t, 0 < n ∧ Canonical n t ∧ (m : ℚ) * 2 ^ e = n * 2 ^ t := by
  obtain ⟨u, hu⟩ := hr
  rcases hu.cases with ⟨-, -, h0⟩ | ⟨s', n, t, hn, -, hc, hv⟩
  · exact absurd h0 (finite_value_ne_zero s m e hm)
  · exact ⟨n, t, hn, hc, ((signed_value_eq_iff hm hn).1 hv).2⟩

/-- Rounding a nonzero representable value gives a canonical number standing for it. -/
theorem round_represents (s : Sign) {m : Nat} (hm : 0 < m) (e : Int)
    (hr : Representable ((s.apply m : ℚ) * 2 ^ e)) :
    Represents (UnpackedFloat.round .binary32 s m e) ((s.apply m : ℚ) * 2 ^ e) := by
  obtain ⟨n, t, hn, hc, hv⟩ := canonical_of_representable s hm e hr
  rw [round_exact s hm hn hc hv, (signed_value_eq_iff hm hn).2 ⟨rfl, hv⟩]
  exact represents_finite s hn hc

/-- **Normalizing a representable value gives a canonical number standing for it.** -/
theorem normalize_represents (N e : Int) (z : Sign) (hr : Representable ((N : ℚ) * 2 ^ e)) :
    Represents (UnpackedFloat.normalize .binary32 N e z) ((N : ℚ) * 2 ^ e) := by
  unfold UnpackedFloat.normalize
  rcases lt_trichotomy N 0 with hN | rfl | hN
  · rw [Int.compare_eq_lt.2 hN]
    have hv : Sign.negative.apply ((-N).toNat : Int) = N := by
      simp only [Sign.apply]
      omega
    have h := round_represents .negative (m := (-N).toNat) (by omega) e (by rwa [hv])
    rwa [hv] at h
  · rw [Int.cast_zero, zero_mul]
    exact represents_zero z
  · rw [Int.compare_eq_gt.2 hN]
    have hv : Sign.positive.apply (N.toNat : Int) = N := by
      simp only [Sign.apply]
      omega
    have h := round_represents .positive (m := N.toNat) (by omega) e (by rwa [hv])
    rwa [hv] at h

/-! ### Exact operations -/

/-- Lining a mantissa up with a lower exponent keeps its signed value. -/
theorem aligned_value (s : Sign) (m : Nat) {e t : Int} (ht : t ≤ e) :
    (s.apply ((decreaseExponent m e t).1 : Int) : ℚ) * 2 ^ t = (s.apply m : ℚ) * 2 ^ e := by
  have he : (decreaseExponent m e t).2 = t := by
    simp only [decreaseExponent]
    omega
  have hv := decreaseExponent_value m e t
  rw [he] at hv
  cases s <;> simp only [Sign.apply, Int.cast_neg, Int.cast_natCast, neg_mul, hv]

/-- **A difference is exact when its value is representable**, zeros included. -/
theorem sub_represents {u v : UnpackedFloat} {p q : ℚ} (hu : Represents u p)
    (hv : Represents v q) (hr : Representable (p - q)) :
    Represents (sub .binary32 u v) (p - q) := by
  rcases hu.cases with ⟨s, rfl, rfl⟩ | ⟨s, m, e, hm, rfl, hcu, rfl⟩ <;>
    rcases hv.cases with ⟨s', rfl, rfl⟩ | ⟨s', m', e', hm', rfl, hcv, rfl⟩
  · -- two zeros give a zero
    rw [sub_zero]
    show Represents (if (s == -s') = true then .zero s else .zero .positive) 0
    split <;> exact represents_zero _
  · have h := represents_finite (-s') hm' hcv
    rwa [show ((-s').apply m' : ℚ) * 2 ^ e' = 0 - (s'.apply m' : ℚ) * 2 ^ e' by
      cases s' <;> simp [Sign.apply]] at h
  · rw [sub_zero]
    exact represents_finite s hm hcu
  · -- both lined up with the lower exponent, then normalized
    have hval : ((s.apply ((decreaseExponent m e (min e e')).1 : Int) -
        s'.apply ((decreaseExponent m' e' (min e e')).1 : Int) : Int) : ℚ) * 2 ^ (min e e') =
        (s.apply m : ℚ) * 2 ^ e - (s'.apply m' : ℚ) * 2 ^ e' := by
      rw [Int.cast_sub, sub_mul, aligned_value s m (min_le_left e e'),
        aligned_value s' m' (min_le_right e e')]
    rw [← hval] at hr ⊢
    exact normalize_represents _ _ _ hr

/-- A sum is exact when its value is representable, zeros included. -/
theorem add_represents {u v : UnpackedFloat} {p q : ℚ} (hu : Represents u p)
    (hv : Represents v q) (hr : Representable (p + q)) :
    Represents (add .binary32 u v) (p + q) := by
  rcases hu.cases with ⟨s, rfl, rfl⟩ | ⟨s, m, e, hm, rfl, hcu, rfl⟩ <;>
    rcases hv.cases with ⟨s', rfl, rfl⟩ | ⟨s', m', e', hm', rfl, hcv, rfl⟩
  · rw [add_zero]
    show Represents (if (s == s') = true then .zero s else .zero .positive) 0
    split <;> exact represents_zero _
  · rw [zero_add]
    exact represents_finite s' hm' hcv
  · rw [add_zero]
    exact represents_finite s hm hcu
  · have hval : ((s.apply ((decreaseExponent m e (min e e')).1 : Int) +
        s'.apply ((decreaseExponent m' e' (min e e')).1 : Int) : Int) : ℚ) * 2 ^ (min e e') =
        (s.apply m : ℚ) * 2 ^ e + (s'.apply m' : ℚ) * 2 ^ e' := by
      rw [Int.cast_add, add_mul, aligned_value s m (min_le_left e e'),
        aligned_value s' m' (min_le_right e e')]
    rw [← hval] at hr ⊢
    exact normalize_represents _ _ _ hr

/-- The exponents of two canonical factors add up to at most the exponent that rounding their
product aims at: the product of the mantissas has no bits below the canonical form's. -/
theorem mul_exponent_le {m m' : Nat} {e e' : Int} (hm : 0 < m) (hm' : 0 < m')
    (hc : Canonical m e) (hc' : Canonical m' e') :
    e + e' ≤ Float.Model.Format.binary32.targetExponent
      (Float.Model.totalExponent (m * m') (e + e')) := by
  have hp : m * m' ≠ 0 := (Nat.mul_pos hm hm').ne'
  unfold Float.Model.Format.targetExponent Float.Model.totalExponent
  show e + e' ≤ max (_ - 24) (-149)
  by_cases hn : 2 ^ 23 ≤ m * m'
  · have hl := (Nat.le_log2 hp).2 hn
    omega
  · -- a small product has two small factors, both at the least exponent
    have he : e = -149 :=
      hc.2.2.2.resolve_left fun h => hn (le_trans h (Nat.le_mul_of_pos_right m hm'))
    have he' : e' = -149 :=
      hc'.2.2.2.resolve_left fun h => hn (le_trans h (Nat.le_mul_of_pos_left m' hm))
    omega

/-- **A product is exact when its value is representable**, zeros included. -/
theorem mul_represents {u v : UnpackedFloat} {p q : ℚ} (hu : Represents u p)
    (hv : Represents v q) (hr : Representable (p * q)) :
    Represents (mul .binary32 u v) (p * q) := by
  rcases hu.cases with ⟨s, rfl, rfl⟩ | ⟨s, m, e, hm, rfl, hcu, rfl⟩ <;>
    rcases hv.cases with ⟨s', rfl, rfl⟩ | ⟨s', m', e', hm', rfl, hcv, rfl⟩
  · rw [zero_mul]
    exact represents_zero _
  · rw [zero_mul]
    exact represents_zero _
  · rw [mul_zero]
    exact represents_zero _
  · -- the product of the mantissas, rounded from the sum of the exponents
    have hmm := Nat.mul_pos hm hm'
    have hval : (((s * s').apply (m * m' : Nat) : Int) : ℚ) * 2 ^ (e + e') =
        (s.apply m : ℚ) * 2 ^ e * ((s'.apply m' : ℚ) * 2 ^ e') := by
      rw [zpow_add₀ two_ne_zero]
      cases s <;> cases s' <;> simp only [Sign.apply] <;> push_cast <;> ring
    rw [← hval] at hr ⊢
    obtain ⟨n, t, hn, hc, hnv⟩ := canonical_of_representable (s * s') hmm (e + e') hr
    show Represents (roundWithAccuracy .binary32 (s * s') (m * m') (e + e') .exact) _
    rw [roundWithAccuracy_exact (s * s') hmm hn hc hnv (mul_exponent_le hm hm' hcu hcv),
      (signed_value_eq_iff hmm hn).2 ⟨rfl, hnv⟩]
    exact represents_finite _ hn hc

/-- A representable whole number converts exactly. -/
theorem ofNat_represents {n : Nat} (hr : Representable n) : Represents (ofNat .binary32 n) n := by
  have h := normalize_represents (n : Int) 0 .positive
    (by rwa [zpow_zero, mul_one, Int.cast_natCast])
  rw [zpow_zero, mul_one, Int.cast_natCast] at h
  exact h

/-! ### Representable values -/

theorem shifted_value (M j : Nat) (E : Int) :
    ((M * 2 ^ j : Nat) : ℚ) * 2 ^ (E - j) = M * 2 ^ E := by
  rw [Nat.cast_mul, Nat.cast_pow, Nat.cast_ofNat, mul_assoc, ← zpow_natCast,
    ← zpow_add₀ two_ne_zero]
  congr 2
  omega

/-- **Whole multiples of a power of two are representable**, for a multiple below `2 ^ 24` and
an exponent from `-149` to `104`. -/
theorem representable_int_mul (k : Int) {E : Int} (hk : k.natAbs < 2 ^ 24) (hE : -149 ≤ E)
    (hE' : E ≤ 104) : Representable ((k : ℚ) * 2 ^ E) := by
  rcases eq_or_ne k 0 with rfl | hk0
  · refine ⟨.zero .positive, ?_⟩
    rw [Int.cast_zero, zero_mul]
    exact represents_zero _
  · -- the mantissa shifted up to its leading bit, as far as the least exponent allows
    have hM0 : k.natAbs ≠ 0 := Int.natAbs_ne_zero.2 hk0
    have hlog : k.natAbs.log2 < 24 := (Nat.log2_lt hM0).2 hk
    obtain ⟨j, hj⟩ : ∃ j, j = min (23 - k.natAbs.log2) (E + 149).toNat := ⟨_, rfl⟩
    have hn0 : 0 < k.natAbs * 2 ^ j := Nat.mul_pos (Nat.pos_of_ne_zero hM0) (by positivity)
    have hlogn := log2_mul_two_pow hM0 j
    have hc : Canonical (k.natAbs * 2 ^ j) (E - j) := by
      refine ⟨?_, by omega, by omega, ?_⟩
      · calc k.natAbs * 2 ^ j < 2 ^ ((k.natAbs * 2 ^ j).log2 + 1) := Nat.lt_log2_self
          _ ≤ 2 ^ 24 := Nat.pow_le_pow_right (by norm_num) (by omega)
      · by_cases h : j = 23 - k.natAbs.log2
        · left
          calc 2 ^ 23 = 2 ^ (k.natAbs * 2 ^ j).log2 := by rw [hlogn]; congr 1; omega
            _ ≤ k.natAbs * 2 ^ j := Nat.log2_self_le hn0.ne'
        · right
          omega
    obtain ⟨s, hs⟩ : ∃ s : Sign, k = s.apply k.natAbs := by
      rcases Int.natAbs_eq k with h | h
      exacts [⟨.positive, h⟩, ⟨.negative, h⟩]
    refine ⟨.finite s (k.natAbs * 2 ^ j) (E - j) hn0, ?_⟩
    have hv : (k : ℚ) * 2 ^ E = (s.apply (k.natAbs * 2 ^ j : Nat) : ℚ) * 2 ^ (E - j) := by
      conv_lhs => rw [hs]
      exact (signed_value_eq_iff (Nat.pos_of_ne_zero hM0) hn0).2
        ⟨rfl, (shifted_value _ _ _).symm⟩
    rw [hv]
    exact represents_finite s hn0 hc

theorem representable_int (k : Int) (hk : k.natAbs < 2 ^ 24) : Representable (k : ℚ) := by
  have h := representable_int_mul k hk (E := 0) (by norm_num) (by norm_num)
  rwa [zpow_zero, mul_one] at h

theorem representable_half (k : Int) (hk : k.natAbs < 2 ^ 24) : Representable ((k : ℚ) / 2) := by
  have h := representable_int_mul k hk (E := -1) (by norm_num) (by norm_num)
  rwa [zpow_neg_one, ← div_eq_mul_inv] at h

/-! ### Single-precision numbers -/

theorem represents_unpack {x : Float32} {p : ℚ} (h : valueOf x = some p) :
    Represents x.toModel.unpack p :=
  ⟨canon_unpack _, (valueOf_eq_unpacked x).symm.trans h⟩

theorem unpack_pack_of_represents {u : UnpackedFloat} {p : ℚ} (h : Represents u p) :
    unpack .binary32 (pack .binary32 u) = u := by
  rcases h.cases with ⟨s, rfl, -⟩ | ⟨s, m, e, hm, rfl, hc, -⟩
  · exact unpack_pack_zero s
  · exact unpack_pack_canonical s hm hc

/-- A number packed from a canonical number stands for its value. -/
theorem valueOf_pack {u : UnpackedFloat} {p : ℚ} (h : Represents u p) :
    valueOf (Float32.ofModel (Float32.Model.pack u)) = some p := by
  rw [valueOf_eq_unpacked]
  show unpackedValue (unpack .binary32 (pack .binary32 u)) = some p
  rw [unpack_pack_of_represents h]
  exact h.2

/-- **Differences of numbers are exact when the exact difference is representable.** -/
theorem valueOf_sub {a b : Float32} {p q : ℚ} (ha : valueOf a = some p) (hb : valueOf b = some q)
    (hr : Representable (p - q)) : valueOf (a - b) = some (p - q) :=
  valueOf_pack (sub_represents (represents_unpack ha) (represents_unpack hb) hr)

theorem valueOf_add {a b : Float32} {p q : ℚ} (ha : valueOf a = some p) (hb : valueOf b = some q)
    (hr : Representable (p + q)) : valueOf (a + b) = some (p + q) :=
  valueOf_pack (add_represents (represents_unpack ha) (represents_unpack hb) hr)

theorem valueOf_mul {a b : Float32} {p q : ℚ} (ha : valueOf a = some p) (hb : valueOf b = some q)
    (hr : Representable (p * q)) : valueOf (a * b) = some (p * q) :=
  valueOf_pack (mul_represents (represents_unpack ha) (represents_unpack hb) hr)

/-- Whole numbers below `2 ^ 24` convert exactly. -/
theorem valueOf_toFloat32 (n : UInt32) (h : n.toNat < 2 ^ 24) :
    valueOf n.toFloat32 = some (n.toNat : ℚ) := by
  have hr := representable_int n.toNat h
  rw [Int.cast_natCast] at hr
  exact valueOf_pack (ofNat_represents hr)

/-- Comparisons of numbers are comparisons of their values. -/
theorem lt_iff_valueOf {a b : Float32} {p q : ℚ} (ha : valueOf a = some p)
    (hb : valueOf b = some q) : a < b ↔ p < q := by
  show Float32.lt a b = true ↔ p < q
  unfold Float32.lt
  rw [decide_eq_true_iff]
  exact lt_iff_value (canon_unpack _) (canon_unpack _) (represents_unpack ha).2
    (represents_unpack hb).2

/-- Equality tests of numbers are equality of their values. -/
theorem beq_iff_valueOf {a b : Float32} {p q : ℚ} (ha : valueOf a = some p)
    (hb : valueOf b = some q) : (a == b) = true ↔ p = q :=
  beq_iff_value (canon_unpack _) (canon_unpack _) (represents_unpack ha).2
    (represents_unpack hb).2

theorem isNaN_of_valueOf {x : Float32} {p : ℚ} (h : valueOf x = some p) : x.isNaN = false := by
  show x.toModel.unpack.isNaN = false
  rcases (represents_unpack h).cases with ⟨s, hs, -⟩ | ⟨s, m, e, hm, hs, -⟩ <;> rw [hs] <;> rfl

theorem isFinite_of_valueOf {x : Float32} {p : ℚ} (h : valueOf x = some p) :
    x.isFinite = true := by
  show x.toModel.unpack.isFinite = true
  rcases (represents_unpack h).cases with ⟨s, hs, -⟩ | ⟨s, m, e, hm, hs, -⟩ <;> rw [hs] <;> rfl

end TegraGpu.Binary32
