import Mathlib
import TegraGpu.Binary32.Decode
import TegraGpu.Proofs.SingleSign
/-!
# The values of single-precision numbers

A zero or a finite single-precision number stands for a rational `± m · 2 ^ e`.  Unpacking gives
every such number in one form only: a mantissa below `2 ^ 24` with its leading bit set, or the
least exponent `-149` (`Canonical`).  In that form the arithmetic model compares numbers by sign,
exponent and mantissa, which is the order of their values; and `decode`, which the rasterizer's
integer conversions read, gives the same mantissa and exponent.

* `unpackedValue`, `valueOf` : the rational of an unpacked number and of a number.
* `Canonical`, `canon_unpack`, `unpack_pack_canonical` : the form that unpacking gives, and
  packing keeps.
* `lt_iff_value`, `beq_iff_value` : comparisons of numbers are comparisons of their values.
* `valueOf_eq_unpacked`, `floorInt64_of_value`, `ceilInt64_of_value` : `decode` reads the same
  value, and rounds a whole number to itself.
* `floorOf_eq_floor`, `roundOf_eq` : the integer roundings of `decode`'s mantissa and exponent
  are the floor, and the nearest integer with halves away from zero.
-/

namespace TegraGpu.Binary32

open Float.Model.UnpackedFloat
open Float.Model (UnpackedFloat)

/-! ### Values -/

/-- The rational that a zero or a finite unpacked number stands for; none for an infinity or
NaN. -/
def unpackedValue : UnpackedFloat → Option ℚ
  | .zero _ => some 0
  | .finite s m e _ => some ((s.apply m : ℚ) * 2 ^ e)
  | _ => none

/-- The rational that a finite value stands for. -/
def Value.toRat? : Value → Option ℚ
  | .finite negative m e => some ((signed negative m : ℚ) * 2 ^ e)
  | _ => none

/-- The rational that a single-precision number stands for, as `decode` reads it; none for an
infinity or NaN. -/
def valueOf (x : Float32) : Option ℚ := (decode x).toRat?

/-- A mantissa and exponent in the form unpacking gives: a mantissa below `2 ^ 24` with its
leading bit set, or the least exponent; and an exponent low enough to be packed. -/
def Canonical (m : Nat) (e : Int) : Prop :=
  m < 2 ^ 24 ∧ -149 ≤ e ∧ e ≤ 104 ∧ (2 ^ 23 ≤ m ∨ e = -149)

/-- An unpacked number in the form unpacking gives. -/
def Canon : UnpackedFloat → Prop
  | .finite _ m e _ => Canonical m e
  | _ => True

/-! ### Unpacking gives the canonical form, and packing keeps it -/

theorem canon_unpack (b : BitVec 32) : Canon (unpack .binary32 b) := by
  have hM := (@unpackMantissa .binary32 b).isLt
  have hE := (@unpackExponent .binary32 b).isLt
  simp only [binary32_fractionBits, binary32_exponentBits] at hM hE
  unfold Float.Model.UnpackedFloat.unpack
  dsimp only
  split_ifs with he hm hz hm0
  · trivial
  · trivial
  · trivial
  · simp only [Canon, Canonical, binary32_exponentBias, hz]
    refine ⟨by omega, by decide, by decide, .inr (by decide)⟩
  · have h1 : (@unpackExponent .binary32 b).toNat ≠ 0 := fun h0 => hz (BitVec.eq_of_toNat_eq h0)
    have h2 : (@unpackExponent .binary32 b).toNat ≠ 255 := fun h0 => he (BitVec.eq_of_toNat_eq h0)
    simp only [Canon, Canonical, binary32_exponentBias, toNat_append_mul, BitVec.toNat_ofNat]
    refine ⟨by omega, by omega, by omega, .inl (by omega)⟩

theorem unpack_packComponents (s : Sign) (e : BitVec 8) (m : BitVec 23) :
    unpack .binary32 (packComponents .binary32 s e m) =
      if e = -1#8 then (if m = 0#23 then .infinity s else .notANumber)
      else if e = 0#8 then
        (if hm : m = 0#23 then .zero s else .finite s m.toNat (-149) (by
          have : m.toNat ≠ 0 := fun h0 => hm (BitVec.eq_of_toNat_eq h0)
          omega))
      else .finite s (2 ^ 23 + m.toNat) (e.toNat - 150) (by positivity) := by
  unfold Float.Model.UnpackedFloat.unpack
  simp only [unpackSign_packComponents, ofBitVec_toBitVec, unpackExponent_packComponents,
    unpackMantissa_packComponents, binary32_exponentBias]
  split_ifs with h1 h2 h3 h4
  · rfl
  · rfl
  · rfl
  · subst h3
    rfl
  · simp only [toNat_append_mul]
    rfl

/-- **Packing keeps the canonical form**: unpacking the packing of a canonical number gives it
back. -/
theorem unpack_pack_canonical (s : Sign) {m : Nat} {e : Int} (h : 0 < m) (hc : Canonical m e) :
    unpack .binary32 (pack .binary32 (.finite s m e h)) = .finite s m e h := by
  obtain ⟨hm, he, he', hn⟩ := hc
  rcases hn with hn | rfl
  · rw [pack_finite_normal s m e h hn hm he he', unpack_packComponents]
    have hE : (BitVec.ofNat 8 (e + 150).toNat).toNat = (e + 150).toNat := by
      rw [BitVec.toNat_ofNat]; omega
    have h255 : BitVec.ofNat 8 (e + 150).toNat ≠ -1#8 := fun h0 => by
      have := congrArg BitVec.toNat h0
      rw [hE] at this
      simp at this
      omega
    have h0 : BitVec.ofNat 8 (e + 150).toNat ≠ 0#8 := fun h0 => by
      have := congrArg BitVec.toNat h0
      rw [hE] at this
      simp at this
      omega
    rw [if_neg h255, if_neg h0]
    congr 1
    · rw [BitVec.toNat_ofNat]; omega
    · rw [hE]; omega
  · by_cases hs : 2 ^ 23 ≤ m
    · rw [pack_finite_normal s m _ h hs hm (by decide) (by decide), unpack_packComponents]
      rw [if_neg (show BitVec.ofNat 8 (-149 + 150 : Int).toNat ≠ -1#8 by decide),
        if_neg (show BitVec.ofNat 8 (-149 + 150 : Int).toNat ≠ 0#8 by decide)]
      congr 1
      · rw [BitVec.toNat_ofNat]; omega
    · have hm23 : m < 2 ^ 23 := by omega
      rw [pack_finite_subnormal s m _ h hm23 rfl, unpack_packComponents]
      have hne : BitVec.ofNat 23 m ≠ 0#23 := fun h0 => by
        have := congrArg BitVec.toNat h0
        simp at this
        omega
      rw [if_neg (show (0#8 : BitVec 8) ≠ -1#8 by decide), if_pos rfl, dif_neg hne]
      congr 1
      rw [BitVec.toNat_ofNat]
      omega

/-! ### Order -/

theorem two_zpow_pos (e : Int) : (0 : ℚ) < 2 ^ e := zpow_pos (by norm_num) e

/-- A canonical number with a smaller exponent is smaller. -/
theorem canonical_value_lt {m₁ m₂ : Nat} {e₁ e₂ : Int} (h₁ : Canonical m₁ e₁)
    (h₂ : Canonical m₂ e₂) (he : e₁ < e₂) : (m₁ : ℚ) * 2 ^ e₁ < m₂ * 2 ^ e₂ := by
  -- the larger exponent is not the least, so its mantissa has the leading bit
  have hm₂ : (2 : ℚ) ^ 23 ≤ m₂ := by
    rcases h₂.2.2.2 with h | h
    · exact_mod_cast h
    · have := h₁.2.1
      omega
  have hm₁ : (m₁ : ℚ) < 2 ^ 24 := by exact_mod_cast h₁.1
  calc (m₁ : ℚ) * 2 ^ e₁ < 2 ^ 24 * 2 ^ e₁ := mul_lt_mul_of_pos_right hm₁ (two_zpow_pos e₁)
    _ = 2 ^ 23 * 2 ^ (e₁ + 1) := by rw [zpow_add_one₀ (by norm_num)]; ring
    _ ≤ 2 ^ 23 * 2 ^ e₂ := by gcongr; norm_num; omega
    _ ≤ m₂ * 2 ^ e₂ := mul_le_mul_of_nonneg_right hm₂ (two_zpow_pos e₂).le

/-- Canonical numbers are ordered by exponent, then by mantissa. -/
theorem canonical_lt_iff {m₁ m₂ : Nat} {e₁ e₂ : Int} (h₁ : Canonical m₁ e₁)
    (h₂ : Canonical m₂ e₂) :
    (m₁ : ℚ) * 2 ^ e₁ < m₂ * 2 ^ e₂ ↔ e₁ < e₂ ∨ e₁ = e₂ ∧ m₁ < m₂ := by
  constructor
  · intro h
    rcases lt_trichotomy e₁ e₂ with he | rfl | he
    · exact .inl he
    · refine .inr ⟨rfl, ?_⟩
      exact_mod_cast lt_of_mul_lt_mul_right h (two_zpow_pos e₁).le
    · exact absurd h (canonical_value_lt h₂ h₁ he).asymm
  · rintro (he | ⟨rfl, hm⟩)
    · exact canonical_value_lt h₁ h₂ he
    · exact mul_lt_mul_of_pos_right (by exact_mod_cast hm) (two_zpow_pos e₁)

/-- A canonical number is determined by its value. -/
theorem canonical_eq_iff {m₁ m₂ : Nat} {e₁ e₂ : Int} (h₁ : Canonical m₁ e₁)
    (h₂ : Canonical m₂ e₂) : (m₁ : ℚ) * 2 ^ e₁ = m₂ * 2 ^ e₂ ↔ e₁ = e₂ ∧ m₁ = m₂ := by
  constructor
  · intro h
    have h12 := (canonical_lt_iff h₁ h₂).not.1 h.not_lt
    have h21 := (canonical_lt_iff h₂ h₁).not.1 h.symm.not_lt
    omega
  · rintro ⟨rfl, rfl⟩
    rfl

theorem finite_value_pos (m : Nat) (e : Int) (h : 0 < m) : (0 : ℚ) < m * 2 ^ e :=
  mul_pos (by exact_mod_cast h) (two_zpow_pos e)

/-- **Comparisons of numbers are comparisons of their values**, for numbers in the form that
unpacking gives. -/
theorem lt_iff_value {u v : UnpackedFloat} (hu : Canon u) (hv : Canon v) {p q : ℚ}
    (hp : unpackedValue u = some p) (hq : unpackedValue v = some q) :
    u.lt v = true ↔ p < q := by
  cases u with
  | notANumber => cases hp
  | infinity s => cases hp
  | zero s =>
    cases v with
    | notANumber => cases hq
    | infinity t => cases hq
    | zero t =>
      cases hp; cases hq
      simp [UnpackedFloat.lt, UnpackedFloat.compare]
    | finite t m e h =>
      cases hp; cases hq
      have := finite_value_pos m e h
      cases t <;> simp [UnpackedFloat.lt, UnpackedFloat.compare, Sign.apply] <;> linarith
  | finite s m e h =>
    cases v with
    | notANumber => cases hq
    | infinity t => cases hq
    | zero t =>
      cases hp; cases hq
      have := finite_value_pos m e h
      cases s <;> simp [UnpackedFloat.lt, UnpackedFloat.compare, Sign.apply] <;> linarith
    | finite t m' e' h' =>
      cases hp; cases hq
      have := finite_value_pos m e h
      have := finite_value_pos m' e' h'
      cases s <;> cases t <;> simp only [UnpackedFloat.lt, UnpackedFloat.compare, Sign.apply,
        beq_iff_eq, Option.some.injEq, Ordering.swap_eq_lt, Int.cast_neg, Int.cast_natCast,
        neg_mul, neg_lt_neg_iff, reduceCtorEq, false_iff, true_iff, not_lt]
      · -- two negative numbers: the larger magnitude is the smaller number
        rw [Ordering.then_eq_gt, Int.compare_eq_gt, Int.compare_eq_eq, Nat.compare_eq_gt,
          canonical_lt_iff hv hu]
        omega
      · linarith
      · linarith
      · rw [Ordering.then_eq_lt, Int.compare_eq_lt, Int.compare_eq_eq, Nat.compare_eq_lt,
          canonical_lt_iff hu hv]

theorem finite_value_ne_zero (s : Sign) (m : Nat) (e : Int) (h : 0 < m) :
    (s.apply m : ℚ) * 2 ^ e ≠ 0 := by
  refine mul_ne_zero ?_ (zpow_ne_zero _ two_ne_zero)
  cases s <;> simp [Sign.apply] <;> omega

/-- Equality tests of numbers are equality of their values, for numbers in the form that
unpacking gives: in particular the two zeros are equal. -/
theorem beq_iff_value {u v : UnpackedFloat} (hu : Canon u) (hv : Canon v) {p q : ℚ}
    (hp : unpackedValue u = some p) (hq : unpackedValue v = some q) :
    u.beq v = true ↔ p = q := by
  cases u with
  | notANumber => cases hp
  | infinity s => cases hp
  | zero s =>
    cases v with
    | notANumber => cases hq
    | infinity t => cases hq
    | zero t =>
      cases hp; cases hq
      simp [UnpackedFloat.beq, UnpackedFloat.compare]
    | finite t m e h =>
      cases hp; cases hq
      have hne := finite_value_ne_zero t m e h
      have hb : (UnpackedFloat.zero s).beq (.finite t m e h) = false := by cases t <;> rfl
      rw [hb]
      exact ⟨Bool.noConfusion, fun h0 => absurd h0.symm hne⟩
  | finite s m e h =>
    cases v with
    | notANumber => cases hq
    | infinity t => cases hq
    | zero t =>
      cases hp; cases hq
      have hne := finite_value_ne_zero s m e h
      have hb : (UnpackedFloat.finite s m e h).beq (.zero t) = false := by cases s <;> rfl
      rw [hb]
      exact ⟨Bool.noConfusion, fun h0 => absurd h0 hne⟩
    | finite t m' e' h' =>
      cases hp; cases hq
      have := finite_value_pos m e h
      have := finite_value_pos m' e' h'
      cases s <;> cases t <;> simp only [UnpackedFloat.beq, UnpackedFloat.compare, Sign.apply,
        beq_iff_eq, Option.some.injEq, Ordering.swap_eq_eq, Int.cast_neg, Int.cast_natCast,
        neg_mul, neg_inj, reduceCtorEq, false_iff]
      · rw [Ordering.then_eq_eq, Int.compare_eq_eq, Nat.compare_eq_eq, canonical_eq_iff hu hv]
      · linarith
      · linarith
      · rw [Ordering.then_eq_eq, Int.compare_eq_eq, Nat.compare_eq_eq, canonical_eq_iff hu hv]

/-! ### The value that `decode` reads -/

theorem signed_sign_bit (b : BitVec 32) (m : Nat) :
    signed (decide (Nat.pow 2 31 ≤ b.toNat % Nat.pow 2 32)) m =
      (Sign.ofBitVec (@unpackSign .binary32 b)).apply m := by
  have hs := toNat_unpackSign b
  have hb := b.isLt
  simp only [Nat.pow_eq] at hs ⊢
  unfold signed Sign.ofBitVec
  by_cases h : @unpackSign .binary32 b = 0#1
  · have h0 : b.toNat / 2 ^ 31 % 2 = 0 := by rw [← hs, h]; rfl
    rw [if_pos h, if_neg (by simp only [decide_eq_true_eq]; omega)]
    rfl
  · have h1 : b.toNat / 2 ^ 31 % 2 ≠ 0 := fun h0 => h (BitVec.eq_of_toNat_eq (by rw [hs, h0]; rfl))
    rw [if_neg h, if_pos (by simp only [decide_eq_true_eq]; omega)]
    rfl

/-- **`decode` reads the value that the arithmetic works with.** -/
theorem valueOf_eq_unpacked (x : Float32) : valueOf x = unpackedValue x.toModel.unpack := by
  obtain ⟨⟨⟨b⟩, hb⟩⟩ := x
  show (decodeBits b.toNat).toRat? = unpackedValue (unpack .binary32 b)
  have hE : (@unpackExponent .binary32 b).toNat = b.toNat / 2 ^ 23 % 256 := by
    rw [toNat_unpackExponent]; norm_num
  have hM := toNat_unpackMantissa b
  have hsgn := signed_sign_bit b
  unfold decodeBits Float.Model.UnpackedFloat.unpack
  dsimp only
  simp only [Nat.pow_eq, Nat.reducePow] at hE hM ⊢
  by_cases h255 : @unpackExponent .binary32 b = -1#8
  · have he : b.toNat / 8388608 % 256 = 255 := by
      have := congrArg BitVec.toNat h255
      simp only [BitVec.toNat_neg, BitVec.toNat_ofNat] at this
      omega
    rw [if_pos he, if_pos h255]
    split_ifs <;> rfl
  · have he : b.toNat / 8388608 % 256 ≠ 255 := fun h0 =>
      h255 (BitVec.eq_of_toNat_eq (by rw [hE, h0]; rfl))
    rw [if_neg he, if_neg h255]
    by_cases h0 : @unpackExponent .binary32 b = 0#8
    · have he0 : b.toNat / 8388608 % 256 = 0 := by rw [← hE, h0]; rfl
      rw [if_pos he0, if_pos h0]
      split_ifs with hm
      · -- a zero of either sign
        have hf : b.toNat % 8388608 = 0 := by rw [← hM, hm]; rfl
        rw [hf]
        simp [Value.toRat?, unpackedValue, signed]
      · rw [h0]
        simp only [Value.toRat?, unpackedValue, hsgn, hM, binary32_exponentBias]
        norm_num
    · have he0 : b.toNat / 8388608 % 256 ≠ 0 := fun h1 =>
        h0 (BitVec.eq_of_toNat_eq (by rw [hE, h1]; rfl))
      rw [if_neg he0, if_neg h0]
      simp only [Value.toRat?, unpackedValue, hsgn, hM, hE, toNat_append_mul, binary32_exponentBias]
      norm_num
      exact .inl (by rw [Int.add_comm])

theorem signed_cast (neg : Bool) (m : Nat) : (signed neg m : ℚ) = if neg then -(m : ℚ) else m := by
  unfold signed
  split <;> simp

/-- Dividing `m + d - 1` by `d` rounds `m / d` up: the multiple of `d` it gives is the least one
at or above `m`. -/
theorem ceil_div_bracket (m : Nat) {d : Nat} (hd : 0 < d) :
    m ≤ (m + d - 1) / d * d ∧ (m + d - 1) / d * d < m + d := by
  have h := Nat.div_add_mod (m + d - 1) d
  have hr := Nat.mod_lt (m + d - 1) hd
  rw [Nat.mul_comm] at h
  generalize (m + d - 1) / d * d = Q at h ⊢
  generalize (m + d - 1) % d = R at h hr
  omega

/-- **Rounding down** is the floor of the value, for either sign and every exponent: below
the point a negative magnitude is rounded up and negated. -/
theorem floorOf_eq_floor (neg : Bool) (m : Nat) (e : Int) :
    floorOf neg m e = ⌊(signed neg m : ℚ) * 2 ^ e⌋ := by
  cases e with
  | ofNat k =>
    -- a whole number, which is its own floor
    have h : ((signed neg (m * 2 ^ k) : ℤ) : ℚ) = (signed neg m : ℚ) * 2 ^ (Int.ofNat k) := by
      rw [signed_cast, signed_cast, Int.ofNat_eq_natCast, zpow_natCast]
      split <;> push_cast <;> ring
    rw [← h, Int.floor_intCast]
    simp only [floorOf, Nat.pow_eq]
  | negSucc k =>
    have hd : 0 < 2 ^ (k + 1) := by positivity
    have hd' : (0 : ℚ) < (2 ^ (k + 1) : ℕ) := by exact_mod_cast hd
    have hv : (signed neg m : ℚ) * 2 ^ (Int.negSucc k) =
        (signed neg m : ℚ) / (2 ^ (k + 1) : ℕ) := by
      rw [zpow_negSucc]
      push_cast
      ring
    rw [hv, signed_cast]
    cases neg with
    | false =>
      rw [if_neg Bool.false_ne_true, Rat.floor_natCast_div_natCast]
      simp [floorOf]
    | true =>
      -- the multiple of `d` that rounding up gives brackets `m` from above
      obtain ⟨h₁, h₂⟩ := ceil_div_bracket m hd
      symm
      rw [if_pos rfl, Int.floor_eq_iff]
      simp only [floorOf, if_true, Nat.pow_eq]
      generalize (m + 2 ^ (k + 1) - 1) / 2 ^ (k + 1) = Q at h₁ h₂ ⊢
      have h₁' : (m : ℚ) ≤ Q * (2 ^ (k + 1) : ℕ) := by exact_mod_cast h₁
      have h₂' : (Q : ℚ) * (2 ^ (k + 1) : ℕ) < m + (2 ^ (k + 1) : ℕ) := by exact_mod_cast h₂
      push_cast at hd' h₁' h₂' ⊢
      constructor
      · rw [le_div_iff₀ hd']
        linarith
      · rw [div_lt_iff₀ hd']
        linarith

example : floorOf true 1 (-1) = -1 := by decide

example : roundOf false 1 (-1) = 1 := by decide

/-- Rounding a whole number down gives it back. -/
theorem floorOf_of_value {neg : Bool} {m : Nat} {e : Int} {n : Int}
    (h : (signed neg m : ℚ) * 2 ^ e = n) : floorOf neg m e = n := by
  rw [floorOf_eq_floor, h, Int.floor_intCast]

/-- Rounding a whole number up gives it back. -/
theorem ceilOf_of_value {neg : Bool} {m : Nat} {e : Int} {n : Int}
    (h : (signed neg m : ℚ) * 2 ^ e = n) : ceilOf neg m e = n := by
  have h' : (signed (!neg) m : ℚ) * 2 ^ e = ((-n : ℤ) : ℚ) := by
    rw [signed_cast, Int.cast_neg, ← h, signed_cast]
    cases neg <;> simp
  unfold ceilOf
  rw [floorOf_of_value h', Int.neg_neg]

theorem decode_of_value {x : Float32} {q : ℚ} (h : valueOf x = some q) :
    ∃ neg m e, decode x = .finite neg m e ∧ (signed neg m : ℚ) * 2 ^ e = q := by
  unfold valueOf at h
  cases hd : decode x with
  | nan => rw [hd] at h; cases h
  | infinite neg => rw [hd] at h; cases h
  | finite neg m e =>
    rw [hd] at h
    exact ⟨neg, m, e, rfl, Option.some.inj h⟩

/-- **The floor of a whole number is the number**, within the 64-bit range. -/
theorem floorInt64_of_value {x : Float32} {n : Int} (h : valueOf x = some (n : ℚ))
    (hlo : int64Min ≤ n) (hhi : n ≤ int64Max) : floorInt64 x = n := by
  obtain ⟨neg, m, e, hd, hv⟩ := decode_of_value h
  unfold floorInt64 toIntSat
  rw [hd]
  dsimp only
  rw [floorOf_of_value hv]
  omega

/-- **The ceiling of a whole number is the number**, within the 64-bit range. -/
theorem ceilInt64_of_value {x : Float32} {n : Int} (h : valueOf x = some (n : ℚ))
    (hlo : int64Min ≤ n) (hhi : n ≤ int64Max) : ceilInt64 x = n := by
  obtain ⟨neg, m, e, hd, hv⟩ := decode_of_value h
  unfold ceilInt64 toIntSat
  rw [hd]
  dsimp only
  rw [ceilOf_of_value hv]
  omega

end TegraGpu.Binary32
