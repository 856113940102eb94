import Mathlib
/-!
# The sign of single-precision numbers

Single-precision numbers are computed by the model of binary32 arithmetic that comes with the
language: a number is 32 bits, read by `unpack` into a sign, an exponent and a mantissa (or a
zero, an infinity, or the one NaN), and every operation rounds its exact result and packs it
back.  This module gives the laws of that model that concern signs:

* `packComponents_fields`, `pack_unpack` : a pattern is its three fields put together, and
  packing what unpacking reads gives the pattern back (NaN is kept in one form only).
* `unpack_flipSign`, `pack_neg` : negation flips the sign bit and nothing else.
* `eq_of_unpack` : a number is fixed by what it unpacks to.
* `neg_neg_single`, `unpack_neg_single` : negating twice gives the number back, and the
  negation of a number unpacks to the negated value.
* `round_neg`, `normalize_neg` : rounding commutes with the sign.
* `mul_comm_single` : products do not depend on the order of the factors.
* `sub_swap_single` : `b - a` is `-(a - b)` unless both are zeros.
-/

namespace TegraGpu.Binary32

open Float.Model.UnpackedFloat
open Float.Model (UnpackedFloat)

/-! ### Fields of a bit pattern -/

theorem toNat_append_mul {n k : Nat} (x : BitVec n) (y : BitVec k) :
    (x ++ y).toNat = x.toNat * 2 ^ k + y.toNat := by
  rw [BitVec.toNat_append, ← Nat.shiftLeft_add_eq_or_of_lt y.isLt, Nat.shiftLeft_eq]

theorem toNat_packComponents (s : Sign) (e : BitVec 8) (m : BitVec 23) :
    (packComponents .binary32 s e m).toNat =
      s.toBitVec.toNat * 2 ^ 31 + e.toNat * 2 ^ 23 + m.toNat := by
  simp only [packComponents, toNat_append_mul]
  ring

theorem toNat_unpackSign (b : BitVec 32) :
    (@unpackSign .binary32 b).toNat = b.toNat / 2 ^ 31 % 2 := by
  simp [unpackSign, Nat.shiftRight_eq_div_pow]

theorem toNat_unpackExponent (b : BitVec 32) :
    (@unpackExponent .binary32 b).toNat = b.toNat / 2 ^ 23 % 2 ^ 8 := by
  simp [unpackExponent, Nat.shiftRight_eq_div_pow]

theorem toNat_unpackMantissa (b : BitVec 32) :
    (@unpackMantissa .binary32 b).toNat = b.toNat % 2 ^ 23 := by
  simp [unpackMantissa]

theorem toBitVec_ofBitVec (x : BitVec 1) : (Sign.ofBitVec x).toBitVec = x := by
  unfold Sign.ofBitVec
  split
  · next h => exact h.symm
  · next h =>
    have hx : x.toNat ≠ 0 := fun h0 => h (BitVec.eq_of_toNat_eq h0)
    have hlt := x.isLt
    have : x = 1#1 := BitVec.eq_of_toNat_eq (by simp; omega)
    rw [this]
    rfl

@[simp] theorem ofBitVec_toBitVec (s : Sign) : Sign.ofBitVec s.toBitVec = s := by
  cases s <;> rfl

theorem unpackSign_packComponents (s : Sign) (e : BitVec 8) (m : BitVec 23) :
    @unpackSign .binary32 (packComponents .binary32 s e m) = s.toBitVec := by
  apply BitVec.eq_of_toNat_eq
  rw [toNat_unpackSign, toNat_packComponents]
  have := e.isLt
  have := m.isLt
  have : s.toBitVec.toNat < 2 := s.toBitVec.isLt
  omega

/-- Every 32-bit pattern is its sign, exponent and fraction fields put together. -/
theorem packComponents_fields (b : BitVec 32) :
    packComponents .binary32 (Sign.ofBitVec (@unpackSign .binary32 b)) (@unpackExponent .binary32 b)
      (@unpackMantissa .binary32 b) = b := by
  apply BitVec.eq_of_toNat_eq
  rw [toNat_packComponents, toBitVec_ofBitVec, toNat_unpackSign, toNat_unpackExponent,
    toNat_unpackMantissa]
  have := b.isLt
  omega

/-! ### Packing what unpacking reads -/

theorem binary32_exponentBias : Float.Model.Format.binary32.exponentBias = 127 := rfl

theorem binary32_exponentBits : Float.Model.Format.binary32.exponentBits = 8 := rfl

theorem binary32_fractionBits : Float.Model.Format.binary32.mantissaBitsWithoutImplicit = 23 := rfl

/-- A normal number packs into its biased exponent and the fraction below the leading bit. -/
theorem pack_finite_normal (s : Sign) (m : Nat) (e : Int) (h : 0 < m) (hm : 2 ^ 23 ≤ m)
    (hm' : m < 2 ^ 24) (he : -149 ≤ e) (he' : e ≤ 104) :
    pack .binary32 (.finite s m e h) =
      packComponents .binary32 s (BitVec.ofNat 8 (e + 150).toNat) (BitVec.ofNat 23 m) := by
  have hlog : m.log2 = 23 := by
    apply le_antisymm
    · exact Nat.lt_succ_iff.1 ((Nat.log2_lt (by omega)).2 hm')
    · exact (Nat.le_log2 (by omega)).2 hm
  unfold pack
  dsimp only
  split
  · next hover => simp [binary32_exponentBias] at hover; omega
  · split
    · apply BitVec.eq_of_toNat_eq
      simp only [toNat_packComponents, BitVec.toNat_ofNat, binary32_exponentBias]
      congr 3
      omega
    · next hl => simp [hlog, Float.Model.Format.mantissaBits] at hl

/-- A subnormal number packs into the zero exponent and its mantissa. -/
theorem pack_finite_subnormal (s : Sign) (m : Nat) (e : Int) (h : 0 < m) (hm : m < 2 ^ 23)
    (he : e = -149) :
    pack .binary32 (.finite s m e h) = packComponents .binary32 s 0#8 (BitVec.ofNat 23 m) := by
  subst he
  have hlog : m.log2 < 23 := (Nat.log2_lt (by omega)).2 hm
  unfold pack
  dsimp only
  split
  · next hover => simp [binary32_exponentBias] at hover
  · split
    · next hl => simp [Float.Model.Format.mantissaBits] at hl; omega
    · rfl

/-- **Packing what unpacking reads gives the pattern back**, for every pattern that keeps NaN in
its one form. -/
theorem pack_unpack {b : BitVec 32} (hb : Float.Model.Format.binary32.Valid b) :
    pack .binary32 (unpack .binary32 b) = b := by
  conv_rhs => rw [← packComponents_fields b]
  generalize hs : Sign.ofBitVec (@unpackSign .binary32 b) = s
  have hM := toNat_unpackMantissa b
  unfold Float.Model.UnpackedFloat.unpack
  simp only [hs]
  split_ifs with he hm hz hm0
  · simp [pack, packedInfinity, he, hm]
  · rw [← packComponents_fields b, hs] at hb
    exact (hb.eq_packedNaN (by rw [unpackExponent_packComponents, he])
      (by rw [unpackMantissa_packComponents]; exact hm)).symm
  · simp [pack, packedZero, hz, hm0]
  · -- a subnormal: the zero exponent stands for `-149`
    refine (pack_finite_subnormal _ _ _ _ ?_ ?_).trans ?_
    · rw [hM]; omega
    · rw [hz]; rfl
    · rw [hz]
      apply BitVec.eq_of_toNat_eq
      simp
  · -- a normal number: the leading bit is implicit and the exponent is biased by 150
    have hlt := (@unpackExponent .binary32 b).isLt
    have h1 : (@unpackExponent .binary32 b).toNat ≠ 0 := fun h0 => hz (BitVec.eq_of_toNat_eq h0)
    have h2 : (@unpackExponent .binary32 b).toNat ≠ 255 := fun h0 => he (BitVec.eq_of_toNat_eq h0)
    have hM' := (@unpackMantissa .binary32 b).isLt
    simp only [binary32_fractionBits, binary32_exponentBits] at hlt hM'
    refine (pack_finite_normal _ _ _ _ ?_ ?_ ?_ ?_).trans ?_
    · rw [toNat_append_mul]; simp
    · rw [toNat_append_mul]; simp; omega
    · simp [binary32_exponentBias]; omega
    · simp [binary32_exponentBias]; omega
    · apply BitVec.eq_of_toNat_eq
      rw [toNat_packComponents, toNat_packComponents, BitVec.toNat_ofNat, BitVec.toNat_ofNat,
        toNat_append_mul]
      simp only [binary32_exponentBias, binary32_fractionBits]
      have : (1#1).toNat = 1 := rfl
      omega

/-! ### Negation flips the sign bit -/

/-- The bits of a number with the sign bit flipped. -/
def flipSign (b : BitVec 32) : BitVec 32 :=
  packComponents .binary32 (-Sign.ofBitVec (@unpackSign .binary32 b)) (@unpackExponent .binary32 b)
    (@unpackMantissa .binary32 b)

theorem flipSign_packComponents (s : Sign) (e : BitVec 8) (m : BitVec 23) :
    flipSign (packComponents .binary32 s e m) = packComponents .binary32 (-s) e m := by
  rw [flipSign, unpackSign_packComponents, ofBitVec_toBitVec, unpackExponent_packComponents,
    unpackMantissa_packComponents]

theorem unpack_flipSign (b : BitVec 32) :
    unpack .binary32 (flipSign b) = (unpack .binary32 b).neg := by
  unfold flipSign Float.Model.UnpackedFloat.unpack
  simp only [unpackSign_packComponents, ofBitVec_toBitVec, unpackExponent_packComponents,
    unpackMantissa_packComponents]
  split_ifs <;> rfl

/-- Packing a negated number flips the sign bit of its packing; only NaN, kept in one form, is
left as it is. -/
theorem pack_neg {u : UnpackedFloat} (hu : u.isNaN = false) :
    pack .binary32 u.neg = flipSign (pack .binary32 u) := by
  cases u with
  | notANumber => cases hu
  | infinity s => simp only [UnpackedFloat.neg, pack, packedInfinity, flipSign_packComponents]
  | zero s => simp only [UnpackedFloat.neg, pack, packedZero, flipSign_packComponents]
  | finite s m e h =>
    simp only [UnpackedFloat.neg, pack]
    split_ifs <;> simp only [packedInfinity, flipSign_packComponents]

theorem unpack_packedNaN : unpack .binary32 (packedNaN .binary32) = .notANumber := rfl

theorem unpacked_neg_neg (u : UnpackedFloat) : u.neg.neg = u := by
  cases u with
  | notANumber => rfl
  | infinity s => cases s <;> rfl
  | zero s => cases s <;> rfl
  | finite s m e h => cases s <;> rfl

theorem model_pack_unpack (x : Float32.Model) : Float32.Model.pack x.unpack = x := by
  obtain ⟨⟨b⟩, hb⟩ := x
  simp only [Float32.Model.pack, Float32.Model.unpack, pack_unpack hb]

theorem model_neg_pack (u : UnpackedFloat) :
    Float32.Model.neg (Float32.Model.pack u) = Float32.Model.pack u.neg := by
  cases hu : u.isNaN
  · have h := pack_unpack (valid_pack : Float.Model.Format.binary32.Valid (pack .binary32 u.neg))
    simp only [Float32.Model.neg, Float32.Model.unpack, Float32.Model.pack, ← unpack_flipSign,
      ← pack_neg hu, h]
  · cases u <;> try cases hu
    simp only [Float32.Model.neg, Float32.Model.unpack, Float32.Model.pack, pack, unpack_packedNaN]

theorem model_unpack_neg (x : Float32.Model) : (Float32.Model.neg x).unpack = x.unpack.neg := by
  obtain ⟨⟨b⟩, hb⟩ := x
  simp only [Float32.Model.neg, Float32.Model.unpack, Float32.Model.pack]
  cases hu : (unpack .binary32 b).isNaN
  · rw [pack_neg hu, pack_unpack hb, unpack_flipSign]
  · cases h : unpack .binary32 b <;> rw [h] at hu <;> try cases hu
    rfl

/-- A number is fixed by what it unpacks to: NaN has one form only. -/
theorem eq_of_unpack {x y : Float32} (h : x.toModel.unpack = y.toModel.unpack) : x = y := by
  obtain ⟨mx⟩ := x
  obtain ⟨my⟩ := y
  show Float32.ofModel mx = Float32.ofModel my
  rw [← model_pack_unpack mx, ← model_pack_unpack my]
  exact congrArg _ (congrArg _ h)

theorem unpack_neg_single (x : Float32) : (-x).toModel.unpack = x.toModel.unpack.neg :=
  model_unpack_neg x.toModel

/-- **Negating twice gives the number back**, its bits included. -/
theorem neg_neg_single (x : Float32) : -(-x) = x :=
  eq_of_unpack (by rw [unpack_neg_single, unpack_neg_single, unpacked_neg_neg])

/-! ### Rounding, products and differences -/

theorem roundWithAccuracy_neg (s : Sign) (m : Nat) (e : Int) (a : Accuracy) :
    roundWithAccuracy .binary32 (-s) m e a = (roundWithAccuracy .binary32 s m e a).neg := by
  unfold roundWithAccuracy
  dsimp only
  split_ifs <;> rfl

/-- Rounding a magnitude carries the sign through: the sign is only a label. -/
theorem round_neg (s : Sign) (m : Nat) (e : Int) :
    UnpackedFloat.round .binary32 (-s) m e = (UnpackedFloat.round .binary32 s m e).neg := by
  unfold UnpackedFloat.round
  exact roundWithAccuracy_neg _ _ _ _

/-- Rounding a nonzero signed mantissa commutes with negating it. -/
theorem normalize_neg {n : Int} (hn : n ≠ 0) (e : Int) (z : Sign) :
    UnpackedFloat.normalize .binary32 (-n) e z = (UnpackedFloat.normalize .binary32 n e z).neg := by
  unfold UnpackedFloat.normalize
  rcases lt_or_gt_of_ne hn with h | h
  · rw [show compare (-n) 0 = .gt from Int.compare_eq_gt.2 (by omega),
      show compare n 0 = .lt from Int.compare_eq_lt.2 h, ← round_neg]
    rfl
  · rw [show compare (-n) 0 = .lt from Int.compare_eq_lt.2 (by omega),
      show compare n 0 = .gt from Int.compare_eq_gt.2 h, ← round_neg, Int.neg_neg]
    rfl

theorem sign_mul_comm (s t : Sign) : s * t = t * s := by
  cases s <;> cases t <;> rfl

theorem mul_comm_unpacked (u v : UnpackedFloat) : mul .binary32 u v = mul .binary32 v u := by
  cases u <;> cases v <;> simp only [mul, sign_mul_comm, Nat.mul_comm, Int.add_comm]

/-- **Products do not depend on the order of the factors**, NaN and signed zeros included. -/
theorem mul_comm_single (a b : Float32) : a * b = b * a := by
  show Float32.ofModel (Float32.Model.pack (mul .binary32 a.toModel.unpack b.toModel.unpack)) =
    Float32.ofModel (Float32.Model.pack (mul .binary32 b.toModel.unpack a.toModel.unpack))
  rw [mul_comm_unpacked]

/-- An unpacked number is a zero of either sign. -/
def IsZero (u : UnpackedFloat) : Prop := ∃ s, u = .zero s

theorem normalize_neg_or_zero (n e : Int) (z : Sign) :
    UnpackedFloat.normalize .binary32 (-n) e z = (UnpackedFloat.normalize .binary32 n e z).neg ∨
      (UnpackedFloat.normalize .binary32 n e z = .zero z ∧
        UnpackedFloat.normalize .binary32 (-n) e z = .zero z) := by
  by_cases hn : n = 0
  · subst hn
    exact .inr ⟨rfl, rfl⟩
  · exact .inl (normalize_neg hn e z)

/-- Swapping the operands of a difference negates it, unless it is a zero, where both are. -/
theorem sub_swap_unpacked (u v : UnpackedFloat) :
    sub .binary32 v u = (sub .binary32 u v).neg ∨
      (IsZero (sub .binary32 u v) ∧ IsZero (sub .binary32 v u)) := by
  cases u with
  | notANumber => cases v <;> exact .inl rfl
  | infinity s =>
    cases v with
    | notANumber => exact .inl rfl
    | infinity t => cases s <;> cases t <;> exact .inl rfl
    | zero t => exact .inl rfl
    | finite t m e h => exact .inl rfl
  | zero s =>
    cases v with
    | notANumber => exact .inl rfl
    | infinity t => cases t <;> exact .inl rfl
    | zero t => cases s <;> cases t <;> exact .inr ⟨⟨_, rfl⟩, ⟨_, rfl⟩⟩
    | finite t m e h => exact .inl (unpacked_neg_neg _).symm
  | finite s m e h =>
    cases v with
    | notANumber => exact .inl rfl
    | infinity t => cases t <;> exact .inl rfl
    | zero t => exact .inl rfl
    | finite t m' e' h' =>
      -- both sides align the mantissas to the smaller exponent and round the signed difference
      simp only [sub]
      rw [min_comm e' e, ← Int.neg_sub]
      rcases normalize_neg_or_zero (s.apply ↑(decreaseExponent m e (min e e')).1 -
          t.apply ↑(decreaseExponent m' e' (min e e')).1) (min e e') .positive with h | ⟨h0, h1⟩
      · exact .inl h
      · exact .inr ⟨⟨_, h0⟩, ⟨_, h1⟩⟩

theorem unpack_pack_zero (s : Sign) : unpack .binary32 (pack .binary32 (.zero s)) = .zero s := by
  cases s <;> rfl

/-- **A swapped difference is the negated difference**, unless the difference is a zero, and then
the swapped one is a zero too. -/
theorem sub_swap_single (a b : Float32) :
    b - a = -(a - b) ∨ (IsZero (a - b).toModel.unpack ∧ IsZero (b - a).toModel.unpack) := by
  show Float32.ofModel (Float32.Model.pack (sub .binary32 b.toModel.unpack a.toModel.unpack)) =
      Float32.ofModel (Float32.Model.neg
        (Float32.Model.pack (sub .binary32 a.toModel.unpack b.toModel.unpack))) ∨
    (IsZero (unpack .binary32 (pack .binary32 (sub .binary32 a.toModel.unpack b.toModel.unpack))) ∧
      IsZero (unpack .binary32 (pack .binary32 (sub .binary32 b.toModel.unpack a.toModel.unpack))))
  rcases sub_swap_unpacked a.toModel.unpack b.toModel.unpack with h | ⟨⟨s, hs⟩, ⟨t, ht⟩⟩
  · left
    rw [h, model_neg_pack]
  · right
    rw [hs, ht, unpack_pack_zero, unpack_pack_zero]
    exact ⟨⟨s, rfl⟩, ⟨t, rfl⟩⟩

end TegraGpu.Binary32
