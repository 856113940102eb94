/-!
# Single-precision numbers as signed binary fractions

`decode` reads the 32 bits of a single-precision number as NaN, an infinity, or a finite value
`± m · 2^e` with a natural `m`.  On the finite values it gives the integer roundings that the
raster engine and the pixel formats use, each exact:

* `floorOf`, `ceilOf`, `truncOf`, `roundOf` : towards negative infinity, towards positive
  infinity, towards zero, and to the nearest integer with halves away from zero;
* `Single` : a number kept as its bits.
* `toIntSat` : a rounding followed by the conversion into a bounded integer range that sends
  NaN to zero and clamps everything else, infinities included, into the range.
-/

namespace TegraGpu.Binary32

/-- What the bits of a single-precision number denote. -/
inductive Value where
  /-- Not a number. -/
  | nan
  /-- An infinity of the given sign. -/
  | infinite (negative : Bool)
  /-- The value `± mant · 2 ^ exp`; zero has `mant = 0`. -/
  | finite (negative : Bool) (mant : Nat) (exp : Int)
  deriving DecidableEq

/-- The sign bit, the eight exponent bits and the 23 fraction bits, read as a value. -/
def decodeBits (b : Nat) : Value :=
  let neg : Bool := decide (Nat.pow 2 31 ≤ b % Nat.pow 2 32)
  let e : Nat := b / Nat.pow 2 23 % 256
  let f : Nat := b % Nat.pow 2 23
  if e = 255 then (if f = 0 then .infinite neg else .nan)
  else if e = 0 then .finite neg f (-149)
  else .finite neg (f + Nat.pow 2 23) ((e : Int) - 150)

/-- The value that a single-precision number denotes. -/
def decode (x : Float32) : Value :=
  decodeBits x.toBits.toNat

/-- Applies the sign to a natural magnitude. -/
def signed (negative : Bool) (n : Nat) : Int :=
  if negative then -(n : Int) else n

/-- Rounds `± m · 2^e` towards negative infinity. -/
def floorOf (negative : Bool) (m : Nat) : Int → Int
  | .ofNat k => signed negative (m * Nat.pow 2 k)
  | .negSucc k =>
    let d := Nat.pow 2 (k + 1)
    if negative then -(((m + d - 1) / d : Nat) : Int) else ((m / d : Nat) : Int)

/-- Rounds `± m · 2^e` towards positive infinity. -/
def ceilOf (negative : Bool) (m : Nat) (e : Int) : Int :=
  -floorOf (!negative) m e

/-- Rounds `± m · 2^e` towards zero. -/
def truncOf (negative : Bool) (m : Nat) : Int → Int
  | .ofNat k => signed negative (m * Nat.pow 2 k)
  | .negSucc k => signed negative (m / Nat.pow 2 (k + 1))

/-- Rounds `± m · 2^e` to the nearest integer, a half away from zero. -/
def roundOf (negative : Bool) (m : Nat) : Int → Int
  | .ofNat k => signed negative (m * Nat.pow 2 k)
  | .negSucc k => signed negative ((m + Nat.pow 2 k) / Nat.pow 2 (k + 1))

/-- Rounds with `r` and converts into `[lo, hi]`: NaN becomes zero, the infinities the ends,
and a finite value is clamped. -/
def toIntSat (lo hi : Int) (r : Bool → Nat → Int → Int) (x : Float32) : Int :=
  match decode x with
  | .nan => 0
  | .infinite negative => if negative then lo else hi
  | .finite negative m e => max lo (min hi (r negative m e))

/-- A single-precision number kept as its 32 bits, so that stored values keep the sign and
payload of a NaN, which arithmetic on `Float32` does not promise. -/
structure Single where
  /-- The bits. -/
  bits : UInt32
  deriving DecidableEq

/-- The number, for arithmetic. -/
def Single.value (s : Single) : Float32 :=
  Float32.ofBits s.bits

/-- The bits of a computed number. -/
def Single.ofFloat32 (x : Float32) : Single :=
  ⟨x.toBits⟩

/-- The least 64-bit signed integer. -/
def int64Min : Int := -(Int.pow 2 63)

/-- The greatest 64-bit signed integer. -/
def int64Max : Int := Int.pow 2 63 - 1

/-- The floor of `x` as a 64-bit signed integer, saturating. -/
def floorInt64 (x : Float32) : Int :=
  toIntSat int64Min int64Max floorOf x

/-- The ceiling of `x` as a 64-bit signed integer, saturating. -/
def ceilInt64 (x : Float32) : Int :=
  toIntSat int64Min int64Max ceilOf x

/-- `x` rounded to the nearest integer, halves away from zero, then saturated into a byte. -/
def roundByte (x : Float32) : Nat :=
  (toIntSat 0 255 roundOf x).toNat

end TegraGpu.Binary32
