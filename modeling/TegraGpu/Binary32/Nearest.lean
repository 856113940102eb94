/-!
# Rounding to the nearest binary floating-point number

A binary format is fixed by the bits of its stored fraction, the exponent of its least
subnormal number and the first unit exponent that overflows.  `Precision.nearest` rounds a
positive fraction `num / den` of naturals to the nearest number of the format, a tie to the one
with an even last bit, and gives its bits without the sign: past the largest finite number the
infinity.  Everything is exact arithmetic on naturals.

* `Precision`, `single`, `double` : the formats.
* `Precision.nearest`, `Precision.decimal` : rounding a fraction and a decimal `m · 10 ^ e`.
* `narrowDouble` : the single-precision bits of a double-precision number.
-/

namespace TegraGpu.Binary32

/-- A binary floating-point format. -/
structure Precision where
  /-- The bits of the stored fraction. -/
  fraction : Nat
  /-- The exponent of the unit in the last place of the subnormal numbers. -/
  least : Int
  /-- The least unit exponent that no finite number has. -/
  top : Int

/-- Single precision. -/
def single : Precision := ⟨23, -149, 105⟩

/-- Double precision. -/
def double : Precision := ⟨52, -1074, 972⟩

/-- Whether `num / den ≥ 2 ^ b`. -/
def atLeastPow (num den : Nat) (b : Int) : Bool :=
  match b with
  | .ofNat k => decide (den * Nat.pow 2 k ≤ num)
  | .negSucc k => decide (den ≤ num * Nat.pow 2 (k + 1))

/-- The bits of the infinity of a format. -/
def Precision.infinity (p : Precision) : Nat :=
  (p.top - p.least + 1).toNat * Nat.pow 2 p.fraction

/-- The bits of the number of the format nearest to the positive fraction `num / den`, a tie to
the even neighbour; the infinity when it is too large. -/
def Precision.nearest (p : Precision) (num den : Nat) : Nat :=
  let b : Int := (Nat.log2 num : Int) - (Nat.log2 den : Int)
  let fl : Int := if atLeastPow num den b then b else b - 1
  let k : Int := max (fl - p.fraction) p.least
  let (n, d) : Nat × Nat := match k with
    | .ofNat j => (num, den * Nat.pow 2 j)
    | .negSucc j => (num * Nat.pow 2 (j + 1), den)
  let q := n / d
  let r := n % d
  let up := decide (d < 2 * r) || (decide (2 * r = d) && q % 2 == 1)
  let q := if up then q + 1 else q
  let (q, k) := if q = Nat.pow 2 (p.fraction + 1) then (Nat.pow 2 p.fraction, k + 1) else (q, k)
  if p.top ≤ k then p.infinity else (k - p.least).toNat * Nat.pow 2 p.fraction + q

/-- The bits of `mant · 10 ^ exp` rounded to the format, without its sign.  Decimals far
outside the format's range are sent to the infinity or zero without computing powers. -/
def Precision.decimal (p : Precision) (mant : Nat) (exp : Int) : Nat :=
  if mant = 0 then 0
  else
    let digits : Int := (Nat.toDigits 10 mant).length
    if (p.top + p.fraction) * 3 / 10 + 2 ≤ digits - 1 + exp then p.infinity
    else if digits + exp ≤ p.least * 3 / 10 - 2 then 0
    else
      match exp with
      | .ofNat j => p.nearest (mant * Nat.pow 10 j) 1
      | .negSucc j => p.nearest mant (Nat.pow 10 (j + 1))

/-- The single-precision bits of a double-precision number given by its bits: a finite number
is rounded to nearest, an infinity stays one, and a NaN keeps its sign and the top of its
payload, made quiet. -/
def narrowDouble (bits : UInt64) : UInt32 :=
  let sign : Nat := if bits >>> 63 = 1 then Nat.pow 2 31 else 0
  let field := ((bits >>> 52) &&& 0x7FF).toNat
  let frac := (bits &&& 0xFFFFFFFFFFFFF).toNat
  let magnitude :=
    if field = 0x7FF then
      if frac = 0 then single.infinity else 0x7FC00000 + frac / Nat.pow 2 29 % Nat.pow 2 22
    else if field = 0 ∧ frac = 0 then 0
    else
      let (m, e) : Nat × Int := if field = 0 then (frac, -1074)
        else (frac + Nat.pow 2 52, (field : Int) - 1075)
      match e with
      | .ofNat j => single.nearest (m * Nat.pow 2 j) 1
      | .negSucc j => single.nearest m (Nat.pow 2 (j + 1))
  (magnitude + sign).toUInt32

end TegraGpu.Binary32
