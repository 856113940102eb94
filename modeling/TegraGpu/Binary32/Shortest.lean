import TegraGpu.Binary32.Nearest
/-!
# Shortest decimal text of a binary floating-point number

A finite number is written with the fewest significant decimal digits that read back to the same
number: for each count of digits in turn the two neighbours of the value on that decimal grid
are tried, and the first count with a neighbour that reads back wins; of two such neighbours
the nearer is taken, and of two as near the upper one.  The digits are then placed around a decimal point without an
exponent, as `1`, `0.1`, `250` or `0.0025`; a zero is `0` with its sign.  Infinities are `inf`
and `-inf`, a NaN is `NaN`.

* `Precision.valueOf` : the exact value of a format's bits.
* `Precision.shortest` : the fewest digits that read back.
* `Precision.display` : the number as text.
-/

namespace TegraGpu.Binary32

/-- The exact value `mant · 2 ^ exp` of the bits of a finite number of the format, without its
sign. -/
def Precision.valueOf (p : Precision) (magnitude : Nat) : Nat × Int :=
  let field := magnitude / Nat.pow 2 p.fraction
  let frac := magnitude % Nat.pow 2 p.fraction
  if field = 0 then (frac, p.least) else (frac + Nat.pow 2 p.fraction, p.least + field - 1)

/-- The value `mant · 2 ^ exp` as a fraction of naturals. -/
def fractionOf (mant : Nat) (exp : Int) : Nat × Nat :=
  match exp with
  | .ofNat j => (mant * Nat.pow 2 j, 1)
  | .negSucc j => (mant, Nat.pow 2 (j + 1))

/-- Whether `10 ^ d ≤ num / den`. -/
def tenPowAtMost (num den : Nat) (d : Int) : Bool :=
  match d with
  | .ofNat j => decide (den * Nat.pow 10 j ≤ num)
  | .negSucc j => decide (den ≤ num * Nat.pow 10 (j + 1))

/-- The decimal exponent of a positive fraction: the `d` with `10 ^ d ≤ num / den < 10 ^ (d + 1)`.
An estimate from the binary lengths is off by at most one, and is corrected twice each way. -/
def decimalExponent (num den : Nat) : Int :=
  let guess : Int := (((Nat.log2 num : Int) - (Nat.log2 den : Int)) * 30103) / 100000
  let down (d : Int) : Int := if tenPowAtMost num den d then d else d - 1
  let up (d : Int) : Int := if tenPowAtMost num den (d + 1) then d + 1 else d
  up (up (down (down guess)))

/-- `num / den` rounded to a natural, a tie to the even one. -/
def roundHalfEvenDiv (num den : Nat) : Nat :=
  let q := num / den
  let r := num % den
  if den < 2 * r || (2 * r = den && q % 2 = 1) then q + 1 else q

/-- The positive fraction rounded to `k` significant digits: digits `q` and exponent `s` with
value `q · 10 ^ s`. -/
def roundDigits (num den : Nat) (k : Nat) : Nat × Int :=
  let s : Int := decimalExponent num den - k + 1
  let q := match s with
    | .ofNat j => roundHalfEvenDiv num (den * Nat.pow 10 j)
    | .negSucc j => roundHalfEvenDiv (num * Nat.pow 10 (j + 1)) den
  if q = Nat.pow 10 k then (q / 10, s + 1) else (q, s)

/-- Drops the zeros at the end of digits, raising the exponent. -/
def trimZeros : Nat → Nat → Int → Nat × Int
  | 0, q, s => (q, s)
  | fuel + 1, q, s => if q ≠ 0 && q % 10 = 0 then trimZeros fuel (q / 10) (s + 1) else (q, s)

/-- The positive fraction cut to `k` significant digits: digits `q` and exponent `s` with
`q · 10 ^ s ≤ num / den < (q + 1) · 10 ^ s`. -/
def floorDigits (num den : Nat) (k : Nat) : Nat × Int :=
  let s : Int := decimalExponent num den - k + 1
  let q := match s with
    | .ofNat j => num / (den * Nat.pow 10 j)
    | .negSucc j => num * Nat.pow 10 (j + 1) / den
  (q, s)

/-- Whether `num / den` lies below the midpoint `(q + 1/2) · 10 ^ s`. -/
def belowMidpoint (num den q : Nat) (s : Int) : Bool :=
  match s with
  | .ofNat j => decide (2 * num < (2 * q + 1) * Nat.pow 10 j * den)
  | .negSucc j => decide (2 * num * Nat.pow 10 (j + 1) < (2 * q + 1) * den)

/-- The fewest significant digits `q · 10 ^ s` that read back to the positive finite bits of
the format.  For each count of digits the two neighbours of the value on that decimal grid are
tried; when both read back the nearer wins, and of two as near the upper one; past seventeen
digits, where every number has a neighbour that reads back, the seventeen-digit rounding. -/
def Precision.shortest (p : Precision) (magnitude : Nat) : Nat × Int :=
  let (mant, exp) := p.valueOf magnitude
  let (num, den) := fractionOf mant exp
  let pick (k : Nat) : Option (Nat × Int) :=
    let (q, s) := floorDigits num den k
    let down := p.decimal q s = magnitude
    let up := p.decimal (q + 1) s = magnitude
    if down && up then some (if belowMidpoint num den q s then (q, s) else (q + 1, s))
    else if down then some (q, s)
    else if up then some (q + 1, s)
    else none
  let (q, s) := match (List.range 17).findSome? (fun i => pick (i + 1)) with
    | some found => found
    | none => roundDigits num den 17
  trimZeros 20 q s

/-- Digits `q · 10 ^ s` written with a decimal point where needed, without an exponent. -/
def placeDigits (q : Nat) (s : Int) : String :=
  let ds := toString q
  match s with
  | .ofNat j => ds ++ String.ofList (List.replicate j '0')
  | .negSucc j =>
    let shift := j + 1
    if shift < ds.length then
      String.ofList (ds.toList.take (ds.length - shift)) ++ "." ++
        String.ofList (ds.toList.drop (ds.length - shift))
    else "0." ++ String.ofList (List.replicate (shift - ds.length) '0') ++ ds

/-- The text of a number of the format given by its bits: the sign, then the shortest digits
placed around the point; `inf`, `-inf` and `NaN` for the numbers that are not finite. -/
def Precision.display (p : Precision) (bits : Nat) : String :=
  let width := p.fraction + ((p.top - p.least + 1).toNat.log2 + 1)
  let negative := bits / Nat.pow 2 width % 2 = 1
  let magnitude := bits % Nat.pow 2 width
  let sign := if negative then "-" else ""
  if magnitude = p.infinity then sign ++ "inf"
  else if magnitude > p.infinity then "NaN"
  else if magnitude = 0 then sign ++ "0"
  else
    let (q, s) := p.shortest magnitude
    sign ++ placeDigits q s

end TegraGpu.Binary32
