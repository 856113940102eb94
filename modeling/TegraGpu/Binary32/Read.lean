import TegraGpu.Text.Radix
import TegraGpu.Binary32.Nearest
/-!
# Reading single-precision numbers from decimal text

The accepted text is an optional sign followed either by one of the words `inf`, `infinity` or
`nan` in any mix of cases, or by a decimal: digits with at most one point and at least one digit
on some side of it, then optionally `e` or `E`, an optional sign and at least one digit.  Nothing
may follow.  A decimal is rounded to the nearest single-precision number, a tie to the one with an
even last bit; past the largest finite number it becomes an infinity, and below half the least
subnormal number a zero, each with the sign that the text gives.

* `Literal`, `readLiteral?` : the syntax.
* `readBits?` : both together.
-/

namespace TegraGpu.Binary32

/-- What a number text denotes before rounding. -/
inductive Literal where
  /-- Not a number. -/
  | nan (negative : Bool)
  /-- An infinity. -/
  | infinity (negative : Bool)
  /-- The value `± mant · 10 ^ exp`. -/
  | decimal (negative : Bool) (mant : Nat) (exp : Int)

/-- The value of a list of decimal digits, most significant first. -/
def digitsValue (ds : List Char) : Nat :=
  ds.foldl (fun acc d => acc * 10 + (d.toNat - '0'.toNat)) 0

/-- Splits off the leading decimal digits. -/
def spanDigits (cs : List Char) : List Char × List Char :=
  (cs.takeWhile Char.isDigit, cs.dropWhile Char.isDigit)

/-- Reads an exponent: an optional sign and at least one digit, with nothing after them. -/
def readExponent? (cs : List Char) : Option Int :=
  let (negative, rest) := match cs with
    | '-' :: r => (true, r)
    | '+' :: r => (false, r)
    | r => (false, r)
  let (ds, after) := spanDigits rest
  if ds.isEmpty || !after.isEmpty then none
  else
    let v : Int := digitsValue ds
    some (if negative then -v else v)

/-- Reads the unsigned part of a decimal. -/
def readUnsignedDecimal? (cs : List Char) : Option (Nat × Int) :=
  let (ip, r) := spanDigits cs
  let (fp, r) := match r with
    | '.' :: r' => spanDigits r'
    | _ => ([], r)
  if ip.isEmpty && fp.isEmpty then none
  else
    let mant := digitsValue (ip ++ fp)
    let scale : Int := -(fp.length : Int)
    match r with
    | [] => some (mant, scale)
    | c :: rest =>
      if c = 'e' ∨ c = 'E' then (readExponent? rest).map fun x => (mant, scale + x)
      else none

/-- Reads a number text. -/
def readLiteral? (cs : List Char) : Option Literal :=
  let (negative, body) := match cs with
    | '-' :: r => (true, r)
    | '+' :: r => (false, r)
    | r => (false, r)
  if body.isEmpty then none
  else
    match readUnsignedDecimal? body with
    | some (mant, exp) => some (.decimal negative mant exp)
    | none =>
      let word := body.map Text.lowerAscii
      if word = "inf".toList ∨ word = "infinity".toList then some (.infinity negative)
      else if word = "nan".toList then some (.nan negative)
      else none

/-- The bits of the single-precision number that a literal denotes.  A NaN is the quiet one
with an empty payload, its sign bit set when the text has a `-`. -/
def Literal.bits : Literal → UInt32
  | .nan negative => if negative then 0xFFC00000 else 0x7FC00000
  | .infinity negative => if negative then 0xFF800000 else 0x7F800000
  | .decimal negative mant exp =>
    (single.decimal mant exp + if negative then Nat.pow 2 31 else 0).toUInt32

/-- Reads a number text and rounds it to single precision, giving the bits. -/
def readBits? (cs : List Char) : Option UInt32 :=
  (readLiteral? cs).map Literal.bits

end TegraGpu.Binary32
