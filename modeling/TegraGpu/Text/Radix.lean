/-!
# Numbers in decimal and hexadecimal text

Writing: `hexDigits` gives the digits of a number in base 16, upper or lower case, padded with
zeros on the left to a least width; `padDecimal` does the same in base 10.  Reading: `readDigits`
accepts an optional `+` followed by at least one digit of the radix and nothing else, the form
in which every count, index and instruction word of this library is written; a `-` is never
accepted, not even before zero.

* `digitValue` : the value of one digit in a radix up to 16, letters in either case.
* `readNat?`, `readWord?` : reading, without and with the bound `2^32`.
* `digitsOf`, `hexUpper`, `hexLower`, `padDecimal` : writing.
-/

namespace TegraGpu.Text

/-- The value of the digit `c` in the given radix (at most 16), if it is one. -/
def digitValue (radix : Nat) (c : Char) : Option Nat :=
  let v :=
    if '0' ≤ c ∧ c ≤ '9' then some (c.toNat - '0'.toNat)
    else if 'a' ≤ c ∧ c ≤ 'f' then some (c.toNat - 'a'.toNat + 10)
    else if 'A' ≤ c ∧ c ≤ 'F' then some (c.toNat - 'A'.toNat + 10)
    else none
  match v with
  | some d => if d < radix then some d else none
  | none => none

/-- The ASCII lower-case form of a character; other characters stay. -/
def lowerAscii (c : Char) : Char :=
  if 'A' ≤ c ∧ c ≤ 'Z' then Char.ofNat (c.toNat + 32) else c

/-- The number that a nonempty list of digits denotes, most significant first. -/
def readDigits (radix : Nat) : List Char → Option Nat
  | [] => none
  | c :: cs =>
    cs.foldl (fun acc d => acc.bind fun a => (digitValue radix d).map (a * radix + ·))
      (digitValue radix c)

/-- Reads an unsigned number: an optional `+`, then one digit or more. -/
def readNat? (radix : Nat) : List Char → Option Nat
  | '+' :: cs => readDigits radix cs
  | cs => readDigits radix cs

/-- Reads an unsigned number below `2^32`. -/
def readWord? (radix : Nat) (cs : List Char) : Option UInt32 :=
  match readNat? radix cs with
  | some n => if n < Nat.pow 2 32 then some n.toUInt32 else none
  | none => none

/-- The digit for a value below 16. -/
def digitChar (upper : Bool) (d : Nat) : Char :=
  if d < 10 then Char.ofNat ('0'.toNat + d)
  else if upper then Char.ofNat ('A'.toNat + d - 10)
  else Char.ofNat ('a'.toNat + d - 10)

/-- The digits of `n` in the radix, most significant first; zero has the one digit `0`. -/
def digitsOf (radix : Nat) (upper : Bool) (n : Nat) : List Char :=
  if h : radix ≤ 1 then ['0']
  else if h' : n < radix then [digitChar upper n]
  else
    have : n / radix < n := Nat.div_lt_self (by omega) (by omega)
    digitsOf radix upper (n / radix) ++ [digitChar upper (n % radix)]
termination_by n

/-- Pads `cs` on the left with zeros to the least width `w`. -/
def padZeros (w : Nat) (cs : List Char) : List Char :=
  List.replicate (w - cs.length) '0' ++ cs

/-- `n` in upper-case hexadecimal, at least `w` digits. -/
def hexUpper (w : Nat) (n : Nat) : String :=
  String.ofList (padZeros w (digitsOf 16 true n))

/-- `n` in lower-case hexadecimal, at least `w` digits. -/
def hexLower (w : Nat) (n : Nat) : String :=
  String.ofList (padZeros w (digitsOf 16 false n))

/-- `n` in decimal, at least `w` digits. -/
def padDecimal (w : Nat) (n : Nat) : String :=
  String.ofList (padZeros w (digitsOf 10 false n))

/-- A word written as `0x` and eight upper-case hexadecimal digits. -/
def wordHex (n : UInt32) : String :=
  "0x" ++ hexUpper 8 n.toNat

end TegraGpu.Text
