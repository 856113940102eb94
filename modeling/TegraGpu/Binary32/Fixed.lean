import TegraGpu.Binary32.Decode
import TegraGpu.Text.Radix
/-!
# Single-precision numbers with one decimal place

`oneDecimal` writes the exact value of a single-precision number rounded to one place after the
point, a tie going to the even last digit.  A negative number, negative zero included, keeps its
minus sign even when it rounds to zero; NaN is `NaN` and the infinities `inf` and `-inf`.
-/

namespace TegraGpu.Binary32

/-- `num / den` rounded to the nearest natural, a tie to the even one. -/
def roundHalfEven (num den : Nat) : Nat :=
  let q := num / den
  let r := num % den
  if den < 2 * r ∨ (2 * r = den ∧ q % 2 = 1) then q + 1 else q

/-- Ten times the magnitude `m · 2^e`, rounded to the nearest natural, a tie to the even one. -/
def tenthsOf (m : Nat) : Int → Nat
  | .ofNat k => m * 10 * Nat.pow 2 k
  | .negSucc k => roundHalfEven (m * 10) (Nat.pow 2 (k + 1))

/-- The text of a number with one decimal place. -/
def oneDecimal (x : Float32) : String :=
  match decode x with
  | .nan => "NaN"
  | .infinite negative => if negative then "-inf" else "inf"
  | .finite negative m e =>
    let t := tenthsOf m e
    (if negative then "-" else "") ++ toString (t / 10) ++ "." ++ toString (t % 10)

end TegraGpu.Binary32
