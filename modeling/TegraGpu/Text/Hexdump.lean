import TegraGpu.Text.Radix
/-!
# Hexadecimal dumps

A dump shows bytes in lines of `columns` bytes (at least one).  Each line starts with a lead
text and, if asked, the offset of its first byte in at least eight lower-case hexadecimal digits
and a colon; then come the bytes as two lower-case digits separated by spaces, three spaces for each
missing byte of a short last line, a bar, and, if asked, the bytes as characters, printable
ASCII as itself and everything else as a point.

* `Margin` : what starts a line after the lead text.
* `hexdump` : the dump; `printHexdump` : the dump written out when verbose.
-/

namespace TegraGpu.Text

/-- What follows the lead text at the start of a line. -/
inductive Margin where
  /-- Nothing. -/
  | none
  /-- The offset of the line's first byte. -/
  | offset
  deriving DecidableEq

/-- A byte as a character of the character column. -/
def shownChar (b : UInt8) : Char :=
  if 0x20 ≤ b.toNat ∧ b.toNat ≤ 0x7e then Char.ofNat b.toNat else '.'

/-- One line of a dump. -/
def dumpLine (margin : Margin) (lead : String) (columns start : Nat) (chunk : List UInt8)
    (ascii : Bool) : String :=
  let head := lead ++ (match margin with
    | .none => ""
    | .offset => hexLower 8 start ++ ": ")
  let hex := " ".intercalate (chunk.map fun b => hexLower 2 b.toNat)
  let pad := String.join (List.replicate (columns - chunk.length) "   ")
  let chars := if ascii then String.ofList (chunk.map shownChar) else ""
  head ++ hex ++ pad ++ " | " ++ chars ++ "\n"

/-- Cuts a list into pieces of `n` elements, the last one possibly shorter. -/
def chunksOf {α : Type} (n : Nat) (xs : List α) : List (List α) :=
  match xs with
  | [] => []
  | x :: rest =>
    if _hn : n = 0 then [x :: rest]
    else (x :: rest).take n :: chunksOf n ((x :: rest).drop n)
termination_by xs.length
decreasing_by simp; omega

/-- The dump of a byte string. -/
def hexdump (margin : Margin) (lead : String) (bytes : ByteArray) (columns : Nat)
    (ascii : Bool) : String :=
  let columns := max columns 1
  let lines := chunksOf columns bytes.toList
  String.join ((List.range lines.length).zip lines |>.map fun (i, chunk) =>
    dumpLine margin lead columns (i * columns) chunk ascii)

/-- Writes the dump of a byte string when verbose, and nothing otherwise.  The writer `out` takes
bytes through `writeAll`, which gives the writer as it leaves it and whether the write failed. -/
def printHexdump {W ε : Type} (writeAll : W → ByteArray → Except ε Unit × W) (out : W)
    (verbose : Bool) (margin : Margin) (lead : String) (bytes : ByteArray) (columns : Nat)
    (ascii : Bool) : Except ε Unit × W :=
  if verbose then writeAll out (hexdump margin lead bytes columns ascii).toUTF8 else (.ok (), out)

end TegraGpu.Text
