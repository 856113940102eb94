import TegraGpu.Toml.Read
import TegraGpu.Binary32.Read
import TegraGpu.Binary32.Decode
import TegraGpu.Binary32.Shortest
import TegraGpu.Text.Quoted
/-!
# Records from TOML tables

A record is read from a table entry by entry, in the order of the keys as texts.  A key that
names no field refuses the table at the key; a value that does not read as its field refuses it
at the value, naming what was found and what was expected; a required field that no entry gives
refuses it at the start of the text.  Booleans are booleans only; a 32-bit word is an integer
from zero to `2^32 - 1`; a single-precision number is an integer or a float, rounded to nearest;
a text is a string.

A refusal is shown as the line of the text it points at, under its line and column, with carets
below the stretch, and the message last.

* `Value.readBool`, `Value.readWord`, `Value.readSingle`, `Value.readText` : the field types.
* `sortedEntries`, `unknownField`, `missingField` : reading records.
* `Fault.render` : a refusal as text.
-/

namespace TegraGpu.Toml

/-- A float in a message: its shortest digits, with `.0` when they show no point. -/
def floatText (bits : UInt64) : String :=
  let s := Binary32.double.display bits.toNat
  if s.contains '.' || s = "inf" || s = "-inf" || s = "NaN" then s else s ++ ".0"

/-- Whether an integer fits 64 bits, signed or not. -/
def fits64 (n : Int) : Bool := -(Int.pow 2 63) ≤ n && n < Int.pow 2 64

/-- How a message names an integer: as it is within 64 bits, and past them with the 128-bit
type that holds it. -/
def integerText (n : Int) : String :=
  if fits64 n then "integer `" ++ toString n ++ "`"
  else if n < Int.pow 2 127 then "integer `" ++ toString n ++ "` as i128"
  else "integer `" ++ toString n ++ "` as u128"

/-- A value as a message about its type names it; a date reads as a map. -/
def Value.unexpected : Value → String
  | .string s => "string " ++ Text.quoted s
  | .integer n => integerText n
  | .float bits => "floating point `" ++ floatText bits ++ "`"
  | .boolean b => "boolean `" ++ (if b then "true" else "false") ++ "`"
  | .datetime _ => "map"
  | .overflow .integer => "integer"
  | .overflow .float => "floating point"
  | .array _ => "sequence"
  | .table _ => "map"

/-- The refusal of a value of the wrong type; a number whose text gives no value is refused as
such whatever was expected. -/
def invalidType (v : Value) (span : Span) (expected : String) : Fault :=
  match v with
  | .overflow .integer => { message := "integer number overflowed", span := some span }
  | .overflow .float => { message := "floating-point number overflowed", span := some span }
  | _ =>
    { message := "invalid type: " ++ v.unexpected ++ ", expected " ++ expected, span := some span }

/-- A boolean value. -/
def Value.readBool (v : Value) (span : Span) : Except Fault Bool :=
  match v with
  | .boolean b => .ok b
  | _ => .error (invalidType v span "a boolean")

/-- An integer value from zero to `2^32 - 1`. -/
def Value.readWord (v : Value) (span : Span) : Except Fault Nat :=
  match v with
  | .integer n =>
    if !fits64 n then .error (invalidType v span "u32")
    else if 0 ≤ n ∧ n < Int.pow 2 32 then .ok n.toNat
    else .error
      { message := "invalid value: integer `" ++ toString n ++ "`, expected u32", span := some span }
  | _ => .error (invalidType v span "u32")

/-- An integer within 64 bits or a float, rounded to single precision. -/
def Value.readSingle (v : Value) (span : Span) : Except Fault Binary32.Single :=
  match v with
  | .integer n =>
    if fits64 n then .ok ⟨(Binary32.Literal.decimal (n < 0) n.natAbs 0).bits⟩
    else .error (invalidType v span "f32")
  | .float bits => .ok ⟨Binary32.narrowDouble bits⟩
  | _ => .error (invalidType v span "f32")

/-- A string value; `expected` names what the field wants. -/
def Value.readText (v : Value) (span : Span) (expected : String) : Except Fault String :=
  match v with
  | .string s => .ok s
  | _ => .error (invalidType v span expected)

/-- The entries of a table in the order of their keys as texts. -/
def sortedEntries (entries : List Entry) : List Entry :=
  entries.mergeSort fun a b => !(b.1 < a.1)

/-- The names of fields in a message: one, two joined by `or`, or `one of` a list. -/
def oneOf (names : List String) : String :=
  let tick (n : String) : String := "`" ++ n ++ "`"
  match names with
  | [a] => tick a
  | [a, b] => tick a ++ " or " ++ tick b
  | _ => "one of " ++ ", ".intercalate (names.map tick)

/-- The refusal of a key that names no field. -/
def unknownField (k : String) (span : Span) (fields : List String) : Fault :=
  { message := "unknown field `" ++ k ++ "`, " ++
      (if fields.isEmpty then "there are no fields" else "expected " ++ oneOf fields),
    span := some span }

/-- The refusal of a table without a required field; it points at the start of the text. -/
def missingField (k : String) : Fault :=
  { message := "missing field `" ++ k ++ "`", span := some ⟨0, 0⟩ }

/-- The line and the column, both from zero, of a byte of a text.  The column counts the
characters of the line up to the byte, or its bytes when the byte is inside a character; a
byte past the end lies past the last byte by as many columns. -/
def position (bytes : ByteArray) (index : Nat) : Nat × Nat :=
  if bytes.size = 0 then (0, index)
  else
    let safe := min index (bytes.size - 1)
    let offset := index - safe
    let before := (bytes.extract 0 safe).toList
    let lineStart := before.length - (before.reverse.takeWhile (· ≠ 10)).length
    let line := ((before.take lineStart).filter (· = 10)).length
    let column := match String.fromUTF8? (bytes.extract lineStart (safe + 1)) with
      | some s => s.length - 1
      | none => safe - lineStart
    (line, column + offset)

/-- A refusal about a stretch of a text: where, the line with carets under the stretch, and
the message.  The line is shown without a carriage return at its end, which the carets may
still reach. -/
def Fault.renderAt (message : String) (span : Span) (text : String) : String :=
  let (line, column) := position text.toUTF8 span.start
  let lineNum := line + 1
  let gutter := (toString lineNum).length
  let whole := ((text.splitOn "\n").drop line).headD ""
  let content := if whole.endsWith "\r" then String.ofList whole.toList.dropLast else whole
  let width := min (span.stop - span.start) (whole.utf8ByteSize - column)
  let pad (n : Nat) : String := String.ofList (List.replicate n ' ')
  "TOML parse error at line " ++ toString lineNum ++ ", column " ++ toString (column + 1) ++ "\n" ++
    pad (gutter + 1) ++ "|\n" ++
    toString lineNum ++ " | " ++ content ++ "\n" ++
    pad (gutter + 1) ++ "|" ++ pad (column + 1) ++ "^" ++
      String.ofList (List.replicate (width - 1) '^') ++ "\n" ++
    message ++ "\n"

/-- A refusal as text: where, the line with carets under the stretch, and the message; a
refusal about no place is its message alone. -/
def Fault.render (f : Fault) (text : String) : String :=
  match f.span with
  | none => f.message ++ "\n"
  | some span => Fault.renderAt f.message span text

end TegraGpu.Toml
