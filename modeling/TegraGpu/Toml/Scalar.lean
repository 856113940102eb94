import TegraGpu.Toml.Syntax
import TegraGpu.Text.Radix
/-!
# Keys, strings and bare values of a TOML document

What the text of a key or a value says.  Each reader walks the text from its start and refuses
it at the first thing wrong, pointing at that place.

* Basic strings (`"`) hold any character but a control character, `"` and `\`; a backslash
  starts an escape: `\b \e \f \n \r \t \\ \"`, or a character by two, four or eight hexadecimal
  digits (`\xHH`, `\uHHHH`, `\UHHHHHHHH`).  Multi-line basic strings (`"""`) may hold line breaks
  and quotes, drop a line break right after their opening, and a backslash at the end of a line
  drops the break and the blanks that follow.  Literal strings (`'`) hold their text as it is,
  without control characters; multi-line literal strings (`'''`) may hold line breaks too.
* A bare key is letters, digits, `-` and `_`, at least one of them.
* A bare value is a boolean (`true`, `false`), a float or an integer, or a date and time.  Its
  first characters decide what it must be: a sign or a digit a number or a date (a date when the
  digits go on with `-` or `:`), `t` and `f` a boolean, `i` and `n` the floats `inf` and `nan`.
  Decimal integers have no leading zero, `0x`, `0o` and `0b` integers no sign; `_` stands only
  between digits.  Only a date and time holds a blank.  Anything else must be quoted.

* `decodeKey`, `decodeScalar` : the readers.
* `Scalar` : what a value says, before it is turned into a `Value`.
-/

namespace TegraGpu.Toml

/-- The radix of an integer. -/
inductive Radix where
  | dec
  | hex
  | oct
  | bin
  deriving DecidableEq

/-- The number of a radix. -/
def Radix.base : Radix → Nat
  | .dec => 10
  | .hex => 16
  | .oct => 8
  | .bin => 2

/-- How a refusal names a radix's integers. -/
def Radix.invalid : Radix → String
  | .dec => "invalid integer number"
  | .hex => "invalid hexadecimal number"
  | .oct => "invalid octal number"
  | .bin => "invalid binary number"

/-- Whether a character is a digit of a radix. -/
def Radix.isDigit (r : Radix) (c : Char) : Bool :=
  match r with
  | .dec => c.isDigit
  | .hex => c.isDigit || ('a' ≤ c && c ≤ 'f') || ('A' ≤ c && c ≤ 'F')
  | .oct => '0' ≤ c && c ≤ '7'
  | .bin => c = '0' || c = '1'

/-- What a value's text says. -/
inductive Scalar where
  /-- A string. -/
  | string (s : String)
  /-- A boolean. -/
  | boolean (b : Bool)
  /-- A date, a time or both, as written. -/
  | datetime (text : String)
  /-- A float, as written without `_`. -/
  | float (text : List Char)
  /-- An integer in a radix: its digits without `_`, a decimal with its sign. -/
  | integer (radix : Radix) (digits : List Char)

/-- Whether a character is a hexadecimal digit. -/
def isHexDigit (c : Char) : Bool := Radix.hex.isDigit c

/-- The escapes a backslash may start. -/
def escapeNames : List Expected :=
  ["b", "e", "f", "n", "r", "\\", "\"", "x", "u", "U"].map .literal

/-- Reads the hexadecimal digits of an escape at byte `pos`: the character, the rest and the
byte after. -/
def hexEscape (count pos : Nat) (cs : List Char) : Except Fault (Char × List Char × Nat) :=
  let ds := (cs.takeWhile isHexDigit).take count
  if ds.length < count then
    .error (Fault.make "too few unicode value digits"
      (some [.description "unicode hexadecimal value"]) (Span.at (pos + ds.length)))
  else
    let v := ds.foldl (fun acc d => acc * 16 + ((Text.digitValue 16 d).getD 0)) 0
    if v < 0xD800 || (0xE000 ≤ v && v < 0x110000) then .ok (Char.ofNat v, cs.drop count, pos + count)
    else .error (Fault.make "invalid value" (some [.description "unicode hexadecimal value"])
      (Span.at pos))

/-- Reads an escape whose letter stands at byte `pos`: the character, the rest and the byte
after. -/
def escape (pos : Nat) : List Char → Except Fault (Char × List Char × Nat)
  | [] => .error (Fault.make "missing escaped value" (some escapeNames) (Span.at pos))
  | c :: r =>
    match c with
    | 'b' => .ok ('\x08', r, pos + 1)
    | 'e' => .ok ('\x1b', r, pos + 1)
    | 'f' => .ok ('\x0c', r, pos + 1)
    | 'n' => .ok ('\n', r, pos + 1)
    | 'r' => .ok ('\r', r, pos + 1)
    | 't' => .ok ('\t', r, pos + 1)
    | '\\' => .ok ('\\', r, pos + 1)
    | '"' => .ok ('"', r, pos + 1)
    | 'x' => hexEscape 2 (pos + 1) r
    | 'u' => hexEscape 4 (pos + 1) r
    | 'U' => hexEscape 8 (pos + 1) r
    | _ => .error (Fault.make "missing escaped value" (some escapeNames) (Span.at pos))

/-- Whether a character stands for itself in a basic string. -/
def isBasicPlain (c : Char) : Bool :=
  c = ' ' || c = '\t' || c = '!' || (0x23 ≤ c.toNat && c.toNat ≤ 0x5B) ||
    (0x5D ≤ c.toNat && c.toNat ≤ 0x7E) || 0x80 ≤ c.toNat

/-- Whether a character stands for itself in a multi-line basic string. -/
def isMultiBasicPlain (c : Char) : Bool :=
  isBasicPlain c || c = '"' || c = '\n'

/-- Whether a character stands for itself in a literal string. -/
def isLiteralChar (c : Char) : Bool :=
  c = '\t' || (0x20 ≤ c.toNat && c.toNat ≤ 0x26) || (0x28 ≤ c.toNat && c.toNat ≤ 0x7E) ||
    0x80 ≤ c.toNat

/-- The refusal of a carriage return without a line feed; `pos` is the byte after it. -/
def loneReturn (pos : Nat) : Fault :=
  Fault.make "carriage return must be followed by newline" (some [.description "newline"])
    (Span.at pos)

/-- Skips blanks and line breaks after a line-ending backslash, at byte `pos`. -/
def skipBreaks : Nat → Nat → List Char → Except Fault (List Char × Nat)
  | 0, pos, cs => .ok (cs, pos)
  | fuel + 1, pos, cs =>
    match cs with
    | ' ' :: r => skipBreaks fuel (pos + 1) r
    | '\t' :: r => skipBreaks fuel (pos + 1) r
    | '\n' :: r => skipBreaks fuel (pos + 1) r
    | '\r' :: '\n' :: r => skipBreaks fuel (pos + 2) r
    | '\r' :: _ => .error (loneReturn (pos + 1))
    | _ => .ok (cs, pos)

/-- Reads the characters of a basic string between its quotes, starting at byte `pos`; `multi`
for a multi-line one. -/
def basicChars (multi : Bool) : Nat → Nat → List Char → List Char → Except Fault (List Char)
  | 0, _, _, acc => .ok acc.reverse
  | _, _, [], acc => .ok acc.reverse
  | fuel + 1, pos, c :: r, acc =>
    if c = '\\' then
      match multi, r with
      | true, d :: _ =>
        if d = ' ' || d = '\t' || d = '\r' || d = '\n' then
          let blanks := r.takeWhile (fun e => e = ' ' || e = '\t')
          let after := r.drop blanks.length
          let p := pos + 1 + blanks.length
          match after with
          | '\n' :: rest => do
            let (rest, p) ← skipBreaks rest.length (p + 1) rest
            basicChars multi fuel p rest acc
          | '\r' :: '\n' :: rest => do
            let (rest, p) ← skipBreaks rest.length (p + 2) rest
            basicChars multi fuel p rest acc
          | '\r' :: _ => .error (loneReturn (p + 1))
          | _ => .error (Fault.make "invalid multi-line basic string" (some [.description "newline"])
              (Span.at p))
        else do
          let (e, rest, p) ← escape (pos + 1) r
          basicChars multi fuel p rest (e :: acc)
      | _, _ => do
        let (e, rest, p) ← escape (pos + 1) r
        basicChars multi fuel p rest (e :: acc)
    else if (if multi then isMultiBasicPlain c else isBasicPlain c) then
      basicChars multi fuel (pos + c.utf8Size) r (c :: acc)
    else if multi && c = '\r' then
      match r with
      | '\n' :: rest => basicChars multi fuel (pos + 2) rest ('\n' :: '\r' :: acc)
      | _ => .error (loneReturn (pos + 1))
    else
      let bad := (c :: r).takeWhile fun d =>
        !(if multi then isMultiBasicPlain d else isBasicPlain d) && d ≠ '\\' && !(multi && d = '\r')
      if multi then
        .error (Fault.make "invalid multi-line basic string"
          (some [.literal "\\", .description "characters"]) ⟨pos, pos + byteSize bad⟩)
      else
        .error (Fault.make "invalid basic string"
          (some [.description "non-double-quote visible characters", .literal "\\"])
          ⟨pos, pos + byteSize bad⟩)

/-- Drops a line break right after the opening quotes of a multi-line string, with its size. -/
def dropOpeningBreak : List Char → List Char × Nat
  | '\n' :: r => (r, 1)
  | '\r' :: '\n' :: r => (r, 2)
  | r => (r, 0)

/-- Whether a text ends with another. -/
def endsWith (cs suffix : List Char) : Bool :=
  suffix.length ≤ cs.length && cs.drop (cs.length - suffix.length) == suffix

/-- Reads a basic string from its text, quotes included, that starts at byte `start`. -/
def decodeBasic (start : Nat) (raw : List Char) : Except Fault String := do
  let body := raw.drop 1
  if !endsWith body ['"'] then
    throw (Fault.make "invalid basic string" (some [.literal "\""]) (Span.at (start + byteSize raw)))
  let content := body.dropLast
  let cs ← basicChars false content.length (start + 1) content []
  pure (String.ofList cs)

/-- Reads a multi-line basic string from its text, quotes included, that starts at byte
`start`. -/
def decodeMultiBasic (start : Nat) (raw : List Char) : Except Fault String := do
  let (body, skipped) := dropOpeningBreak (raw.drop 3)
  if !endsWith body ['"', '"', '"'] then
    throw (Fault.make "invalid multi-line basic string" (some [.literal "\""])
      (Span.at (start + byteSize raw)))
  let content := body.take (body.length - 3)
  let cs ← basicChars true content.length (start + 3 + skipped) content []
  pure (String.ofList cs)

/-- Reads a literal string from its text, quotes included, that starts at byte `start`. -/
def decodeLiteral (start : Nat) (raw : List Char) : Except Fault String := do
  let body := raw.drop 1
  if !endsWith body ['\''] then
    throw (Fault.make "invalid literal string" (some [.literal "'"])
      (Span.at (start + byteSize raw)))
  let content := body.dropLast
  match Parse.firstFailing isLiteralChar (start + 1) content with
  | some p =>
    throw (Fault.make "invalid literal string"
      (some [.description "non-single-quote visible characters"]) (Span.at p))
  | none => pure (String.ofList content)

/-- Checks the characters of a multi-line literal string from byte `pos`. -/
def checkMultiLiteral : Nat → List Char → Except Fault Unit
  | _, [] => .ok ()
  | pos, c :: r =>
    if c = '\'' || c = '\n' then checkMultiLiteral (pos + 1) r
    else if c = '\r' then
      match r with
      | '\n' :: _ => checkMultiLiteral (pos + 1) r
      | _ => .error (loneReturn (pos + 1))
    else if isLiteralChar c then checkMultiLiteral (pos + c.utf8Size) r
    else .error (Fault.make "invalid multi-line literal string"
      (some [.description "non-single-quote characters"]) (Span.at pos))

/-- Reads a multi-line literal string from its text, quotes included, that starts at byte
`start`. -/
def decodeMultiLiteral (start : Nat) (raw : List Char) : Except Fault String := do
  let (body, skipped) := dropOpeningBreak (raw.drop 3)
  if !endsWith body ['\'', '\'', '\''] then
    throw (Fault.make "invalid multi-line literal string" (some [.literal "'"])
      (Span.at (start + byteSize raw)))
  let content := body.take (body.length - 3)
  checkMultiLiteral (start + 3 + skipped) content
  pure (String.ofList content)

/-- Reads a string in a quoting. -/
def decodeString (start : Nat) (raw : List Char) : Quoting → Except Fault String
  | .literal => decodeLiteral start raw
  | .basic => decodeBasic start raw
  | .multiLiteral => decodeMultiLiteral start raw
  | .multiBasic => decodeMultiBasic start raw

/-- What may stand in a bare key. -/
def bareKeyChars : List Expected :=
  [.description "letters", .description "numbers", .literal "-", .literal "_"]

/-- Whether a character may stand in a bare key. -/
def isBareKeyChar (c : Char) : Bool :=
  ('a' ≤ c && c ≤ 'z') || ('A' ≤ c && c ≤ 'Z') || c.isDigit || c = '-' || c = '_'

/-- Reads a key part; multi-line strings are no keys.  A bare key is refused at the first run
of characters that may not stand in one. -/
def decodeKey (span : Span) (quoting : Option Quoting) (raw : List Char) : Except Fault String :=
  match quoting with
  | none =>
    if raw.isEmpty then
      .error (Fault.make "unquoted keys cannot be empty" (some bareKeyChars) (Span.at span.start))
    else match Parse.firstFailing isBareKeyChar span.start raw with
      | some p =>
        let bad := (raw.dropWhile isBareKeyChar).takeWhile (fun c => !isBareKeyChar c)
        .error (Fault.make "invalid unquoted key" (some bareKeyChars) ⟨p, p + byteSize bad⟩)
      | none => .ok (String.ofList raw)
  | some .multiLiteral =>
    .error (Fault.make "keys cannot be multi-line literal strings"
      (some [.description "basic string", .description "literal string"]) span)
  | some .multiBasic =>
    .error (Fault.make "keys cannot be multi-line basic strings"
      (some [.description "basic string", .description "literal string"]) span)
  | some q => decodeString span.start raw q

namespace Bare

/-- The refusal of a bare value that is none: a missing value, which is read as a literal
string without its quote; a string missing its opening quote; or words that must be quoted. -/
def invalid (base : Nat) (raw : List Char) : Except Fault Scalar :=
  let missing (q : String) : Except Fault Scalar :=
    .error (Fault.make "missing opening quote" (some [.literal q]) (Span.at base))
  if raw.isEmpty then
    .error (Fault.make "invalid literal string" (some [.literal "'"]) (Span.at base))
  else if endsWith raw "'''".toList then missing "'''"
  else if endsWith raw "\"\"\"".toList then missing "\"\"\""
  else if endsWith raw ['\''] then missing "'"
  else if endsWith raw ['"'] then missing "\""
  else .error (Fault.make "string values must be quoted" (some [.description "literal string"])
    ⟨base, base + byteSize raw⟩)

/-- Checks digits with `_` among them at byte `pos`: at least one digit, and no leading zero
unless `zeroFirst` allows it.  Gives what follows and its byte. -/
def decimalDigits (v : List Char) (pos : Nat) (zeroFirst : Bool) (what : String) :
    Except Fault (List Char × Nat) :=
  let run := v.takeWhile (fun c => c.isDigit || c = '_')
  let count := (run.filter Char.isDigit).length
  if count = 0 then .error (Fault.make what (some [.description "digits"]) (Span.at pos))
  else if 2 ≤ count && v.head? = some '0' && !zeroFirst then
    .error (Fault.make "unexpected leading zero" (some []) ⟨pos, pos + 1⟩)
  else .ok (v.drop run.length, pos + run.length)

/-- Checks the shape of a float at byte `pos`: digits, then a fraction, an exponent or both. -/
def checkFloat (stop : Nat) (v : List Char) (pos : Nat) : Except Fault Unit := do
  let (v, pos) ← decimalDigits v pos false "invalid mantissa"
  let (v, pos) ← match v with
    | '.' :: r => decimalDigits r (pos + 1) true "invalid fraction"
    | _ => pure (v, pos)
  let (v, pos) ← match v with
    | e :: r =>
      if e = 'e' || e = 'E' then
        match r with
        | '+' :: r' => decimalDigits r' (pos + 2) true "invalid exponent"
        | '-' :: r' => decimalDigits r' (pos + 2) true "invalid exponent"
        | _ => decimalDigits r (pos + 1) true "invalid exponent"
      else pure (v, pos)
    | [] => pure (v, pos)
  if !v.isEmpty then throw (Fault.make "invalid float" (some []) ⟨pos, stop⟩)

/-- The refusal of a `_` that does not stand between two digits. -/
def badUnderscore (pos : Nat) : Fault :=
  Fault.make "`_` may only go between digits" (some []) ⟨pos, pos + 1⟩

/-- Checks that each `_` of a number's text stands between two digits, the text starting at
byte `pos` after the character `before`, if any; the first `_` that does not refuses it. -/
def checkUnderscores (isDigit : Char → Bool) : Nat → Option Char → List Char → Except Fault Unit
  | _, _, [] => .ok ()
  | pos, before, c :: r =>
    if c = '_' && !((before.map isDigit).getD false && (r.head?.map isDigit).getD false) then
      .error (badUnderscore pos)
    else checkUnderscores isDigit (pos + c.utf8Size) (some c) r

/-- The digits of a number text at byte `pos` without its `_`, each `_` checked to stand between
digits.  The digits of an integer are those of any radix up to 16, and those of a float
decimal. -/
def digitsOf (kind : NumberKind) (s : List Char) (pos : Nat) : Except Fault (List Char) := do
  checkUnderscores (if kind = .integer then isHexDigit else Char.isDigit) pos none s
  pure (s.filter (· ≠ '_'))

/-- Checks the digits of an integer with a radix prefix, at byte `pos`. -/
def checkRadixDigits (base : Nat) (raw : List Char) (r : Radix) (s : List Char) (pos : Nat) :
    Except Fault Unit := do
  match s with
  | c :: _ =>
    if c = '+' || c = '-' then
      let signAt := base + byteSize (raw.takeWhile (fun d => d ≠ '+' && d ≠ '-'))
      throw (Fault.make "unexpected sign" (some []) ⟨signAt, signAt + 1⟩)
  | [] => pure ()
  match Parse.firstFailing (fun c => r.isDigit c || c = '_') pos s with
  | some p => throw (Fault.make r.invalid none (Span.at p))
  | none => pure ()

/-- A bare word that must be one symbol. -/
def symbol (base : Nat) (raw : List Char) (name : String) (result : Scalar) (what : String) :
    Except Fault Scalar :=
  if raw = name.toList then .ok result
  else .error (Fault.make what (some [.literal name]) ⟨base, base + byteSize raw⟩)

/-- A decimal integer, a float or a date, from the digits on at byte `pos`. -/
def dateOrNumber (base : Nat) (raw : List Char) (v : List Char) (pos : Nat) : Except Fault Scalar := do
  let stop := base + byteSize raw
  let digits := v.takeWhile Char.isDigit
  let rest := v.drop digits.length
  let noLeadingZero : Except Fault Unit :=
    if v.head? = some '0' then .error (Fault.make "unexpected leading zero" (some []) ⟨pos, pos + 1⟩)
    else .ok ()
  match rest with
  | [] => do noLeadingZero; pure (.integer .dec (← digitsOf .integer raw base))
  | c :: _ =>
    if c = '-' || c = ':' then pure (.datetime (String.ofList raw))
    else if rest.any (fun d => d = '.' || d = 'e' || d = 'E') then do
      checkFloat stop v pos
      pure (.float (← digitsOf .float raw base))
    else if c = '_' then do
      noLeadingZero
      pure (.integer .dec (← digitsOf .integer raw base))
    else invalid base raw

/-- A number that starts with `0` at byte `pos`: zero, a radix prefix, or digits on. -/
def zeroFirst (base : Nat) (raw : List Char) (v : List Char) (pos : Nat) (signed : Bool) :
    Except Fault Scalar := do
  match v with
  | '0' :: c :: rest =>
    let radix : Option (Radix × String) :=
      if c = 'x' || c = 'X' then some (.hex, "0x")
      else if c = 'o' || c = 'O' then some (.oct, "0o")
      else if c = 'b' || c = 'B' then some (.bin, "0b")
      else none
    match radix with
    | some (r, prefix_) => do
      if signed then
        throw (Fault.make "integers with a radix cannot be signed" (some []) ⟨base, base + 1⟩)
      if c = 'X' || c = 'O' || c = 'B' then
        throw (Fault.make "radix must be lowercase" (some [.literal prefix_]) ⟨pos, pos + 2⟩)
      checkRadixDigits base raw r rest (pos + 2)
      pure (.integer r (← digitsOf .integer rest (pos + 2)))
    | none =>
      if c = 'd' || c = 'D' then do
        if signed then
          throw (Fault.make "integers with a radix cannot be signed" (some []) ⟨base, base + 1⟩)
        throw (Fault.make "redundant integer number prefix" (some []) ⟨pos, pos + 2⟩)
      else dateOrNumber base raw v pos
  | _ => pure (.integer .dec (← digitsOf .integer raw base))

/-- What follows a sign at byte `pos`. -/
def afterSign (base : Nat) (raw : List Char) (v : List Char) (pos : Nat) : Except Fault Scalar := do
  let stop := base + byteSize raw
  match v with
  | [] => invalid base raw
  | c :: _ =>
    if c = '+' || c = '-' then
      throw (Fault.make "redundant numeric sign" (some []) ⟨pos, pos + 1⟩)
    else if c = '_' || ('1' ≤ c && c ≤ '9') then dateOrNumber base raw v pos
    else if c = '0' then zeroFirst base raw v pos true
    else if c = '.' then do
      checkFloat stop raw base
      pure (.float (← digitsOf .float raw base))
    else if c = 'i' || c = 'I' then
      if v = "inf".toList then pure (.float raw)
      else throw (Fault.make "invalid float" (some [.literal "inf"]) ⟨pos, pos + byteSize v⟩)
    else if c = 'n' || c = 'N' then
      if v = "nan".toList then pure (.float raw)
      else throw (Fault.make "invalid float" (some [.literal "nan"]) ⟨pos, pos + byteSize v⟩)
    else invalid base raw

/-- Whether a bare text starts like a date or a time: digits, then `-` or `:`. -/
def startsLikeDatetime (raw : List Char) : Bool :=
  let digits := raw.takeWhile Char.isDigit
  match raw.drop digits.length with
  | c :: _ => !digits.isEmpty && (c = '-' || c = ':')
  | [] => false

/-- Reads a bare value that starts at byte `base`.  Only a date and time may hold a blank, so a
text with a blank is read as one when it starts like one, and must be quoted otherwise. -/
def decode (base : Nat) (raw : List Char) : Except Fault Scalar := do
  match raw with
  | [] => invalid base raw
  | c :: rest =>
    if raw.contains ' ' then
      if startsLikeDatetime raw then pure (.datetime (String.ofList raw)) else invalid base raw
    else if c = '+' || c = '-' then afterSign base raw rest (base + 1)
    else if c = '_' || c = '.' || ('1' ≤ c && c ≤ '9') then dateOrNumber base raw raw base
    else if c = '0' then zeroFirst base raw raw base false
    else if c = 't' || c = 'T' then symbol base raw "true" (.boolean true) "invalid boolean"
    else if c = 'f' || c = 'F' then symbol base raw "false" (.boolean false) "invalid boolean"
    else if c = 'i' || c = 'I' then symbol base raw "inf" (.float "inf".toList) "invalid float"
    else if c = 'n' || c = 'N' then symbol base raw "nan" (.float "nan".toList) "invalid float"
    else invalid base raw

end Bare

/-- Reads a value's text: a string in its quoting, or a bare value. -/
def decodeScalar (span : Span) (quoting : Option Quoting) (raw : List Char) :
    Except Fault Scalar :=
  match quoting with
  | none => Bare.decode span.start raw
  | some q => (decodeString span.start raw q).map .string

end TegraGpu.Toml
