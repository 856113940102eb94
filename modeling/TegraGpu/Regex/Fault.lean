import TegraGpu.Regex.Interval
import TegraGpu.Text.Lines
/-!
# Refusals of patterns

A pattern that cannot be read is refused with a problem and the stretch of the pattern it is
about, sometimes with a second stretch (the first of two duplicate flags, for one).  Stretches
count characters.  The refusal is shown as the pattern, each of its lines indented (or
numbered, when the pattern has several lines), with carets under the stretches, and the
problem's wording after `error: `.

* `Span` : a stretch of a pattern.
* `Problem`, `Problem.message` : what can be wrong, and its wording.
* `Fault`, `Fault.render` : a refusal, and how it is shown.
-/

namespace TegraGpu.Regex

/-- A stretch of a pattern, from the index of its first character to the index after its last. -/
structure Span where
  /-- Where it starts. -/
  start : Nat
  /-- Where it stops. -/
  stop : Nat
  deriving DecidableEq, Inhabited

/-- What can be wrong with a pattern. -/
inductive Problem where
  | classEscapeInvalid
  | classRangeInvalid
  | classRangeLiteral
  | classUnclosed
  | decimalEmpty
  | decimalInvalid
  | escapeHexEmpty
  | escapeHexInvalid
  | escapeHexInvalidDigit
  | escapeUnexpectedEof
  | escapeUnrecognized
  | flagDanglingNegation
  | flagDuplicate
  | flagRepeatedNegation
  | flagUnexpectedEof
  | flagUnrecognized
  | groupNameDuplicate
  | groupNameEmpty
  | groupNameInvalid
  | groupNameUnexpectedEof
  | groupUnclosed
  | groupUnopened
  | repetitionCountInvalid
  | repetitionCountDecimalEmpty
  | repetitionCountUnclosed
  | repetitionMissing
  | specialWordBoundaryUnclosed
  | specialWordBoundaryUnrecognized
  | specialWordOrRepetitionUnexpectedEof
  | unicodeClassInvalid
  | unsupportedBackreference
  | unsupportedLookAround
  /-- Parentheses and brackets nested deeper than the limit. -/
  | nestLimitExceeded
  | unicodeNotAllowed
  | invalidUtf8
  | unicodePropertyNotFound
  | unicodePropertyValueNotFound
  | unicodePerlClassNotFound
  | unicodeCaseUnavailable
  deriving DecidableEq

/-- The wording of a problem. -/
def Problem.message : Problem → String
  | .classEscapeInvalid => "invalid escape sequence found in character class"
  | .classRangeInvalid => "invalid character class range, the start must be <= the end"
  | .classRangeLiteral => "invalid range boundary, must be a literal"
  | .classUnclosed => "unclosed character class"
  | .decimalEmpty => "decimal literal empty"
  | .decimalInvalid => "decimal literal invalid"
  | .escapeHexEmpty => "hexadecimal literal empty"
  | .escapeHexInvalid => "hexadecimal literal is not a Unicode scalar value"
  | .escapeHexInvalidDigit => "invalid hexadecimal digit"
  | .escapeUnexpectedEof => "incomplete escape sequence, reached end of pattern prematurely"
  | .escapeUnrecognized => "unrecognized escape sequence"
  | .flagDanglingNegation => "dangling flag negation operator"
  | .flagDuplicate => "duplicate flag"
  | .flagRepeatedNegation => "flag negation operator repeated"
  | .flagUnexpectedEof => "expected flag but got end of regex"
  | .flagUnrecognized => "unrecognized flag"
  | .groupNameDuplicate => "duplicate capture group name"
  | .groupNameEmpty => "empty capture group name"
  | .groupNameInvalid => "invalid capture group character"
  | .groupNameUnexpectedEof => "unclosed capture group name"
  | .groupUnclosed => "unclosed group"
  | .groupUnopened => "unopened group"
  | .repetitionCountInvalid => "invalid repetition count range, the start must be <= the end"
  | .repetitionCountDecimalEmpty => "repetition quantifier expects a valid decimal"
  | .repetitionCountUnclosed => "unclosed counted repetition"
  | .repetitionMissing => "repetition operator missing expression"
  | .specialWordBoundaryUnclosed =>
    "special word boundary assertion is either unclosed or contains an invalid character"
  | .specialWordBoundaryUnrecognized =>
    "unrecognized special word boundary assertion, valid choices are: start, end, start-half " ++
      "or end-half"
  | .specialWordOrRepetitionUnexpectedEof =>
    "found either the beginning of a special word boundary or a bounded repetition on a \\b " ++
      "with an opening brace, but no closing brace"
  | .unicodeClassInvalid => "invalid Unicode character class"
  | .unsupportedBackreference => "backreferences are not supported"
  | .unsupportedLookAround =>
    "look-around, including look-ahead and look-behind, is not supported"
  | .nestLimitExceeded => "exceed the maximum number of nested parentheses/brackets (250)"
  | .unicodeNotAllowed => "Unicode not allowed here"
  | .invalidUtf8 => "pattern can match invalid UTF-8"
  | .unicodePropertyNotFound => "Unicode property not found"
  | .unicodePropertyValueNotFound => "Unicode property value not found"
  | .unicodePerlClassNotFound =>
    "Unicode-aware Perl class not found (make sure the unicode-perl feature is enabled)"
  | .unicodeCaseUnavailable =>
    "Unicode-aware case insensitivity matching is not available (make sure the unicode-case " ++
      "feature is enabled)"

/-- Why a pattern is refused: the problem, its stretch, and a second stretch it refers to. -/
structure Fault where
  /-- What is wrong. -/
  problem : Problem
  /-- Where. -/
  span : Span
  /-- The earlier stretch that the problem refers to, if any. -/
  aux : Option Span := none

/-- A place in a pattern as a line and a column, both counted from one. -/
structure Place where
  /-- The line. -/
  line : Nat
  /-- The column, in characters. -/
  column : Nat

/-- The line and column of the character at an index. -/
def placeOf (cs : List Char) (i : Nat) : Place :=
  (cs.take i).foldl (fun p c => if c = '\n' then ⟨p.line + 1, 1⟩ else ⟨p.line, p.column + 1⟩)
    ⟨1, 1⟩

/-- The lines of a pattern: cut at line feeds, each that a line feed ended without one carriage
return at its end, and no empty line after a final line feed. -/
def patternLines (text : String) : List String :=
  Text.lines text

/-- The carets of the stretches on one line, after the margin: each starts under its first
column and has one caret a column, at least one. -/
def caretLine (margin : Nat) (spans : List (Place × Place)) : String := Id.run do
  let mut out := String.ofList (List.replicate margin ' ')
  let mut pos := 0
  for (a, b) in spans do
    if pos < a.column - 1 then
      out := out ++ String.ofList (List.replicate (a.column - 1 - pos) ' ')
      pos := a.column - 1
    let n := max 1 (b.column - a.column)
    out := out ++ String.ofList (List.replicate n '^')
    pos := pos + n
  return out

/-- A number padded on the left with blanks to a width. -/
def padLeft (width n : Nat) : String :=
  let s := toString n
  String.ofList (List.replicate (width - s.length) ' ') ++ s

/-- How a refusal is shown under the pattern it refuses. -/
def Fault.render (pattern : String) (f : Fault) : String :=
  let cs := pattern.toList
  let lines := patternLines pattern
  let lineCount := lines.length + (if pattern.endsWith "\n" then 1 else 0)
  let width := if lineCount ≤ 1 then 0 else (toString lineCount).length
  let margin := if width = 0 then 4 else 2 + width
  let spans := (f.span :: f.aux.toList).mergeSort fun x y =>
    x.start < y.start || (x.start = y.start && x.stop ≤ y.stop)
  let placed := spans.map fun s => (placeOf cs s.start, placeOf cs s.stop)
  let oneLine := placed.filter fun (a, b) => a.line = b.line
  let multiLine := placed.filter fun (a, b) => a.line ≠ b.line
  let body := String.join <| (lines.zipIdx.map fun (l, i) =>
    let head := if width = 0 then "    " else padLeft width (i + 1) ++ ": "
    let here := oneLine.filter fun (a, _) => a.line = i + 1
    head ++ l ++ "\n" ++ (if here.isEmpty then "" else caretLine margin here ++ "\n"))
  let message := "error: " ++ f.problem.message
  if cs.contains '\n' then
    let divider := String.ofList (List.replicate 79 '~')
    let notes := if multiLine.isEmpty then ""
      else "\n".intercalate (multiLine.map fun (a, b) =>
        "on line " ++ toString a.line ++ " (column " ++ toString a.column ++ ") through line " ++
          toString b.line ++ " (column " ++ toString (b.column - 1) ++ ")") ++ "\n"
    "regex parse error:\n" ++ divider ++ "\n" ++ body ++ divider ++ "\n" ++ notes ++ message
  else
    "regex parse error:\n" ++ body ++ message

end TegraGpu.Regex
