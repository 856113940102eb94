import TegraGpu.Regex.Ast
import TegraGpu.Text.Blank
import TegraGpu.Text.Alphanumeric
/-!
# Reading a pattern

The pattern is read left to right with two stacks: the groups and alternations that are open,
and the bracketed classes and class operations that are open.  A concatenation is built until
a `|` closes it into a branch, a `(` saves it under a new group, or a `)` closes the group
around it.  Repetition operators apply to the last item read.  Inside brackets, `[` opens a
nested class unless it starts a named class `[:name:]`, `]` closes one, and `&&`, `--` and
`~~` combine everything before them with everything after them, from left to right.

With the `x` flag, blanks and `#` comments between items are skipped.  The first problem met
refuses the whole pattern, pointing at where it was found; a group or class left open points at
where it was opened.

Every loop reads at least one character a round, so the length of the pattern bounds them.

A pattern that reads well is still refused when its groups, repetitions, alternations,
concatenations and bracketed classes (with their unions and operations) nest more than 250
deep; the refusal points at the first piece, in reading order, that stands too deep.

* `Reader` : the state of the reading.
* `parsePattern` : the syntax tree of a pattern, or why it is refused.
-/

namespace TegraGpu.Regex

/-- A concatenation being read: its parts, last first, and where it started. -/
structure Pending where
  /-- The parts read so far, last first. -/
  parts : List Ast := []
  /-- Where it started. -/
  start : Nat

/-- A concatenation as one tree: nothing, its only part, or the concatenation. -/
def Pending.close (c : Pending) (stop : Nat) : Ast :=
  match c.parts.reverse with
  | [] => .empty ⟨c.start, stop⟩
  | [a] => a
  | parts => .concat parts ⟨c.start, stop⟩

/-- What encloses the concatenation being read. -/
inductive Frame where
  /-- An open group: the concatenation it interrupts, its flags, its opening parenthesis, and
  whether blanks were skipped before it. -/
  | group (outer : Pending) (flags : Option Flags) (opening : Span) (ignoreSpace : Bool)
  /-- The branches of an alternation read so far, last first, and where it started. -/
  | alternation (branches : List Ast) (start : Nat)

/-- The items of a class union being read, in order, with their stretch. -/
structure UnionBuild where
  /-- The items so far. -/
  items : List ClassItem := []
  /-- Their stretch. -/
  span : Span

/-- Adds an item to a union. -/
def UnionBuild.push (u : UnionBuild) (i : ClassItem) : UnionBuild :=
  { items := u.items ++ [i],
    span := ⟨if u.items.isEmpty then i.span.start else u.span.start, i.span.stop⟩ }

/-- A union as one item: nothing, its only item, or the union. -/
def UnionBuild.toItem (u : UnionBuild) : ClassItem :=
  match u.items with
  | [] => .empty u.span
  | [i] => i
  | items => .union items u.span

/-- What encloses the class union being read. -/
inductive ClassFrame where
  /-- An open bracket: the union it interrupts, whether it is negated, and its opening. -/
  | opened (outer : UnionBuild) (negated : Bool) (opening : Span)
  /-- An operation whose left side has been read. -/
  | op (kind : SetOp) (lhs : ClassSet)

/-- The state of the reading. -/
structure Reader where
  /-- The pattern. -/
  chars : Array Char
  /-- The index of the next character. -/
  pos : Nat := 0
  /-- Whether blanks and comments are skipped. -/
  ignoreSpace : Bool := false
  /-- The open groups and alternations, innermost first. -/
  groups : List Frame := []
  /-- The open classes and operations, innermost first. -/
  classes : List ClassFrame := []
  /-- The names of the named groups so far. -/
  names : List (String × Span) := []

/-- A step of reading a pattern. -/
abbrev Read := StateT Reader (Except Fault)

/-- A piece read by an escape or a single character. -/
inductive Primitive where
  | literal (lit : Literal)
  | assertion (kind : AssertionKind) (span : Span)
  | dot (span : Span)
  | perl (kind : PerlKind) (negated : Bool) (span : Span)
  | unicode (query : PropertyQuery) (negated : Bool) (span : Span)

/-- The stretch of a piece. -/
def Primitive.span : Primitive → Span
  | .literal l => l.span
  | .assertion _ s | .dot s | .perl _ _ s | .unicode _ _ s => s

/-- A piece as a tree. -/
def Primitive.toAst : Primitive → Ast
  | .literal l => .literal l
  | .assertion k s => .assertion k s
  | .dot s => .dot s
  | .perl k n s => .perl k n s
  | .unicode q n s => .unicode q n s

/-- Whether a character has a meaning of its own in patterns. -/
def isMeta (c : Char) : Bool :=
  "\\.+*?()|[]\x7b\x7d^$#&-~".toList.contains c

/-- Whether a backslash before a character just stands for the character: the characters with
a meaning of their own, and the ASCII characters other than letters, digits, `<` and `>`. -/
def isEscapeable (c : Char) : Bool :=
  isMeta c || (c.toNat < 128 && !c.isAlphanum && c ≠ '<' && c ≠ '>')

/-- Whether a character is a hexadecimal digit. -/
def isHex (c : Char) : Bool :=
  ('0' ≤ c && c ≤ '9') || ('a' ≤ c && c ≤ 'f') || ('A' ≤ c && c ≤ 'F')

/-- The character with the code point that hexadecimal digits spell, if it is one. -/
def hexChar (ds : List Char) : Option Char :=
  let v := ds.foldl (fun (n : Nat) c =>
    n * 16 + (if c ≤ '9' then c.toNat - 48 else if c ≤ 'F' then c.toNat - 55 else c.toNat - 87)) 0
  if v < 0xD800 || (0xE000 ≤ v && v ≤ 0x10FFFF) then some (Char.ofNat v) else none

/-- Whether a character may stand in a group name; the first has to be a letter or `_`. -/
def isCaptureChar (c : Char) (first : Bool) : Bool :=
  if first then c = '_' || Text.isAlphabetic c
  else c = '_' || c = '.' || c = '[' || c = ']' || Text.isAlphanumeric c

/-- Whether a character may stand in the name of a special word boundary. -/
def isBoundaryNameChar (c : Char) : Bool := c.isAlpha || c = '-'

/-- The flag a character names. -/
def flagOf : Char → Option Flag
  | 'i' => some .caseInsensitive
  | 'm' => some .multiLine
  | 's' => some .dotMatchesNewLine
  | 'U' => some .swapGreed
  | 'u' => some .unicode
  | 'R' => some .crlf
  | 'x' => some .ignoreWhitespace
  | _ => none

/-- Whether a flag group turns a flag on or off, if it names it. -/
def flagState (items : Flags) (f : Flag) : Option Bool :=
  let rec go (negated : Bool) : Flags → Option Bool
    | [] => none
    | (.negation, _) :: rest => go true rest
    | (.flag g, _) :: rest => if g = f then some !negated else go negated rest
  go false items

/-- What a `\p` class with a name in braces asks for: a value after `!=`, `:` or `=`, else a
name. -/
def queryOf (name : String) : PropertyQuery :=
  match name.splitOn "!=" with
  | a :: b :: rest => .namedValue a ("!=".intercalate (b :: rest))
  | _ =>
    match name.splitOn ":" with
    | a :: b :: rest => .namedValue a (":".intercalate (b :: rest))
    | _ =>
      match name.splitOn "=" with
      | a :: b :: rest => .namedValue a ("=".intercalate (b :: rest))
      | _ => .named name

namespace Read

/-- Whether the pattern is read to its end. -/
def eof : Read Bool := do
  let r ← get
  pure (r.pos ≥ r.chars.size)

/-- The next character (a zero character at the end). -/
def cur : Read Char := do
  let r ← get
  pure (r.chars.getD r.pos '\x00')

/-- The index of the next character. -/
def here : Read Nat := do
  pure (← get).pos

/-- A bound on the rounds of any loop: one more than the length of the pattern. -/
def fuel : Read Nat := do
  pure ((← get).chars.size + 1)

/-- Moves past the next character; whether another one follows. -/
def bump : Read Bool := do
  let r ← get
  if r.pos ≥ r.chars.size then return false
  set { r with pos := r.pos + 1 }
  return r.pos + 1 < r.chars.size

/-- The stretch of the next character. -/
def spanChar : Read Span := do
  let p ← here
  pure ⟨p, p + 1⟩

/-- The empty stretch before the next character. -/
def spanHere : Read Span := do
  let p ← here
  pure ⟨p, p⟩

/-- Refuses the pattern. -/
def fail (problem : Problem) (span : Span) : Read α :=
  throw { problem, span }

/-- Raises a refusal that was kept for later. -/
def liftExcept (e : Except Fault α) : Read α :=
  match e with
  | .ok a => pure a
  | .error f => throw f

/-- The character after the next one. -/
def peek : Read (Option Char) := do
  let r ← get
  pure r.chars[r.pos + 1]?

/-- Moves past a text if the pattern goes on with it. -/
def bumpIf (s : List Char) : Read Bool := do
  let r ← get
  if s.isPrefixOf (r.chars.toList.drop r.pos) then
    set { r with pos := r.pos + s.length }
    return true
  return false

/-- Skips a comment after its `#`, up to and with the line feed that ends it. -/
def skipComment : Nat → Read Unit
  | 0 => pure ()
  | n + 1 => do
    if ← eof then return
    let c ← cur
    let _ ← bump
    if c = '\n' then return
    skipComment n

/-- Skips blanks and comments. -/
def skipSpace : Nat → Read Unit
  | 0 => pure ()
  | n + 1 => do
    if ← eof then return
    let c ← cur
    if Text.isBlank c then
      let _ ← bump
      skipSpace n
    else if c = '#' then
      let _ ← bump
      skipComment (← fuel)
      skipSpace n
    else return

/-- Skips blanks and comments when the `x` flag is on. -/
def bumpSpace : Read Unit := do
  if (← get).ignoreSpace then skipSpace (← fuel)

/-- Moves past the next character and the blanks after it; whether anything follows. -/
def bumpAndSpace : Read Bool := do
  if !(← bump) then return false
  bumpSpace
  return !(← eof)

/-- The first character after a list that is not blank, once a `#` has been passed. -/
def peekAfter : List Char → Bool → Option Char
  | [], _ => none
  | c :: cs, inComment =>
    if Text.isBlank c then peekAfter cs inComment
    else if !inComment && c = '#' then peekAfter cs true
    else some c

/-- The character after the next one, past blanks and comments when the `x` flag is on. -/
def peekSpace : Read (Option Char) := do
  let r ← get
  if !r.ignoreSpace then return r.chars[r.pos + 1]?
  if r.pos ≥ r.chars.size then return none
  let rest := r.chars.toList.drop (r.pos + 1)
  pure ((peekAfter rest false).orElse fun _ => rest.head?)

/-! ## Escapes -/

/-- Reads a fixed number of hexadecimal digits; `isX` marks the two-digit `\x` form. -/
def parseHexDigits (digits : Nat) (isX : Bool) : Read Literal := do
  let start ← here
  let mut acc : List Char := []
  for i in List.range digits do
    if i > 0 then
      if !(← bumpAndSpace) then fail .escapeUnexpectedEof (← spanHere)
    let c ← cur
    if !isHex c then fail .escapeHexInvalidDigit (← spanChar)
    acc := acc ++ [c]
  let _ ← bumpAndSpace
  let stop ← here
  match hexChar acc with
  | none => fail .escapeHexInvalid ⟨start, stop⟩
  | some ch => pure { c := ch, hexByte := isX, span := ⟨start, stop⟩ }

/-- Reads the digits inside braces, up to the closing brace or the end. -/
def braceDigits : Nat → List Char → Read (List Char)
  | 0, acc => pure acc
  | n + 1, acc => do
    if !(← bumpAndSpace) then return acc
    let c ← cur
    if c = '\x7d' then return acc
    if !isHex c then fail .escapeHexInvalidDigit (← spanChar)
    braceDigits n (acc ++ [c])

/-- Reads hexadecimal digits in braces, from the opening brace. -/
def parseHexBrace : Read Literal := do
  let bracePos ← here
  let hex ← braceDigits (← fuel) []
  if ← eof then fail .escapeUnexpectedEof ⟨bracePos, ← here⟩
  let stop ← here
  let _ ← bumpAndSpace
  if hex.isEmpty then fail .escapeHexEmpty ⟨bracePos, ← here⟩
  match hexChar hex with
  | none => fail .escapeHexInvalid ⟨bracePos + 1, stop⟩
  | some ch => pure { c := ch, span := ⟨bracePos + 1, ← here⟩ }

/-- Reads a code point after `x`, `u` or `U`. -/
def parseHex : Read Literal := do
  let c ← cur
  let digits := if c = 'x' then 2 else if c = 'u' then 4 else 8
  if !(← bumpAndSpace) then fail .escapeUnexpectedEof (← spanHere)
  if (← cur) = '\x7b' then parseHexBrace else parseHexDigits digits (c = 'x')

/-- Reads a name in braces, up to the closing brace or the end. -/
def nameChars : Nat → List Char → Read (List Char)
  | 0, acc => pure acc
  | n + 1, acc => do
    if !(← bumpAndSpace) then return acc
    let c ← cur
    if c = '\x7d' then return acc
    nameChars n (acc ++ [c])

/-- Reads a Unicode class after `p` or `P`: what it asks for and whether it is negated. -/
def parseUnicodeClass : Read (PropertyQuery × Bool × Span) := do
  let negated := (← cur) = 'P'
  if !(← bumpAndSpace) then fail .escapeUnexpectedEof (← spanHere)
  if (← cur) = '\x7b' then
    let start := (← here) + 1
    let name ← nameChars (← fuel) []
    if ← eof then fail .escapeUnexpectedEof (← spanHere)
    let _ ← bump
    pure (queryOf (String.ofList name), negated, ⟨start, ← here⟩)
  else
    let start ← here
    let c ← cur
    if c = '\\' then fail .unicodeClassInvalid (← spanChar)
    let _ ← bumpAndSpace
    pure (.oneLetter c, negated, ⟨start, ← here⟩)

/-- Reads the name of a special word boundary up to a character that cannot be in it. -/
def boundaryName : Nat → List Char → Read (List Char)
  | 0, acc => pure acc
  | n + 1, acc => do
    if ← eof then return acc
    let c ← cur
    if !isBoundaryNameChar c then return acc
    let _ ← bumpAndSpace
    boundaryName n (acc ++ [c])

/-- After `\b`, at a brace: the special word boundary named in braces, or none (and back at
the brace) when what follows cannot be a name, as in a counted repetition. -/
def specialWordBoundary (wbStart : Nat) : Read (Option AssertionKind) := do
  let start ← here
  if !(← bumpAndSpace) then fail .specialWordOrRepetitionUnexpectedEof ⟨wbStart, ← here⟩
  let startContents ← here
  if !isBoundaryNameChar (← cur) then
    modify fun r => { r with pos := start }
    return none
  let name ← boundaryName (← fuel) []
  if (← eof) || (← cur) ≠ '\x7d' then fail .specialWordBoundaryUnclosed ⟨start, ← here⟩
  let stop ← here
  let _ ← bump
  match String.ofList name with
  | "start" => pure (some .wordStart)
  | "end" => pure (some .wordEnd)
  | "start-half" => pure (some .wordStartHalf)
  | "end-half" => pure (some .wordEndHalf)
  | _ => fail .specialWordBoundaryUnrecognized ⟨startContents, stop⟩

/-- Reads an escape from its backslash. -/
def parseEscape : Read Primitive := do
  let start ← here
  if !(← bump) then fail .escapeUnexpectedEof ⟨start, ← here⟩
  let c ← cur
  if '0' ≤ c && c ≤ '9' then fail .unsupportedBackreference ⟨start, (← here) + 1⟩
  if c = 'x' || c = 'u' || c = 'U' then
    let lit ← parseHex
    return .literal { lit with span := ⟨start, lit.span.stop⟩ }
  if c = 'p' || c = 'P' then
    let (q, negated, sp) ← parseUnicodeClass
    return .unicode q negated ⟨start, sp.stop⟩
  let perl : Option (PerlKind × Bool) := match c with
    | 'd' => some (.digit, false)
    | 'D' => some (.digit, true)
    | 's' => some (.space, false)
    | 'S' => some (.space, true)
    | 'w' => some (.word, false)
    | 'W' => some (.word, true)
    | _ => none
  if let some (kind, negated) := perl then
    let stop := (← here) + 1
    let _ ← bump
    return .perl kind negated ⟨start, stop⟩
  let _ ← bump
  let sp : Span := ⟨start, ← here⟩
  if isEscapeable c then return .literal { c, span := sp }
  match c with
  | 'a' => pure (.literal { c := '\x07', span := sp })
  | 'f' => pure (.literal { c := '\x0C', span := sp })
  | 't' => pure (.literal { c := '\t', span := sp })
  | 'n' => pure (.literal { c := '\n', span := sp })
  | 'r' => pure (.literal { c := '\r', span := sp })
  | 'v' => pure (.literal { c := '\x0B', span := sp })
  | 'A' => pure (.assertion .startText sp)
  | 'z' => pure (.assertion .endText sp)
  | 'b' =>
    if (← eof) || (← cur) ≠ '\x7b' then pure (.assertion .wordBoundary sp)
    else
      match ← specialWordBoundary start with
      | some kind => pure (.assertion kind ⟨start, ← here⟩)
      | none => pure (.assertion .wordBoundary sp)
  | 'B' => pure (.assertion .notWordBoundary sp)
  | '<' => pure (.assertion .wordStart sp)
  | '>' => pure (.assertion .wordEnd sp)
  | _ => fail .escapeUnrecognized sp

/-- Reads one piece outside brackets: an escape, the dot, an anchor or a literal. -/
def parsePrimitive : Read Primitive := do
  let c ← cur
  let sp ← spanChar
  if c = '\\' then parseEscape
  else
    let _ ← bump
    match c with
    | '.' => pure (.dot sp)
    | '^' => pure (.assertion .startLine sp)
    | '$' => pure (.assertion .endLine sp)
    | _ => pure (.literal { c, span := sp })

/-! ## Repetitions -/

/-- Whether a tree can be repeated: not nothing and not a flag group. -/
def repeatable : Ast → Bool
  | .empty _ | .flags _ _ => false
  | _ => true

/-- Applies `?`, `*` or `+` to the last item. -/
def uncounted (c : Pending) (min : Nat) (max : Option Nat) : Read Pending := do
  match c.parts with
  | ast :: rest =>
    if !repeatable ast then fail .repetitionMissing (← spanChar)
    let lazy ← if (← bump) && (← cur) = '?' then do let _ ← bump; pure true else pure false
    pure { c with parts := .repetition min max (!lazy) ast ⟨ast.span.start, ← here⟩ :: rest }
  | [] => fail .repetitionMissing (← spanChar)

/-- Reads digits up to a character that is not one, with blanks skipped around them. -/
def digitRun : Nat → List Char → Read (List Char)
  | 0, acc => pure acc
  | n + 1, acc => do
    if ← eof then return acc
    let c ← cur
    if !('0' ≤ c && c ≤ '9') then return acc
    let _ ← bumpAndSpace
    digitRun n (acc ++ [c])

/-- Skips blanks. -/
def skipBlanks : Nat → Read Unit
  | 0 => pure ()
  | n + 1 => do
    if ← eof then return
    if !Text.isBlank (← cur) then return
    let _ ← bump
    skipBlanks n

/-- Skips blanks, each with the blanks and comments after it. -/
def skipBlanksAndSpace : Nat → Read Unit
  | 0 => pure ()
  | n + 1 => do
    if ← eof then return
    if !Text.isBlank (← cur) then return
    let _ ← bumpAndSpace
    skipBlanksAndSpace n

/-- Reads the count of a repetition: the number, or the refusal of a missing or too large one,
which is only raised once the repetition is known to be closed. -/
def parseCount : Read (Except Fault Nat) := do
  skipBlanks (← fuel)
  let start ← here
  let digits ← digitRun (← fuel) []
  let sp : Span := ⟨start, ← here⟩
  skipBlanksAndSpace (← fuel)
  if digits.isEmpty then return .error { problem := .repetitionCountDecimalEmpty, span := sp }
  let n := digits.foldl (fun (n : Nat) c => n * 10 + (c.toNat - 48)) 0
  if n > 4294967295 then return .error { problem := .decimalInvalid, span := sp }
  pure (.ok n)

/-- Applies a counted repetition in braces to the last item.  A missing lower bound is refused
when an upper bound follows it, as no lower bound is taken to be zero. -/
def counted (c : Pending) : Read Pending := do
  let start ← here
  let (ast, rest) ← match c.parts with
    | ast :: rest =>
      if repeatable ast then pure (ast, rest) else fail .repetitionMissing (← spanChar)
    | [] => fail .repetitionMissing (← spanChar)
  if !(← bumpAndSpace) then fail .repetitionCountUnclosed ⟨start, ← here⟩
  let low ← parseCount
  if ← eof then fail .repetitionCountUnclosed ⟨start, ← here⟩
  let (low, max) ← if (← cur) = ',' then do
      if !(← bumpAndSpace) then fail .repetitionCountUnclosed ⟨start, ← here⟩
      if (← cur) ≠ '\x7d' then
        let low ← liftExcept low
        let high ← liftExcept (← parseCount)
        pure (low, some high)
      else pure (← liftExcept low, none)
    else do
      let low ← liftExcept low
      pure (low, some low)
  if (← eof) || (← cur) ≠ '\x7d' then fail .repetitionCountUnclosed ⟨start, ← here⟩
  let lazy ← if (← bumpAndSpace) && (← cur) = '?' then do let _ ← bump; pure true
    else pure false
  let opSpan : Span := ⟨start, ← here⟩
  if let some m := max then
    if low > m then fail .repetitionCountInvalid opSpan
  pure { c with parts := .repetition low max (!lazy) ast ⟨ast.span.start, ← here⟩ :: rest }

/-! ## Groups -/

/-- Moves past the start of a look-around group, if one follows. -/
def lookaroundPrefix : Read Bool := do
  if ← bumpIf ['?', '='] then return true
  if ← bumpIf ['?', '!'] then return true
  if ← bumpIf ['?', '<', '='] then return true
  bumpIf ['?', '<', '!']

/-- Reads the items of a flag group up to `:` or `)`; gives them with the stretch of a `-` that
no flag has followed yet. -/
def flagItems : Nat → Flags → Option Span → Read (Flags × Option Span)
  | 0, items, neg => pure (items, neg)
  | n + 1, items, neg => do
    let c ← cur
    if c = ':' || c = ')' then return (items, neg)
    let sp ← spanChar
    let (items, neg) ← if c = '-' then
        match items.find? (·.1 = .negation) with
        | some (_, orig) => throw { problem := .flagRepeatedNegation, span := sp, aux := some orig }
        | none => pure (items ++ [(.negation, sp)], some sp)
      else
        match flagOf c with
        | none => fail .flagUnrecognized sp
        | some f =>
          match items.find? (·.1 = .flag f) with
          | some (_, orig) => throw { problem := .flagDuplicate, span := sp, aux := some orig }
          | none => pure (items ++ [(.flag f, sp)], none)
    if !(← bump) then fail .flagUnexpectedEof (← spanHere)
    flagItems n items neg

/-- Reads the flags of a flag group. -/
def parseFlags : Read Flags := do
  let (items, neg) ← flagItems (← fuel) [] none
  match neg with
  | some sp => fail .flagDanglingNegation sp
  | none => pure items

/-- Reads the characters of a group name up to `>`. -/
def nameLoop : Nat → Nat → Read Unit
  | 0, _ => pure ()
  | n + 1, start => do
    let c ← cur
    if c = '>' then return
    if !isCaptureChar c ((← here) = start) then fail .groupNameInvalid (← spanChar)
    if !(← bump) then return
    nameLoop n start

/-- Reads a group name and its closing `>`; a name may be used once. -/
def parseCaptureName : Read Unit := do
  if ← eof then fail .groupNameUnexpectedEof (← spanHere)
  let start ← here
  nameLoop (← fuel) start
  let stop ← here
  if ← eof then fail .groupNameUnexpectedEof (← spanHere)
  let _ ← bump
  if stop = start then fail .groupNameEmpty ⟨start, start⟩
  let r ← get
  let name := String.ofList ((r.chars.toList.drop start).take (stop - start))
  match r.names.find? (·.1 == name) with
  | some (_, orig) =>
    throw { problem := .groupNameDuplicate, span := ⟨start, stop⟩, aux := some orig }
  | none => set { r with names := (name, ⟨start, stop⟩) :: r.names }

/-- Reads the start of a group: a flag group on its own (its flags and stretch), or an opening
(the flags of `(?flags:` if any, and the stretch of the parenthesis). -/
def parseGroup : Read (Sum (Flags × Span) (Option Flags × Span)) := do
  let opening ← spanChar
  let _ ← bump
  bumpSpace
  if ← lookaroundPrefix then fail .unsupportedLookAround ⟨opening.start, ← here⟩
  let inner ← spanHere
  let named ← if ← bumpIf ['?', 'P', '<'] then pure true else bumpIf ['?', '<']
  if named then
    parseCaptureName
    return .inr (none, opening)
  if ← bumpIf ['?'] then
    if ← eof then fail .groupUnclosed ⟨opening.start, ← here⟩
    let flags ← parseFlags
    let close ← cur
    let _ ← bump
    if close = ')' then
      if flags.isEmpty then fail .repetitionMissing inner
      return .inl (flags, ⟨opening.start, ← here⟩)
    return .inr (some flags, opening)
  return .inr (none, opening)

/-- Opens a group, or records a flag group in the concatenation. -/
def pushGroup (c : Pending) : Read Pending := do
  match ← parseGroup with
  | .inl (flags, sp) =>
    if let some v := flagState flags .ignoreWhitespace then
      modify fun r => { r with ignoreSpace := v }
    pure { c with parts := .flags flags sp :: c.parts }
  | .inr (flags, opening) =>
    let r ← get
    let old := r.ignoreSpace
    let new := ((flags.bind fun f => flagState f .ignoreWhitespace)).getD old
    set { r with groups := .group c flags opening old :: r.groups, ignoreSpace := new }
    pure { start := ← here }

/-- Closes the innermost group at its `)`. -/
def popGroup (inner : Pending) : Read Pending := do
  let r ← get
  let found : Option (Pending × Option Flags × Span × Bool × Option (List Ast × Nat) ×
      List Frame) := match r.groups with
    | .group outer flags opening ws :: rest => some (outer, flags, opening, ws, none, rest)
    | .alternation branches start :: .group outer flags opening ws :: rest =>
      some (outer, flags, opening, ws, some (branches, start), rest)
    | _ => none
  match found with
  | none => fail .groupUnopened (← spanChar)
  | some (outer, flags, opening, ws, alt, rest) =>
    let stop ← here
    set { r with groups := rest, ignoreSpace := ws }
    let _ ← bump
    let close ← here
    let sub := match alt with
      | none => inner.close stop
      | some (branches, start) => .alternation (inner.close stop :: branches).reverse ⟨start, stop⟩
    pure { outer with parts := .group flags sub ⟨opening.start, close⟩ :: outer.parts }

/-- Closes a branch at its `|`. -/
def pushAlternate (c : Pending) : Read Pending := do
  let item := c.close (← here)
  modify fun r => match r.groups with
    | .alternation branches start :: rest =>
      { r with groups := .alternation (item :: branches) start :: rest }
    | gs => { r with groups := .alternation [item] c.start :: gs }
  let _ ← bump
  pure { start := ← here }

/-- Closes the pattern at its end; a group still open is refused. -/
def popGroupEnd (c : Pending) : Read Ast := do
  let stop ← here
  match (← get).groups with
  | [] => pure (c.close stop)
  | [.alternation branches start] =>
    pure (.alternation (c.close stop :: branches).reverse ⟨start, stop⟩)
  | .alternation _ _ :: .group _ _ opening _ :: _ => fail .groupUnclosed opening
  | .group _ _ opening _ :: _ => fail .groupUnclosed opening
  | .alternation _ _ :: .alternation _ _ :: _ => pure (c.close stop)

/-! ## Bracketed classes -/

/-- The refusal of a class left open, pointing at the innermost open bracket. -/
def unclosedClass : Read α := do
  let opening := (← get).classes.findSome? fun
    | .opened _ _ sp => some sp
    | .op _ _ => none
  fail .classUnclosed (opening.getD ⟨0, 0⟩)

/-- Reads the `-` characters that open a class as literals. -/
def dashes : Nat → Nat → UnionBuild → Read UnionBuild
  | 0, _, u => pure u
  | n + 1, start, u => do
    if (← cur) ≠ '-' then return u
    let u := u.push (.literal { c := '-', span := ← spanChar })
    if !(← bumpAndSpace) then fail .classUnclosed ⟨start, start⟩
    dashes n start u

/-- Reads the opening of a bracketed class: whether it is negated, the stretch of its opening,
and the union it starts with (a leading `]` or `-` is a literal). -/
def parseClassOpen : Read (Bool × Span × UnionBuild) := do
  let start ← here
  if !(← bumpAndSpace) then fail .classUnclosed ⟨start, ← here⟩
  let negated ← if (← cur) ≠ '^' then pure false else do
    if !(← bumpAndSpace) then fail .classUnclosed ⟨start, ← here⟩
    pure true
  let u ← dashes (← fuel) start { span := ← spanHere }
  let u ← if u.items.isEmpty && (← cur) = ']' then do
      let u := u.push (.literal { c := ']', span := ← spanChar })
      if !(← bumpAndSpace) then fail .classUnclosed ⟨start, ← here⟩
      pure u
    else pure u
  pure (negated, ⟨start, ← here⟩, u)

/-- Opens a nested class inside a union. -/
def pushClassOpen (parent : UnionBuild) : Read UnionBuild := do
  let (negated, opening, nested) ← parseClassOpen
  modify fun r => { r with classes := .opened parent negated opening :: r.classes }
  pure nested

/-- Completes a pending operation with its right side. -/
def popClassOp (rhs : ClassSet) : Read ClassSet := do
  let r ← get
  match r.classes with
  | .op kind lhs :: rest =>
    set { r with classes := rest }
    pure (.op kind lhs rhs ⟨lhs.span.start, rhs.span.stop⟩)
  | _ => pure rhs

/-- Starts an operation whose left side is everything read so far in the class. -/
def pushClassOp (kind : SetOp) (u : UnionBuild) : Read UnionBuild := do
  let lhs ← popClassOp (.item u.toItem)
  modify fun r => { r with classes := .op kind lhs :: r.classes }
  pure { span := ← spanHere }

/-- Closes a class at its `]`: the enclosing union with the class in it, or the outermost
class (negated, set and stretch). -/
def popClass (u : UnionBuild) : Read (Sum UnionBuild (Bool × ClassSet × Span)) := do
  let body ← popClassOp (.item u.toItem)
  let r ← get
  match r.classes with
  | .opened outer negated opening :: rest =>
    set { r with classes := rest }
    let _ ← bump
    let sp : Span := ⟨opening.start, ← here⟩
    if rest.isEmpty then pure (.inr (negated, body, sp))
    else pure (.inl (outer.push (.bracketed negated body sp)))
  | _ => unclosedClass

/-- Reads an item of a class: an escape or a character. -/
def parseClassItem : Read Primitive := do
  if (← cur) = '\\' then parseEscape
  else
    let p := Primitive.literal { c := ← cur, span := ← spanChar }
    let _ ← bump
    pure p

/-- A piece as a class item; assertions and the dot cannot be one. -/
def toClassItem : Primitive → Read ClassItem
  | .literal l => pure (.literal l)
  | .perl k n s => pure (.perl k n s)
  | .unicode q n s => pure (.unicode q n s)
  | p => fail .classEscapeInvalid p.span

/-- A piece as the bound of a range; only a literal can be one. -/
def toClassLiteral : Primitive → Read Literal
  | .literal l => pure l
  | p => fail .classRangeLiteral p.span

/-- Reads an item of a class, or a range when a `-` follows that is not the last character. -/
def parseClassRange : Read ClassItem := do
  let p1 ← parseClassItem
  bumpSpace
  if ← eof then unclosedClass
  let c ← cur
  let pk ← peekSpace
  if c ≠ '-' || pk = some ']' || pk = some '-' then return ← toClassItem p1
  if !(← bumpAndSpace) then unclosedClass
  let p2 ← parseClassItem
  let sp : Span := ⟨p1.span.start, p2.span.stop⟩
  let lo ← toClassLiteral p1
  let hi ← toClassLiteral p2
  if lo.c > hi.c then fail .classRangeInvalid sp
  pure (.range lo hi sp)

/-- Moves past a name up to a colon or the end. -/
def skipToColon : Nat → Read Unit
  | 0 => pure ()
  | n + 1 => do
    if (← cur) = ':' then return
    if !(← bump) then return
    skipToColon n

/-- Reads a named class `[:name:]` or `[:^name:]` at a `[`, or moves back and gives none. -/
def maybeAsciiClass : Read (Option ClassItem) := do
  let start ← here
  let back : Read (Option ClassItem) := do
    modify fun r => { r with pos := start }
    pure none
  if !(← bump) then return ← back
  if (← cur) ≠ ':' then return ← back
  if !(← bump) then return ← back
  let negated := (← cur) = '^'
  if negated then
    if !(← bump) then return ← back
  let nameStart ← here
  skipToColon (← fuel)
  if ← eof then return ← back
  let r ← get
  let name := String.ofList ((r.chars.toList.drop nameStart).take (r.pos - nameStart))
  if !(← bumpIf [':', ']']) then return ← back
  match AsciiKind.ofName? name with
  | some kind => pure (some (.ascii kind negated ⟨start, ← here⟩))
  | none => back

/-- Reads a bracketed class to its closing bracket. -/
def classLoop : Nat → UnionBuild → Read (Bool × ClassSet × Span)
  | 0, _ => unclosedClass
  | n + 1, u => do
    bumpSpace
    if ← eof then unclosedClass
    let c ← cur
    let pk ← peek
    if c = '[' then
      let ascii ← if (← get).classes.isEmpty then pure none else maybeAsciiClass
      match ascii with
      | some item => classLoop n (u.push item)
      | none => classLoop n (← pushClassOpen u)
    else if c = ']' then
      match ← popClass u with
      | .inl u => classLoop n u
      | .inr done => pure done
    else if c = '&' && pk = some '&' then
      let _ ← bumpIf ['&', '&']
      classLoop n (← pushClassOp .intersection u)
    else if c = '-' && pk = some '-' then
      let _ ← bumpIf ['-', '-']
      classLoop n (← pushClassOp .difference u)
    else if c = '~' && pk = some '~' then
      let _ ← bumpIf ['~', '~']
      classLoop n (← pushClassOp .symmetricDifference u)
    else
      classLoop n (u.push (← parseClassRange))

/-- Reads a bracketed class from its `[`. -/
def parseClass : Read Ast := do
  let (negated, body, sp) ← classLoop (← fuel) { span := ← spanHere }
  pure (.bracketed negated body sp)

/-! ## Patterns -/

/-- Reads items until the end of the pattern. -/
def mainLoop : Nat → Pending → Read Pending
  | 0, c => pure c
  | n + 1, c => do
    bumpSpace
    if ← eof then return c
    let c ← match ← cur with
      | '(' => pushGroup c
      | ')' => popGroup c
      | '|' => pushAlternate c
      | '[' => do
        let cls ← parseClass
        pure { c with parts := cls :: c.parts }
      | '?' => uncounted c 0 (some 1)
      | '*' => uncounted c 0 none
      | '+' => uncounted c 1 none
      | '\x7b' => counted c
      | _ => do
        let p ← parsePrimitive
        pure { c with parts := p.toAst :: c.parts }
    mainLoop n c

end Read

/-- The deepest that pieces of a pattern may nest. -/
def nestLimit : Nat := 250

mutual
/-- The first piece of a tree, in reading order, that stands deeper than the nesting limit,
given the depth of what holds the tree.  Groups, repetitions, alternations, concatenations and
bracketed classes each add a level; the other pieces add none. -/
def Ast.tooDeep (d : Nat) : Ast → Option Span
  | .bracketed _ set sp => if d + 1 > nestLimit then some sp else ClassSet.tooDeep (d + 1) set
  | .repetition _ _ _ sub sp => if d + 1 > nestLimit then some sp else Ast.tooDeep (d + 1) sub
  | .group _ sub sp => if d + 1 > nestLimit then some sp else Ast.tooDeep (d + 1) sub
  | .alternation branches sp =>
    if d + 1 > nestLimit then some sp else Ast.firstTooDeep (d + 1) branches
  | .concat parts sp => if d + 1 > nestLimit then some sp else Ast.firstTooDeep (d + 1) parts
  | _ => none

/-- The first piece of a list of trees that stands too deep, each tree held at the same depth. -/
def Ast.firstTooDeep (d : Nat) : List Ast → Option Span
  | [] => none
  | a :: as =>
    match Ast.tooDeep d a with
    | some sp => some sp
    | none => Ast.firstTooDeep d as

/-- The first piece of a class item that stands too deep: nested brackets and unions each add
a level. -/
def ClassItem.tooDeep (d : Nat) : ClassItem → Option Span
  | .bracketed _ set sp => if d + 1 > nestLimit then some sp else ClassSet.tooDeep (d + 1) set
  | .union items sp => if d + 1 > nestLimit then some sp else ClassItem.firstTooDeep (d + 1) items
  | _ => none

/-- The first piece of a list of class items that stands too deep. -/
def ClassItem.firstTooDeep (d : Nat) : List ClassItem → Option Span
  | [] => none
  | i :: is =>
    match ClassItem.tooDeep d i with
    | some sp => some sp
    | none => ClassItem.firstTooDeep d is

/-- The first piece of a class set that stands too deep: an operation adds a level, above both
of its sides. -/
def ClassSet.tooDeep (d : Nat) : ClassSet → Option Span
  | .item i => ClassItem.tooDeep d i
  | .op _ lhs rhs sp =>
    if d + 1 > nestLimit then some sp
    else match ClassSet.tooDeep (d + 1) lhs with
      | some s => some s
      | none => ClassSet.tooDeep (d + 1) rhs
end

/-- The syntax tree of a pattern, or why it is refused: a pattern that reads well is still
refused when it nests too deep. -/
def parsePattern (pattern : String) : Except Fault Ast :=
  let run : Read Ast := do
    let c ← Read.mainLoop (pattern.length + 1) { start := 0 }
    Read.popGroupEnd c
  match run.run' { chars := pattern.toList.toArray } with
  | .ok ast =>
    match ast.tooDeep 0 with
    | some sp => .error { problem := .nestLimitExceeded, span := sp }
    | none => .ok ast
  | .error f => .error f

end TegraGpu.Regex
