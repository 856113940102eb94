import TegraGpu.Toml.Token
import TegraGpu.Toml.Fault
/-!
# The syntax of a TOML document

The tokens of a document are read into a stream of events: table headers, keys with their dots,
`=`, and values, where an array or an inline table opens, holds values or entries separated by
commas, and closes.  Only the order of the tokens is checked here, and the characters of line
breaks and comments; what a key or a value says, and whether keys clash, is left to the reader
of the events.  The first thing out of order refuses the document.

* A line holds a header, an entry or nothing, then blanks and a comment if any, then its end.
* A header is `[` or `[[`, a dotted key, then `]` or `]]`.  A header that does not close is
  refused just after its last word, unless its key missed a part.
* An entry is a dotted key, `=` and a value.  A key part that is missing (`= 1`, `a. = 1`) is
  an empty bare key, and a value that is missing (`a =`, `{a}`) an empty bare value; the reader
  refuses both, after every fault of the syntax.
* A value is a string, an array, an inline table, or bare words: a float is its words and dots
  together (`1`, `.`, `5`), and words separated by blanks are one value (`1979-05-27 07:32:00`).
* An array or an inline table that does not close is refused just after its last token that is
  neither a blank, a comment nor a line break.
* Arrays and inline tables may span lines and hold comments, and may end with a comma.  They
  nest at most 80 deep.

* `Event` : what the syntax says.
* `parseDocument` : the events of a document's tokens, or the first fault.
-/

namespace TegraGpu.Toml

/-- The four quotings of a string. -/
inductive Quoting where
  /-- `'...'` -/
  | literal
  /-- `"..."` -/
  | basic
  /-- `'''...'''` -/
  | multiLiteral
  /-- `"""..."""` -/
  | multiBasic
  deriving DecidableEq

/-- How a token that can be a key or a value is written: quoted, or bare. -/
def quotingOf? : TokenKind → Option (Option Quoting)
  | .literalString => some (some .literal)
  | .basicString => some (some .basic)
  | .multiLiteralString => some (some .multiLiteral)
  | .multiBasicString => some (some .multiBasic)
  | .word => some none
  | _ => none

/-- What the syntax of a document says, in order. -/
inductive Event where
  /-- A header opens: `[`, or `[[` for an array of tables. -/
  | tableOpen (array : Bool) (span : Span)
  /-- A header closes. -/
  | tableClose (span : Span)
  /-- A part of a key, quoted or bare, with its text. -/
  | key (span : Span) (quoting : Option Quoting) (text : List Char)
  /-- The dot between parts of a key. -/
  | keySep
  /-- The `=` between a key and its value. -/
  | keyValSep
  /-- A string, number, boolean or date, with its text. -/
  | scalar (span : Span) (quoting : Option Quoting) (text : List Char)
  /-- An array opens. -/
  | arrayOpen (span : Span)
  /-- An array closes. -/
  | arrayClose (span : Span)
  /-- An inline table opens. -/
  | inlineOpen (span : Span)
  /-- An inline table closes. -/
  | inlineClose (span : Span)
  /-- The comma between values or entries. -/
  | valueSep

/-- The tokens not read yet, those read, and the events so far. -/
structure Cursor where
  /-- The tokens not read yet. -/
  rest : List Token
  /-- The tokens read, the last first. -/
  seen : List Token := []
  /-- The events so far. -/
  events : Array Event := #[]
  /-- The arrays and inline tables open around the next token. -/
  depth : Nat := 0

/-- Reading tokens into events, stopping at the first fault. -/
abbrev Parse := StateT Cursor (Except Fault)

/-- What an inline table waits for. -/
inductive InlineState where
  | needsKey
  | needsEquals
  | needsValue
  | needsComma
  deriving DecidableEq

/-- What would have done where an inline table waits. -/
def InlineState.expected : InlineState → List Expected
  | .needsKey => [.description "key"]
  | .needsEquals => [.literal "="]
  | .needsValue => [.description "value"]
  | .needsComma => [.literal ","]

/-- Whether a token says something: neither blanks, a comment, a line break nor the end. -/
def TokenKind.isSignificant (k : TokenKind) : Bool :=
  k ≠ .whitespace && k ≠ .comment && k ≠ .newline && k ≠ .finish

namespace Parse

/-- Takes the next token. -/
def next? : Parse (Option Token) := do
  let c ← get
  match c.rest with
  | [] => pure none
  | t :: r => set { c with rest := r, seen := t :: c.seen }; pure (some t)

/-- The next token, left in place. -/
def peek? : Parse (Option Token) := do
  pure (← get).rest.head?

/-- Puts the token read last back. -/
def back (t : Token) : Parse Unit :=
  modify fun c => { c with rest := t :: c.rest, seen := c.seen.drop 1 }

/-- Records an event. -/
def emit (e : Event) : Parse Unit :=
  modify fun c => { c with events := c.events.push e }

/-- The deepest nesting of arrays and inline tables in a document. -/
def nestingLimit : Nat := 80

/-- Opens an array or an inline table at a token; one more than the limit allows is refused. -/
def enter (t : Token) : Parse Unit := do
  let c ← get
  if nestingLimit ≤ c.depth then
    throw (Fault.make "cannot recurse further; max recursion depth met" none t.span)
  set { c with depth := c.depth + 1 }

/-- Closes an array or an inline table. -/
def leave : Parse Unit :=
  modify fun c => { c with depth := c.depth - 1 }

/-- The empty stretch right after the last token read that says something: where a closing
bracket or brace was missed. -/
def afterLastSignificant : Parse Span := do
  match (← get).seen.find? (·.kind.isSignificant) with
  | some t => pure (Span.at t.span.stop)
  | none => pure (Span.at 0)

/-- Whether a character may stand in a comment. -/
def isCommentChar (c : Char) : Bool :=
  c = '\t' || (0x20 ≤ c.toNat && c.toNat ≤ 0x7E) || 0x80 ≤ c.toNat

/-- The byte of the first character of a text at a byte that fails a test. -/
def firstFailing (test : Char → Bool) : Nat → List Char → Option Nat
  | _, [] => none
  | pos, c :: r => if test c then firstFailing test (pos + c.utf8Size) r else some pos

/-- Checks the characters of a comment. -/
def checkComment (t : Token) : Parse Unit :=
  match firstFailing isCommentChar t.span.start t.text with
  | some p =>
    throw (Fault.make "invalid comment character" (some [.description "printable characters"])
      (Span.at p))
  | none => pure ()

/-- Checks a line break: a carriage return must come with a line feed. -/
def checkNewline (t : Token) : Parse Unit :=
  if t.text = ['\r'] then
    throw (Fault.make "carriage return must be followed by newline"
      (some [.description "newline"]) (Span.at t.span.stop))
  else pure ()

/-- Skips blanks. -/
def skipBlank : Nat → Parse Unit
  | 0 => pure ()
  | n + 1 => do
    match ← peek? with
    | some t => if t.kind = .whitespace then do let _ ← next?; skipBlank n else pure ()
    | none => pure ()

/-- Records an empty bare key just before a token. -/
def emptyKey (t : Token) : Parse Unit :=
  emit (.key (Span.at t.span.start) none [])

/-- Records an empty bare value just before a token. -/
def emptyValue (t : Token) : Parse Unit :=
  emit (.scalar (Span.at t.span.start) none [])

/-- Reads the key part after a dot; whether there was one.  When there is none, an empty key
stands for it. -/
def keyPart : Nat → Token → Parse Bool
  | 0, _ => pure false
  | n + 1, dot => do
    match ← next? with
    | none => emit (.key (Span.at dot.span.stop) none []); pure false
    | some t =>
      match quotingOf? t.kind with
      | some q => emit (.key t.span q t.text); pure true
      | none =>
        if t.kind = .whitespace then keyPart n dot
        else if t.kind = .dot then do emptyKey t; emit .keySep; keyPart n t
        else do emptyKey t; back t; pure false

/-- Reads the dotted parts of a key after its first; whether none was missing. -/
def dottedRest : Nat → Parse Bool
  | 0 => pure true
  | n + 1 => do
    skipBlank n
    match ← peek? with
    | some t =>
      if t.kind = .dot then do
        let _ ← next?
        emit .keySep
        let found ← keyPart n t
        if found then dottedRest n else pure false
      else pure true
    | none => pure true

/-- Reads the rest of a line after a header or an entry: blanks, a comment, the line break. -/
def lineEnd : Nat → Parse Unit
  | 0 => pure ()
  | n + 1 => do
    match ← next? with
    | none => pure ()
    | some t =>
      match t.kind with
      | .whitespace => lineEnd n
      | .comment => checkComment t
      | .newline => checkNewline t
      | .finish => back t
      | _ =>
        throw (Fault.make "unexpected key or value"
          (some [.description "newline", .literal "#"]) (Span.at t.span.start))

/-- Reads bare words and dots that make one value with a first word: words and dots that
follow at once, and a word after blanks. -/
def joinWords : Nat → Span → List Char → Parse (Span × List Char)
  | 0, s, text => pure (s, text)
  | n + 1, s, text => do
    let c ← get
    match c.rest with
    | t :: r =>
      if t.kind = .dot || t.kind = .word then do
        set { c with rest := r, seen := t :: c.seen }
        joinWords n ⟨s.start, t.span.stop⟩ (text ++ t.text)
      else if t.kind = .whitespace then
        match r with
        | w :: r' =>
          if w.kind = .word then do
            set { c with rest := r', seen := w :: t :: c.seen }
            joinWords n ⟨s.start, w.span.stop⟩ (text ++ t.text ++ w.text)
          else pure (s, text)
        | [] => pure (s, text)
      else pure (s, text)
    | [] => pure (s, text)

mutual

/-- Reads a value.  Where none stands, an empty value does, and a closing bracket or brace
with no opening is refused. -/
def value : Nat → Parse Unit
  | 0 => pure ()
  | n + 1 => do
    match ← next? with
    | none => pure ()
    | some t =>
      match t.kind with
      | .leftBracket => do enter t; emit (.arrayOpen t.span); arrayItems n false
      | .leftBrace => do enter t; emit (.inlineOpen t.span); inlineEntries n .needsKey
      | .rightBracket =>
        throw (Fault.make "missing array opening" (some [.literal "["]) (Span.at t.span.start))
      | .rightBrace =>
        throw (Fault.make "missing inline table opening" (some [.literal "\x7b"])
          (Span.at t.span.start))
      | .equals => throw (Fault.make "extra `=`" (some []) t.span)
      | .dot => do let (s, text) ← joinWords n t.span t.text; emit (.scalar s none text)
      | .word => do let (s, text) ← joinWords n t.span t.text; emit (.scalar s none text)
      | k =>
        match quotingOf? k with
        | some q => emit (.scalar t.span q t.text)
        | none => do emptyValue t; back t

/-- Reads the rest of an array, after its opening or after a value or comma. -/
def arrayItems : Nat → Bool → Parse Unit
  | 0, _ => pure ()
  | n + 1, needsComma => do
    match ← next? with
    | none => pure ()
    | some t =>
      match t.kind with
      | .comment => do checkComment t; arrayItems n needsComma
      | .whitespace => arrayItems n needsComma
      | .newline => do checkNewline t; arrayItems n needsComma
      | .finish => do
        back t
        throw (Fault.make "unclosed array" (some [.literal "]"]) (← afterLastSignificant))
      | .comma =>
        if needsComma then do emit .valueSep; arrayItems n false
        else throw (Fault.make "extra comma in array" (some [.description "value"]) t.span)
      | .equals =>
        throw (Fault.make "unexpected `=` in array" (some [.description "value", .literal "]"])
          t.span)
      | .rightBracket => do leave; emit (.arrayClose t.span)
      | _ =>
        if needsComma then
          throw (Fault.make "missing comma between array elements" (some [.literal ","])
            (Span.at t.span.start))
        else do back t; value n; arrayItems n true

/-- Reads the rest of an inline table, in the state it waits in. -/
def inlineEntries : Nat → InlineState → Parse Unit
  | 0, _ => pure ()
  | n + 1, st => do
    match ← next? with
    | none => pure ()
    | some t =>
      let misplaced (what : String) : Parse Unit :=
        throw (Fault.make what (some st.expected) (Span.at t.span.start))
      match t.kind with
      | .comment => do checkComment t; inlineEntries n st
      | .whitespace => inlineEntries n st
      | .newline => do checkNewline t; inlineEntries n st
      | .finish => do
        back t
        throw (Fault.make "unclosed inline table" (some [.literal "\x7d"])
          (← afterLastSignificant))
      | .comma =>
        if st = .needsComma then do emit .valueSep; inlineEntries n .needsKey
        else throw (Fault.make "extra comma in inline table" (some st.expected) t.span)
      | .equals =>
        match st with
        | .needsKey => do emptyKey t; emit .keyValSep; inlineEntries n .needsValue
        | .needsEquals => do emit .keyValSep; inlineEntries n .needsValue
        | _ =>
          throw (Fault.make "extra assignment between key-value pairs" (some st.expected) t.span)
      | .rightBrace => do
        match st with
        | .needsEquals => do emit .keyValSep; emptyValue t
        | .needsValue => emptyValue t
        | _ => pure ()
        leave
        emit (.inlineClose t.span)
      | .rightBracket =>
        if st = .needsValue then do back t; value n; inlineEntries n .needsComma
        else throw (Fault.make "invalid inline table element" (some st.expected) t.span)
      | k =>
        match st with
        | .needsKey =>
          match quotingOf? k with
          | some q => do
            emit (.key t.span q t.text)
            let _ ← dottedRest n
            inlineEntries n .needsEquals
          | none =>
            if k = .dot then do
              emptyKey t
              back t
              let _ ← dottedRest n
              inlineEntries n .needsEquals
            else misplaced "missing key for inline table element"
        | .needsEquals =>
          if k = .leftBracket || k = .leftBrace then misplaced "missing key for inline table element"
          else misplaced "missing assignment between key-value pairs"
        | .needsValue => do back t; value n; inlineEntries n .needsComma
        | .needsComma =>
          if k = .leftBracket || k = .leftBrace then misplaced "missing key for inline table element"
          else misplaced "missing comma between key-value pairs"

end

/-- Reads `=`, the value and the end of the line after the key of an entry; `missing` is the
refusal when no `=` follows. -/
def afterKey (n : Nat) (missing : String) : Parse Unit := do
  skipBlank n
  match ← peek? with
  | some t =>
    if t.kind = .equals then do
      let _ ← next?
      emit .keyValSep
      skipBlank n
      value n
      lineEnd n
    else throw (Fault.make missing (some [.literal "="]) (Span.at t.span.start))
  | none => pure ()

/-- Reads the key of a header; whether it was there whole.  A missing part is an empty key. -/
def headerKey : Nat → Parse Bool
  | 0 => pure false
  | n + 1 => do
    match ← next? with
    | none => pure false
    | some t =>
      match quotingOf? t.kind with
      | some q => do emit (.key t.span q t.text); dottedRest n
      | none =>
        if t.kind = .whitespace then headerKey n
        else if t.kind = .dot then do
          emptyKey t
          emit .keySep
          headerKey n
        else do emptyKey t; back t; pure false

/-- Skips to the end of a line, checking the comment it ends with. -/
def skipLine : Nat → Parse Unit
  | 0 => pure ()
  | n + 1 => do
    match ← next? with
    | none => pure ()
    | some t =>
      if t.kind = .newline || t.kind = .finish then back t
      else if t.kind = .comment then checkComment t
      else skipLine n

/-- Reads a header after its first `[`.  A header whose key is whole must close; one whose key
misses a part is left for the reader to refuse by its empty key. -/
def header (n : Nat) (opener : Token) : Parse Unit := do
  let array ← match ← peek? with
    | some t =>
      if t.kind = .leftBracket then do
        let _ ← next?
        emit (.tableOpen true ⟨opener.span.start, t.span.stop⟩)
        pure true
      else do emit (.tableOpen false opener.span); pure false
    | none => do emit (.tableOpen false opener.span); pure false
  skipBlank n
  let whole ← headerKey n
  skipBlank n
  match ← peek? with
  | some t =>
    if t.kind = .rightBracket then do
      let _ ← next?
      if array then
        match ← peek? with
        | some t2 =>
          if t2.kind = .rightBracket then do
            let _ ← next?
            emit (.tableClose ⟨t.span.start, t2.span.stop⟩)
            lineEnd n
          else
            throw (Fault.make "unclosed array table" (some [.literal "]"]) (Span.at t.span.stop))
        | none =>
          throw (Fault.make "unclosed array table" (some [.literal "]"]) (Span.at t.span.stop))
      else do emit (.tableClose t.span); lineEnd n
    else if whole then do
      let c ← get
      let last := (c.seen.find? (·.kind ≠ .whitespace)).getD opener
      throw (Fault.make (if array then "unclosed array table" else "unclosed table")
        (some [.literal (if array then "]]" else "]")]) (Span.at last.span.stop))
    else do emit (.tableClose (Span.at t.span.start)); skipLine n
  | none => pure ()

/-- Reads the lines of a document. -/
def document : Nat → Parse Unit
  | 0 => pure ()
  | n + 1 => do
    match ← next? with
    | none => pure ()
    | some t =>
      match t.kind with
      | .finish => pure ()
      | .whitespace => document n
      | .newline => do checkNewline t; document n
      | .comment => do checkComment t; document n
      | .leftBracket => do header n t; document n
      | .rightBracket =>
        throw (Fault.make "missing table open" (some [.literal "["]) (Span.at t.span.start))
      | .equals => do
        emptyKey t
        back t
        afterKey n "key with no value"
        document n
      | .dot => do
        emptyKey t
        back t
        let _ ← dottedRest n
        afterKey n "missing value for key"
        document n
      | k =>
        match quotingOf? k with
        | some q => do
          emit (.key t.span q t.text)
          let _ ← dottedRest n
          afterKey n "key with no value"
          document n
        | none =>
          throw (Fault.make "invalid key-value pair" (some [.description "key"])
            (Span.at t.span.start))

end Parse

/-- The events of a document's tokens, or the first thing out of order. -/
def parseDocument (tokens : List Token) : Except Fault (Array Event) := do
  let ((), c) ← (Parse.document (4 * tokens.length + 4)).run { rest := tokens }
  pure c.events

end TegraGpu.Toml
