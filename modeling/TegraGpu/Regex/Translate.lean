import TegraGpu.Regex.Parse
import TegraGpu.Regex.Meaning
/-!
# Giving a pattern its meaning

A syntax tree is given its meaning under the flags in force where each piece stands: a flag
group changes them for the rest of the group that holds it, and `(?flags:...)` for its inside.
Unicode mode is on at the start, and in it the patterns here have no case-insensitive
matching, no Perl classes (`\d`, `\s`, `\w`) and no Unicode properties (`\p`): each of these is
refused where it stands.  Outside Unicode mode, classes are sets of ASCII characters, and
anything that could match a byte that is not ASCII on its own (the dot, a negated class) is
refused.

Characters and classes become literals and sets of code points, anchors and word boundaries
become assertions about the characters on either side of a position, a repetition keeps its
bounds and is lazy when marked so, the other way round under `U`, and capture groups are
numbered from one in the order of their opening parentheses.  Every piece is built with the
constructors of the meaning, so the result is in its normal form.

* `Mode` : the flags in force.
* `translate` : the meaning of a syntax tree, or why it is refused.
* `meaningOf` : the same from the flags at the start of a pattern.
-/

namespace TegraGpu.Regex

/-- The flags in force. -/
structure Mode where
  /-- `i`. -/
  caseInsensitive : Bool := false
  /-- `m`. -/
  multiLine : Bool := false
  /-- `s`. -/
  dotAll : Bool := false
  /-- `u`. -/
  unicode : Bool := true
  /-- `R`. -/
  crlf : Bool := false
  /-- `U`. -/
  swapGreed : Bool := false

/-- The flags after a flag group: each flag it names is on, or off after a `-`. -/
def Mode.apply (m : Mode) (items : Flags) : Mode :=
  (items.foldl (fun (acc : Mode × Bool) (item, _) =>
    let (m, on) := acc
    match item with
    | .negation => (m, false)
    | .flag .caseInsensitive => ({ m with caseInsensitive := on }, on)
    | .flag .multiLine => ({ m with multiLine := on }, on)
    | .flag .dotMatchesNewLine => ({ m with dotAll := on }, on)
    | .flag .unicode => ({ m with unicode := on }, on)
    | .flag .crlf => ({ m with crlf := on }, on)
    | .flag .swapGreed => ({ m with swapGreed := on }, on)
    | .flag .ignoreWhitespace => (m, on)) (m, true)).1

/-- A step of giving a pattern its meaning: the flags in force, and the number of capture
groups met so far, are its state. -/
abbrev Trans := StateT Mode (StateT Nat (Except Fault))

/-- Refuses the pattern. -/
def Trans.fail (problem : Problem) (span : Span) : Trans α :=
  throw { problem, span }

/-- The name of a property as it is looked up: without an `is` prefix, blanks, `_` and `-`,
and in lower case. -/
def normalizeProperty (name : String) : String :=
  let cs := name.toList
  let isPrefix := match cs with
    | a :: b :: _ => (a = 'i' || a = 'I') && (b = 's' || b = 'S')
    | _ => false
  let body := (if isPrefix then cs.drop 2 else cs).filterMap fun c =>
    if c = ' ' || c = '_' || c = '-' || c.toNat ≥ 128 then none else some c.toLower
  if isPrefix && body = ['c'] then "isc" else String.ofList body

/-- Why a Unicode property cannot be used: the patterns here know no property tables.  The
names `cf`, `sc` and `lc` are general categories, whose values are missing; every other name is
missing as a property. -/
def propertyProblem : PropertyQuery → Problem
  | .named name =>
    if ["cf", "sc", "lc"].contains (normalizeProperty name) then .unicodePropertyValueNotFound
    else .unicodePropertyNotFound
  | _ => .unicodePropertyNotFound

/-- The largest code point of a mode: all of Unicode, or a byte. -/
def Mode.top (m : Mode) : Nat := if m.unicode then 0x10FFFF else 0xFF

/-- Closes a class under case and negates it, as its flags and brackets ask.  In Unicode mode a
nonempty class cannot be closed under case; outside it, the result has to be ASCII. -/
def foldNegate (sp : Span) (negated : Bool) (r : Ranges) : Trans Ranges := do
  let m ← get
  if m.unicode then
    if m.caseInsensitive && !r.isEmpty then Trans.fail .unicodeCaseUnavailable sp
    pure (if negated then Ranges.negate m.top r else r)
  else
    let r := if m.caseInsensitive then r.foldAscii else r
    let r := if negated then Ranges.negate m.top r else r
    if !r.isAscii then Trans.fail .invalidUtf8 sp
    pure r

/-- The code point of a literal in a class outside Unicode mode: it has to be ASCII. -/
def classByte (l : Literal) : Trans Nat := do
  if l.c.toNat ≤ 0x7F then pure l.c.toNat
  else if l.hexByte then Trans.fail .invalidUtf8 l.span
  else Trans.fail .unicodeNotAllowed l.span

/-- The set of a Perl class.  In Unicode mode there is none to give; outside it, the ASCII
digits, blanks or word characters, and a negated one would match bytes beyond ASCII. -/
def perlClass (kind : PerlKind) (negated : Bool) (sp : Span) : Trans Ranges := do
  let m ← get
  if m.unicode then Trans.fail .unicodePerlClassNotFound sp
  let r := match kind with
    | .digit => AsciiKind.digit.ranges
    | .space => AsciiKind.space.ranges
    | .word => AsciiKind.word.ranges
  if negated then Trans.fail .invalidUtf8 sp
  pure r

/-- The set of a Unicode property class, which is always refused: outside Unicode mode it is
not allowed, and in it the property is missing. -/
def unicodeClass (q : PropertyQuery) (sp : Span) : Trans Ranges := do
  if !(← get).unicode then Trans.fail .unicodeNotAllowed sp
  Trans.fail (propertyProblem q) sp

mutual
/-- The set of a class item. -/
def classItem : ClassItem → Trans Ranges
  | .empty _ => pure []
  | .literal l => do
    if (← get).unicode then pure [(l.c.toNat, l.c.toNat)]
    else
      let b ← classByte l
      pure [(b, b)]
  | .range lo hi _ => do
    if (← get).unicode then pure [(lo.c.toNat, hi.c.toNat)]
    else
      let a ← classByte lo
      let b ← classByte hi
      pure [(a, b)]
  | .ascii kind negated sp => foldNegate sp negated kind.ranges
  | .unicode q _ sp => unicodeClass q sp
  | .perl kind negated sp => perlClass kind negated sp
  | .bracketed negated set sp => do
    let r ← classSet set
    foldNegate sp negated r
  | .union items _ => classItems items

/-- The union of the sets of class items. -/
def classItems : List ClassItem → Trans Ranges
  | [] => pure []
  | i :: is => do
    let a ← classItem i
    let b ← classItems is
    pure (Ranges.union a b)

/-- The set of a class set; both sides of an operation are closed under case first. -/
def classSet : ClassSet → Trans Ranges
  | .item i => classItem i
  | .op kind lhs rhs _ => do
    let l ← classSet lhs
    let r ← classSet rhs
    let m ← get
    let (l, r) ← if !m.caseInsensitive then pure (l, r)
      else if m.unicode then do
        if !r.isEmpty then Trans.fail .unicodeCaseUnavailable rhs.span
        if !l.isEmpty then Trans.fail .unicodeCaseUnavailable lhs.span
        pure (l, r)
      else pure (l.foldAscii, r.foldAscii)
    pure <| match kind with
      | .intersection => Ranges.inter l r
      | .difference => Ranges.diff m.top l r
      | .symmetricDifference => Ranges.symDiff m.top l r
end

/-- The meaning of a literal: the character, or both cases of an ASCII letter outside Unicode
mode under `i`.  In Unicode mode nothing is matched without regard to case. -/
def literal (l : Literal) : Trans Hir := do
  let m ← get
  let n := l.c.toNat
  if !m.unicode && l.hexByte && n > 0x7F then Trans.fail .invalidUtf8 l.span
  if !m.caseInsensitive then return Hir.ofChars [l.c]
  if m.unicode then Trans.fail .unicodeCaseUnavailable l.span
  pure (if n < 128 then Hir.ofSet (Ranges.foldAscii [(n, n)]) else Hir.ofChars [l.c])

/-- The meaning of the dot: any character but a line feed, or any at all under `s`, and under
`R` no carriage return either.  Outside Unicode mode it would match any byte. -/
def dot (sp : Span) : Trans Hir := do
  let m ← get
  if !m.unicode then Trans.fail .invalidUtf8 sp
  if m.dotAll then pure (Hir.ofSet [(0, 0x10FFFF)])
  else if m.crlf then pure (Hir.ofSet [(0, 9), (11, 12), (14, 0x10FFFF)])
  else pure (Hir.ofSet [(0, 9), (11, 0x10FFFF)])

/-- The meaning of an assertion under the flags in force. -/
def assertion (kind : AssertionKind) : Trans Hir := do
  let m ← get
  let ascii (l : Look) : Look := if m.unicode then .wordUnicode else l
  pure <| .look <| match kind with
    | .startLine => if m.multiLine then (if m.crlf then .startCRLF else .startLF) else .start
    | .endLine => if m.multiLine then (if m.crlf then .endCRLF else .endLF) else .finish
    | .startText => .start
    | .endText => .finish
    | .wordBoundary => ascii .wordAscii
    | .notWordBoundary => ascii .notWordAscii
    | .wordStart => ascii .wordStartAscii
    | .wordEnd => ascii .wordEndAscii
    | .wordStartHalf => ascii .wordStartHalfAscii
    | .wordEndHalf => ascii .wordEndHalfAscii

mutual
/-- The meaning of a syntax tree under the flags in force, which flag groups change. -/
def translate : Ast → Trans Hir
  | .empty _ => pure .empty
  | .flags items _ => do
    modify (·.apply items)
    pure .empty
  | .literal l => literal l
  | .dot sp => dot sp
  | .assertion kind _ => assertion kind
  | .unicode q _ sp => do
    let r ← unicodeClass q sp
    pure (Hir.ofSet r)
  | .perl kind negated sp => do
    let r ← perlClass kind negated sp
    pure (Hir.ofSet r)
  | .bracketed negated set sp => do
    let r ← classSet set
    let r ← foldNegate sp negated r
    pure (Hir.ofSet r)
  | .repetition min max greedy sub _ => do
    let h ← translate sub
    pure (Hir.repeat min max (greedy != (← get).swapGreed) h)
  | .group flags sub _ => do
    let saved ← get
    let index ← match flags with
      | some f => do modify (·.apply f); pure none
      | none => do modifyThe Nat (· + 1); pure (some (← getThe Nat))
    let h ← translate sub
    set saved
    pure (match index with
      | some i => .capture i h
      | none => h)
  | .alternation branches _ => do
    pure (Hir.altOf (← translateAll branches))
  | .concat parts _ => do
    pure (Hir.concatOf (← translateAll parts))

/-- The meanings of a list of syntax trees, in order. -/
def translateAll : List Ast → Trans (List Hir)
  | [] => pure []
  | a :: as => do
    let h ← translate a
    let hs ← translateAll as
    pure (h :: hs)
end

/-- The meaning of a syntax tree under the flags at the start of a pattern. -/
def meaningOf (ast : Ast) : Except Fault Hir :=
  ((translate ast).run' {}).run' 0

end TegraGpu.Regex
