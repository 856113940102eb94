import TegraGpu.Regex.Fault
/-!
# The syntax tree of a pattern

A pattern is read into a tree before it is given a meaning: literals, the dot, assertions,
classes, repetitions, groups, alternations and concatenations, each with the stretch of the
pattern it came from, which is where a later refusal points.  Flags are kept as written, since
what they mean depends on the flags in force where they stand.

* `Flag`, `FlagItem` : the flags of `(?flags)` and `(?flags:...)`.
* `AssertionKind`, `AsciiKind`, `PerlKind`, `PropertyQuery` : the named pieces.
* `Literal`, `ClassItem`, `ClassSet` : literals and bracketed classes.
* `Ast` : the tree.
-/

namespace TegraGpu.Regex

/-- A flag of a flag group. -/
inductive Flag where
  /-- `i`: letters match in either case. -/
  | caseInsensitive
  /-- `m`: `^` and `$` match at line ends. -/
  | multiLine
  /-- `s`: the dot matches a line feed. -/
  | dotMatchesNewLine
  /-- `U`: repetitions are lazy unless marked. -/
  | swapGreed
  /-- `u`: classes and case are Unicode-aware. -/
  | unicode
  /-- `R`: a carriage return and line feed together end a line. -/
  | crlf
  /-- `x`: blanks and comments in the pattern are skipped. -/
  | ignoreWhitespace
  deriving DecidableEq

/-- One item of a flag group: a flag or the `-` that turns the flags after it off. -/
inductive FlagItem where
  | negation
  | flag (f : Flag)
  deriving DecidableEq

/-- The items of a flag group with their stretches. -/
abbrev Flags := List (FlagItem × Span)

/-- The zero-width assertions. -/
inductive AssertionKind where
  | startLine
  | endLine
  | startText
  | endText
  | wordBoundary
  | notWordBoundary
  | wordStart
  | wordEnd
  | wordStartHalf
  | wordEndHalf
  deriving DecidableEq

/-- The named classes of `[[:name:]]`. -/
inductive AsciiKind where
  | alnum
  | alpha
  | ascii
  | blank
  | cntrl
  | digit
  | graph
  | lower
  | print
  | punct
  | space
  | upper
  | word
  | xdigit
  deriving DecidableEq

/-- The class of a name, if it is one. -/
def AsciiKind.ofName? : String → Option AsciiKind
  | "alnum" => some .alnum
  | "alpha" => some .alpha
  | "ascii" => some .ascii
  | "blank" => some .blank
  | "cntrl" => some .cntrl
  | "digit" => some .digit
  | "graph" => some .graph
  | "lower" => some .lower
  | "print" => some .print
  | "punct" => some .punct
  | "space" => some .space
  | "upper" => some .upper
  | "word" => some .word
  | "xdigit" => some .xdigit
  | _ => none

/-- The code points of a named class. -/
def AsciiKind.ranges : AsciiKind → Ranges
  | .alnum => [(0x30, 0x39), (0x41, 0x5A), (0x61, 0x7A)]
  | .alpha => [(0x41, 0x5A), (0x61, 0x7A)]
  | .ascii => [(0x00, 0x7F)]
  | .blank => [(0x09, 0x09), (0x20, 0x20)]
  | .cntrl => [(0x00, 0x1F), (0x7F, 0x7F)]
  | .digit => [(0x30, 0x39)]
  | .graph => [(0x21, 0x7E)]
  | .lower => [(0x61, 0x7A)]
  | .print => [(0x20, 0x7E)]
  | .punct => [(0x21, 0x2F), (0x3A, 0x40), (0x5B, 0x60), (0x7B, 0x7E)]
  | .space => [(0x09, 0x0D), (0x20, 0x20)]
  | .upper => [(0x41, 0x5A)]
  | .word => [(0x30, 0x39), (0x41, 0x5A), (0x5F, 0x5F), (0x61, 0x7A)]
  | .xdigit => [(0x30, 0x39), (0x41, 0x46), (0x61, 0x66)]

/-- The classes `\d`, `\s` and `\w`. -/
inductive PerlKind where
  | digit
  | space
  | word
  deriving DecidableEq

/-- What a `\p` class asks for. -/
inductive PropertyQuery where
  /-- `\pL`. -/
  | oneLetter (c : Char)
  /-- `\p{name}`. -/
  | named (name : String)
  /-- `\p{name=value}` and its variants. -/
  | namedValue (name value : String)

/-- A literal character; `hexByte` marks the two-digit `\x` form, which stands for a byte
outside Unicode mode. -/
structure Literal where
  /-- The character. -/
  c : Char
  /-- Written as `\x` with two digits. -/
  hexByte : Bool := false
  /-- Where. -/
  span : Span

/-- The operations between the sets of a bracketed class. -/
inductive SetOp where
  | intersection
  | difference
  | symmetricDifference
  deriving DecidableEq

mutual
/-- An item of a bracketed class. -/
inductive ClassItem where
  /-- Nothing, as between two operators. -/
  | empty (span : Span)
  | literal (lit : Literal)
  | range (lo hi : Literal) (span : Span)
  | ascii (kind : AsciiKind) (negated : Bool) (span : Span)
  | unicode (query : PropertyQuery) (negated : Bool) (span : Span)
  | perl (kind : PerlKind) (negated : Bool) (span : Span)
  | bracketed (negated : Bool) (set : ClassSet) (span : Span)
  | union (items : List ClassItem) (span : Span)

/-- The set of a bracketed class: an item, or an operation between two sets. -/
inductive ClassSet where
  | item (i : ClassItem)
  | op (kind : SetOp) (lhs rhs : ClassSet) (span : Span)
end

/-- The stretch of a class item. -/
def ClassItem.span : ClassItem → Span
  | .empty s => s
  | .literal l => l.span
  | .range _ _ s => s
  | .ascii _ _ s => s
  | .unicode _ _ s => s
  | .perl _ _ s => s
  | .bracketed _ _ s => s
  | .union _ s => s

/-- The stretch of a class set. -/
def ClassSet.span : ClassSet → Span
  | .item i => i.span
  | .op _ _ _ s => s

/-- A pattern as read. -/
inductive Ast where
  | empty (span : Span)
  | flags (items : Flags) (span : Span)
  | literal (lit : Literal)
  | dot (span : Span)
  | assertion (kind : AssertionKind) (span : Span)
  | unicode (query : PropertyQuery) (negated : Bool) (span : Span)
  | perl (kind : PerlKind) (negated : Bool) (span : Span)
  | bracketed (negated : Bool) (set : ClassSet) (span : Span)
  /-- A repetition from `min` up to `max` times, without bound when `max` is none; `greedy` is
  false when a `?` after the operator asks for as few as possible. -/
  | repetition (min : Nat) (max : Option Nat) (greedy : Bool) (sub : Ast) (span : Span)
  /-- A group, with the flags of `(?flags:...)` when it has them. -/
  | group (flags : Option Flags) (sub : Ast) (span : Span)
  | alternation (branches : List Ast) (span : Span)
  | concat (parts : List Ast) (span : Span)

/-- The stretch of a tree. -/
def Ast.span : Ast → Span
  | .empty s | .flags _ s | .dot s | .assertion _ s | .unicode _ _ s | .perl _ _ s => s
  | .bracketed _ _ s | .repetition _ _ _ _ s | .group _ _ s | .alternation _ s | .concat _ s => s
  | .literal l => l.span

end TegraGpu.Regex
