import TegraGpu.Regex.Interval
/-!
# The meaning of a pattern

A pattern means a tree of pieces: the empty text, a run of literal characters, a class of
characters, a zero-width assertion, a repetition, a capture group, a concatenation and an
alternation.  The tree is always built through the constructors here, which keep it in one
normal form:

* a class of no character matches nothing, and a class of one character is that character;
* a repetition of something that only matches the empty text is done at most once, a
  repetition at most zero times is the empty text, and exactly once is what it repeats;
* a concatenation has no empty parts and no concatenation among its parts, and adjacent
  literals are one literal;
* an alternation has no alternation among its branches; branches that are single characters
  become one class, branches that are all classes become their union, and a beginning that
  every branch shares (each being a concatenation) is taken out in front.

These forms decide how large the automata of a pattern are, so they are kept as they are
also where they do not change what the pattern matches.  Lengths are counted in UTF-8 bytes
and saturate, or are unknown, past the largest machine word, as the pattern engine counts
them.

* `Look`, `Hir` : the pieces.
* `Hir.minLen`, `Hir.maxLen`, `Hir.anchoredStart`, `Hir.anchoredEnd` : what the automata need
  to know of a tree.
* `Hir.ofSet`, `Hir.ofChars`, `Hir.repeat`, `Hir.concatOf`, `Hir.altOf` : the constructors.
-/

namespace TegraGpu.Regex

/-- What a zero-width assertion asks of the characters around a position. -/
inductive Look where
  /-- The start of the text. -/
  | start
  /-- The end of the text. -/
  | finish
  /-- The start of a line ended by a line feed. -/
  | startLF
  /-- The end of a line ended by a line feed. -/
  | endLF
  /-- The start of a line ended by a line feed, a carriage return, or both. -/
  | startCRLF
  /-- The end of a line ended by a line feed, a carriage return, or both. -/
  | endCRLF
  /-- An ASCII word character on exactly one side. -/
  | wordAscii
  /-- An ASCII word character on both sides or on neither. -/
  | notWordAscii
  /-- An ASCII word character after, none before. -/
  | wordStartAscii
  /-- An ASCII word character before, none after. -/
  | wordEndAscii
  /-- No ASCII word character before. -/
  | wordStartHalfAscii
  /-- No ASCII word character after. -/
  | wordEndHalfAscii
  /-- A word boundary in the Unicode sense, which no program here can test. -/
  | wordUnicode
  deriving DecidableEq

/-- The meaning of a pattern. -/
inductive Hir where
  /-- The empty text. -/
  | empty
  /-- A run of characters, never empty. -/
  | literal (cs : List Char)
  /-- One character of a set; the empty set matches nothing. -/
  | chars (set : Ranges)
  /-- An assertion. -/
  | look (l : Look)
  /-- From `min` up to `max` times, without bound when `max` is none. -/
  | rep (min : Nat) (max : Option Nat) (greedy : Bool) (sub : Hir)
  /-- A capture group, numbered by its opening parenthesis. -/
  | capture (index : Nat) (sub : Hir)
  | concat (parts : List Hir)
  | alt (branches : List Hir)

/-- The number of bytes a code point takes in UTF-8. -/
def utf8Width (n : Nat) : Nat :=
  if n < 0x80 then 1 else if n < 0x800 then 2 else if n < 0x10000 then 3 else 4

/-- The number of bytes a run of characters takes in UTF-8. -/
def bytesOf (cs : List Char) : Nat :=
  cs.foldl (fun n c => n + utf8Width c.toNat) 0

/-- The largest machine word: lengths past it saturate or are unknown. -/
def wordMax : Nat := Nat.pow 2 64 - 1

/-- A product that stops at the largest machine word. -/
def satMul (a b : Nat) : Nat := min (a * b) wordMax

/-- A product, unknown past the largest machine word. -/
def checkedMul (a b : Nat) : Option Nat := if a * b ≤ wordMax then some (a * b) else none

/-- A sum, unknown past the largest machine word. -/
def checkedAdd (a b : Nat) : Option Nat := if a + b ≤ wordMax then some (a + b) else none

mutual
/-- Whether two trees are the same. -/
def Hir.same : Hir → Hir → Bool
  | .empty, .empty => true
  | .literal a, .literal b => a == b
  | .chars a, .chars b => a == b
  | .look a, .look b => a == b
  | .rep m1 x1 g1 s1, .rep m2 x2 g2 s2 => m1 == m2 && x1 == x2 && g1 == g2 && Hir.same s1 s2
  | .capture i a, .capture j b => i == j && Hir.same a b
  | .concat a, .concat b => Hir.sameAll a b
  | .alt a, .alt b => Hir.sameAll a b
  | _, _ => false

/-- Whether two lists of trees are the same, piece by piece. -/
def Hir.sameAll : List Hir → List Hir → Bool
  | [], [] => true
  | a :: as, b :: bs => Hir.same a b && Hir.sameAll as bs
  | _, _ => false
end

mutual
/-- The number of pieces in a tree. -/
def Hir.pieces : Hir → Nat
  | .rep _ _ _ sub | .capture _ sub => Hir.pieces sub + 1
  | .concat parts | .alt parts => Hir.piecesAll parts + 1
  | _ => 1

/-- The number of pieces in a list of trees. -/
def Hir.piecesAll : List Hir → Nat
  | [] => 0
  | h :: hs => Hir.pieces h + Hir.piecesAll hs
end

mutual
/-- The fewest bytes a match takes; none when nothing can match. -/
def Hir.minLen : Hir → Option Nat
  | .empty | .look _ => some 0
  | .literal cs => some (bytesOf cs)
  | .chars set => set.head?.map fun r => utf8Width r.1
  | .rep min _ _ sub => (Hir.minLen sub).map fun m => satMul m min
  | .capture _ sub => Hir.minLen sub
  | .concat parts => Hir.minLenSum parts
  | .alt branches => Hir.minLenLeast branches

/-- The fewest bytes a match of a concatenation takes. -/
def Hir.minLenSum : List Hir → Option Nat
  | [] => some 0
  | h :: hs =>
    match Hir.minLen h, Hir.minLenSum hs with
    | some a, some b => checkedAdd a b
    | _, _ => none

/-- The fewest bytes a match of one of the branches takes; none when a branch cannot match. -/
def Hir.minLenLeast : List Hir → Option Nat
  | [] => none
  | h :: hs =>
    match Hir.minLen h, hs with
    | none, _ => none
    | some a, [] => some a
    | some a, _ => (Hir.minLenLeast hs).map (min a)
end

mutual
/-- The most bytes a match takes; none when unbounded or when nothing can match. -/
def Hir.maxLen : Hir → Option Nat
  | .empty | .look _ => some 0
  | .literal cs => some (bytesOf cs)
  | .chars set => set.getLast?.map fun r => utf8Width r.2
  | .rep _ max _ sub => max.bind fun n => (Hir.maxLen sub).bind fun m => checkedMul m n
  | .capture _ sub => Hir.maxLen sub
  | .concat parts => Hir.maxLenSum parts
  | .alt branches => Hir.maxLenMost branches

/-- The most bytes a match of a concatenation takes. -/
def Hir.maxLenSum : List Hir → Option Nat
  | [] => some 0
  | h :: hs =>
    match Hir.maxLen h, Hir.maxLenSum hs with
    | some a, some b => checkedAdd a b
    | _, _ => none

/-- The most bytes a match of one of the branches takes. -/
def Hir.maxLenMost : List Hir → Option Nat
  | [] => some 0
  | h :: hs =>
    match Hir.maxLen h, Hir.maxLenMost hs with
    | some a, some b => some (max a b)
    | _, _ => none
end

/-- Whether a tree only matches the empty text. -/
def Hir.onlyEmpty (h : Hir) : Bool := h.maxLen == some 0

mutual
/-- Whether every match starts at the start of the text. -/
def Hir.anchoredStart : Hir → Bool
  | .look l => l == .start
  | .rep min _ _ sub => min > 0 && Hir.anchoredStart sub
  | .capture _ sub => Hir.anchoredStart sub
  | .concat parts => Hir.anchoredStartSeq parts
  | .alt branches => Hir.anchoredStartAll branches
  | _ => false

/-- Whether a part of a concatenation asserts the start of the text, with only empty matches
before it. -/
def Hir.anchoredStartSeq : List Hir → Bool
  | [] => false
  | h :: hs => Hir.anchoredStart h || (h.onlyEmpty && Hir.anchoredStartSeq hs)

/-- Whether every branch starts at the start of the text. -/
def Hir.anchoredStartAll : List Hir → Bool
  | [] => true
  | h :: hs => Hir.anchoredStart h && Hir.anchoredStartAll hs
end

mutual
/-- Whether every match ends at the end of the text. -/
def Hir.anchoredEnd : Hir → Bool
  | .look l => l == .finish
  | .rep min _ _ sub => min > 0 && Hir.anchoredEnd sub
  | .capture _ sub => Hir.anchoredEnd sub
  | .concat parts => Hir.anchoredEndSeq parts
  | .alt branches => Hir.anchoredEndAll branches
  | _ => false

/-- Whether a part of a concatenation asserts the end of the text, with only empty matches
after it. -/
def Hir.anchoredEndSeq : List Hir → Bool
  | [] => false
  | h :: hs => (Hir.anchoredEnd h && hs.all Hir.onlyEmpty) || Hir.anchoredEndSeq hs

/-- Whether every branch ends at the end of the text. -/
def Hir.anchoredEndAll : List Hir → Bool
  | [] => true
  | h :: hs => Hir.anchoredEnd h && Hir.anchoredEndAll hs
end

/-- A class: nothing for no character, the character itself for one. -/
def Hir.ofSet (set : Ranges) : Hir :=
  match set with
  | [] => .chars []
  | [(a, b)] => if a = b then .literal [Char.ofNat a] else .chars set
  | _ => .chars set

/-- A run of characters: the empty text for none. -/
def Hir.ofChars (cs : List Char) : Hir :=
  if cs.isEmpty then .empty else .literal cs

/-- A repetition.  What only matches the empty text is repeated at most once; at most zero
times is the empty text, and exactly once is the tree itself. -/
def Hir.repeat (min : Nat) (max : Option Nat) (greedy : Bool) (sub : Hir) : Hir :=
  let (min, max) :=
    if sub.onlyEmpty then (Nat.min min 1, some (match max with | some n => Nat.min n 1 | none => 1))
    else (min, max)
  if min = 0 && max = some 0 then .empty
  else if min = 1 && max = some 1 then sub
  else .rep min max greedy sub

/-- Adds a piece to a concatenation being built, last piece first: the empty text is dropped,
and a literal joins a literal just before it. -/
def pushPiece (acc : List Hir) (h : Hir) : List Hir :=
  match h, acc with
  | .empty, _ => acc
  | .literal cs, .literal ds :: rest => .literal (ds ++ cs) :: rest
  | h, _ => h :: acc

/-- A concatenation, with the parts of concatenations among its parts in their place. -/
def Hir.concatOf (parts : List Hir) : Hir :=
  let acc := parts.foldl (fun acc h =>
    match h with
    | .concat inner => inner.foldl pushPiece acc
    | h => pushPiece acc h) []
  match acc.reverse with
  | [] => .empty
  | [h] => h
  | hs => .concat hs

/-- The branches of an alternation, with the branches of alternations among them in their
place. -/
def flattenAlt (bs : List Hir) : List Hir :=
  bs.flatMap fun h => match h with
    | .alt inner => inner
    | h => [h]

/-- The characters of branches that are each a single character. -/
def singleChars : List Hir → Option (List Char)
  | [] => some []
  | .literal [c] :: rest => (singleChars rest).map (c :: ·)
  | _ => none

/-- The union of branches that are each a class. -/
def classUnion : List Hir → Option Ranges
  | [] => some []
  | .chars s :: rest => (classUnion rest).map (Ranges.union s)
  | _ => none

/-- The longest beginning two lists of pieces share. -/
def sharedPrefix : List Hir → List Hir → List Hir
  | a :: as, b :: bs => if Hir.same a b then a :: sharedPrefix as bs else []
  | _, _ => []

/-- The beginning that every branch shares, each being a concatenation, and what is left of
each branch after it; none when a branch is not a concatenation or nothing is shared. -/
def liftPrefix (bs : List Hir) : Option (List Hir × List (List Hir)) :=
  let parts := bs.filterMap fun h => match h with
    | .concat xs => some xs
    | _ => none
  match parts with
  | [] => none
  | first :: rest =>
    if parts.length < bs.length then none
    else
      let pre := rest.foldl sharedPrefix first
      if pre.isEmpty then none else some (pre, parts.map (·.drop pre.length))

/-- An alternation, simplified; the fuel bounds how often a shared beginning is taken out. -/
def altOfFuel : Nat → List Hir → Hir
  | fuel, bs =>
    match flattenAlt bs with
    | [] => .chars []
    | [h] => h
    | bs =>
      match singleChars bs with
      | some cs => Hir.ofSet (Ranges.canonical (cs.map fun c => (c.toNat, c.toNat)))
      | none =>
        match classUnion bs with
        | some s => Hir.ofSet s
        | none =>
          match fuel, liftPrefix bs with
          | fuel + 1, some (pre, rests) =>
            Hir.concatOf (pre ++ [altOfFuel fuel (rests.map Hir.concatOf)])
          | _, _ => .alt bs

/-- An alternation, simplified.  Each shared beginning taken out leaves smaller branches, so
the number of pieces bounds how often it happens. -/
def Hir.altOf (bs : List Hir) : Hir :=
  altOfFuel (Hir.piecesAll bs + 1) bs

mutual
/-- Whether a tree has a Unicode word boundary in it. -/
def Hir.hasUnicodeWord : Hir → Bool
  | .look .wordUnicode => true
  | .concat parts => Hir.anyUnicodeWord parts
  | .alt branches => Hir.anyUnicodeWord branches
  | .rep _ _ _ sub => sub.hasUnicodeWord
  | .capture _ sub => sub.hasUnicodeWord
  | _ => false

/-- Whether one of a list of trees has a Unicode word boundary in it. -/
def Hir.anyUnicodeWord : List Hir → Bool
  | [] => false
  | h :: hs => h.hasUnicodeWord || Hir.anyUnicodeWord hs
end

end TegraGpu.Regex
