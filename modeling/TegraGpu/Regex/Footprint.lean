import TegraGpu.Regex.Meaning
import Std.Data.HashMap
/-!
# The memory the automata of a pattern take

A pattern is refused when its automata would be too large.  Two automata are built from the
meaning of a pattern, one that reads forwards and records its capture groups, and one that
reads backwards and records none; each is refused once its memory passes `sizeLimit`.  The
memory is counted as the automata are built: every state takes `stateBytes`, a state with a
list of byte-range transitions takes eight bytes more for each, and every branch added to a
union takes four.  The count only grows, so the automaton is refused exactly when the count
at the end passes the limit, and the building stops as soon as it does.

States are made piece by piece:

* the empty text, an assertion and each byte of a literal are one state;
* a class of ASCII characters is an end state and a state with one transition per range;
* a wider class is read as the UTF-8 byte sequences of its ranges.  Forwards they form a trie
  whose equal nodes are shared through a cache of 10000 slots; backwards each sequence is a
  chain from its last byte, and chains that end the same way are shared through a cache of
  1000 slots.  A slot holds the last node put in it, so the state numbers, which pick the
  slots, count too;
* a capture group is a state on either side of what it holds, forwards only;
* concatenations join their parts in reading order, forwards, and from the last part,
  backwards; alternations add a union and an end state, and every repetition is built from
  copies of what it repeats, unions and empty states as the engine builds them;
* an alternation of two or more literals is a trie of their bytes (read from the end,
  backwards) with an end state: each trie state with transitions is a union of its chunks of
  transitions, each chunk a state of its own.

Unless every match of the pattern is anchored at the start (at the end, backwards), the
automaton also starts with a loop over any byte.

* `utf8Sequences` : the UTF-8 byte ranges of a range of code points.
* `Grow` : building, with the memory count.
* `Hir.fits` : whether an automaton of a meaning stays within the limit.
-/

namespace TegraGpu.Regex

/-- The bytes of the UTF-8 encoding of a code point. -/
def utf8Encode (n : Nat) : List Nat :=
  if n < 0x80 then [n]
  else if n < 0x800 then [0xC0 + n / 64, 0x80 + n % 64]
  else if n < 0x10000 then [0xE0 + n / 4096, 0x80 + n / 64 % 64, 0x80 + n % 64]
  else [0xF0 + n / 262144, 0x80 + n / 4096 % 64, 0x80 + n / 64 % 64, 0x80 + n % 64]

/-- The largest code point with a given number of UTF-8 bytes. -/
def widthTop (width : Nat) : Nat :=
  match width with
  | 1 => 0x7F
  | 2 => 0x7FF
  | 3 => 0xFFFF
  | _ => 0x10FFFF

/-- Where a range first crosses from one width of encoding to the next, if it does. -/
def widthSplit (s e : Nat) : Option Nat :=
  [1, 2, 3].findSome? fun w =>
    if s ≤ widthTop w && widthTop w < e then some (widthTop w) else none

/-- Where a range of one width is cut so that each part shares its leading bytes: the first
block of `64^i` code points whose bounds the range does not line up with. -/
def blockSplit (s e : Nat) : Option Nat :=
  [1, 2, 3].findSome? fun i =>
    let block := Nat.pow 64 i
    if s / block ≠ e / block then
      if s % block ≠ 0 then some (s - s % block + block - 1)
      else if e % block ≠ block - 1 then some (e - e % block - 1)
      else none
    else none

/-- The byte-range sequences of a worklist of code point ranges, in order.  A range is cut
around the surrogates, between widths of encoding and at blocks until its parts are ASCII or
have bounds whose bytes span every byte between them; the fuel bounds the cuts. -/
def utf8Seqs : Nat → List (Nat × Nat) → List (List (Nat × Nat))
  | 0, _ => []
  | _, [] => []
  | fuel + 1, (s, e) :: stack =>
    if s < 0xE000 && e > 0xD7FF then utf8Seqs fuel ((s, 0xD7FF) :: (0xE000, e) :: stack)
    else if s > e then utf8Seqs fuel stack
    else match widthSplit s e with
      | some m => utf8Seqs fuel ((s, m) :: (m + 1, e) :: stack)
      | none =>
        if e ≤ 0x7F then [(s, e)] :: utf8Seqs fuel stack
        else match blockSplit s e with
          | some m => utf8Seqs fuel ((s, m) :: (m + 1, e) :: stack)
          | none => (utf8Encode s).zip (utf8Encode e) :: utf8Seqs fuel stack

/-- The UTF-8 byte-range sequences of a range of code points, in order.  A range is cut a few
dozen times at most, so the fuel given is never used up. -/
def utf8Sequences (lo hi : Nat) : List (List (Nat × Nat)) :=
  utf8Seqs 256 [(lo, hi)]

/-- The memory counted so far while an automaton is built. -/
structure Tally where
  /-- The states added; the number the next state gets. -/
  states : Nat := 0
  /-- The bytes counted. -/
  bytes : Nat := 0

/-- The most memory an automaton may take, in bytes. -/
def sizeLimit : Nat := 10485760

/-- The memory of a state, besides what it holds. -/
def stateBytes : Nat := 32

/-- A step of building an automaton; it fails once the memory passes the limit. -/
abbrev Grow := StateT Tally (Except Unit)

/-- Counts memory. -/
def Grow.charge (n : Nat) : Grow Unit := do
  let t ← get
  let bytes := t.bytes + n
  if bytes > sizeLimit then throw ()
  set { t with bytes }

/-- Adds a state holding `extra` bytes besides itself; gives its number. -/
def Grow.add (extra : Nat) : Grow Nat := do
  let t ← get
  let bytes := t.bytes + stateBytes + extra
  if bytes > sizeLimit then throw ()
  set ({ states := t.states + 1, bytes } : Tally)
  pure t.states

/-- Adds states that hold nothing. -/
def Grow.addMany : Nat → Grow Unit
  | 0 => pure ()
  | n + 1 => do
    let _ ← Grow.add 0
    Grow.addMany n

/-- Joins the end of a piece to what follows it: when the end is a union, it gains a branch. -/
def Grow.patch (fromUnion : Bool) : Grow Unit :=
  if fromUnion then Grow.charge 4 else pure ()

/-- A transition: a byte range and the state it leads to. -/
abbrev Edge := Nat × Nat × Nat

/-- A node of the trie of byte sequences: its finished transitions and the range of the last
one, whose state is not known yet. -/
structure TrieNode where
  /-- The finished transitions. -/
  edges : Array Edge := #[]
  /-- The range of the open transition. -/
  last : Option (Nat × Nat) := none

/-- The node with its open transition leading to a state. -/
def TrieNode.freeze (n : TrieNode) (next : Nat) : TrieNode :=
  match n.last with
  | some (a, b) => { edges := n.edges.push (a, b, next), last := none }
  | none => n

/-- The trie of a class being built forwards: the state every sequence ends in, the open
nodes from the root down, and the cache of compiled nodes by slot. -/
structure TrieBuild where
  /-- The end state. -/
  target : Nat
  /-- The open nodes, root first. -/
  nodes : Array TrieNode
  /-- The compiled nodes by slot. -/
  cache : Std.HashMap Nat (Array Edge × Nat) := {}

/-- The multiplier of the hash. -/
def fnvPrime : UInt64 := 1099511628211

/-- The start of the hash. -/
def fnvStart : UInt64 := 14695981039346656037

/-- Mixes a number into the hash. -/
def fnvMix (h : UInt64) (x : Nat) : UInt64 := (h ^^^ x.toUInt64) * fnvPrime

/-- The slot of a node among the 10000 of the forward cache. -/
def edgesSlot (es : Array Edge) : Nat :=
  (es.foldl (fun h (a, b, n) => fnvMix (fnvMix (fnvMix h a) b) n) fnvStart).toNat % 10000

/-- Compiles a finished node: the state of an equal node when its slot still holds it, or a
new state, which takes the slot. -/
def TrieBuild.compile (b : TrieBuild) (node : Array Edge) : Grow (Nat × TrieBuild) := do
  let slot := edgesSlot node
  let hit := match b.cache.get? slot with
    | some (key, id) => if key == node then some id else none
    | none => none
  match hit with
  | some id => pure (id, b)
  | none =>
    let id ← Grow.add (8 * node.size)
    pure (id, { b with cache := b.cache.insert slot (node, id) })

/-- Closes the open transition of the deepest open node. -/
def TrieBuild.freezeTop (b : TrieBuild) (next : Nat) : TrieBuild :=
  { b with nodes := b.nodes.modify (b.nodes.size - 1) (·.freeze next) }

/-- Compiles the open nodes below depth `keep`, deepest first, each leading to the one below
it, and closes the node at depth `keep` over them. -/
def TrieBuild.compileFrom (keep : Nat) : Nat → TrieBuild → Nat → Grow TrieBuild
  | 0, b, next => pure (b.freezeTop next)
  | fuel + 1, b, next =>
    if keep + 1 < b.nodes.size then do
      let node := (b.nodes.getD (b.nodes.size - 1) {}).freeze next
      let (id, b) ← { b with nodes := b.nodes.pop }.compile node.edges
      TrieBuild.compileFrom keep fuel b id
    else pure (b.freezeTop next)

/-- How many leading ranges of a sequence are the open transitions of the open nodes. -/
def sharedLen : List (Nat × Nat) → List TrieNode → Nat
  | r :: rs, n :: ns => if n.last == some r then sharedLen rs ns + 1 else 0
  | _, _ => 0

/-- Opens the rest of a sequence below the deepest open node. -/
def TrieBuild.addSuffix (b : TrieBuild) : List (Nat × Nat) → TrieBuild
  | [] => b
  | r :: rs =>
    let nodes := b.nodes.modify (b.nodes.size - 1) fun n => { n with last := some r }
    { b with nodes := nodes ++ (rs.map fun r => ({ last := some r } : TrieNode)).toArray }

/-- Adds a sequence to the trie: what it does not share with the open path is compiled, and
the rest of the sequence is opened. -/
def TrieBuild.add (b : TrieBuild) (seq : List (Nat × Nat)) : Grow TrieBuild := do
  let shared := sharedLen seq b.nodes.toList
  let b ← TrieBuild.compileFrom shared b.nodes.size b b.target
  pure (b.addSuffix (seq.drop shared))

/-- Compiles what is still open, the root last. -/
def TrieBuild.finish (b : TrieBuild) : Grow Unit := do
  let b ← TrieBuild.compileFrom 0 b.nodes.size b b.target
  let root : TrieNode := b.nodes.getD 0 {}
  let _ ← { b with nodes := #[] }.compile root.edges
  pure ()

/-- Builds a class wider than ASCII forwards. -/
def forwardClass (set : Ranges) : Grow Unit := do
  let target ← Grow.add 0
  let b : TrieBuild := { target, nodes := #[{}] }
  let b ← (set.flatMap fun (lo, hi) => utf8Sequences lo hi).foldlM TrieBuild.add b
  b.finish

/-- The slot of a chain link among the 1000 of the backward cache. -/
def suffixSlot (next lo hi : Nat) : Nat :=
  (fnvMix (fnvMix (fnvMix fnvStart next) lo) hi).toNat % 1000

/-- The backward cache: by slot, a link (the state it leads to and its byte range) and the
state that reads it. -/
abbrev SuffixCache := Std.HashMap Nat ((Nat × Nat × Nat) × Nat)

/-- Adds one link of a chain in front of a state: the state of an equal link when its slot
still holds it, or a new state, which takes the slot. -/
def linkStep (acc : Nat × SuffixCache) (r : Nat × Nat) : Grow (Nat × SuffixCache) := do
  let (next, cache) := acc
  let key := (next, r.1, r.2)
  let slot := suffixSlot next r.1 r.2
  let hit := match cache.get? slot with
    | some (k, id) => if k == key then some id else none
    | none => none
  match hit with
  | some id => pure (id, cache)
  | none =>
    let id ← Grow.add 0
    pure (id, cache.insert slot (key, id))

/-- Builds a class wider than ASCII backwards: a union of one chain per sequence, into a shared
end state. -/
def reverseClass (set : Ranges) : Grow Unit := do
  let _ ← Grow.add 0
  let finish ← Grow.add 0
  let _ ← (set.flatMap fun (lo, hi) => utf8Sequences lo hi).foldlM (fun cache seq => do
      let (_, cache) ← seq.foldlM linkStep (finish, cache)
      Grow.patch true
      pure cache) ({} : SuffixCache)
  pure ()

/-- A state of the trie of the literals of an alternation: its transitions, each a byte and the
state it leads to, and where each finished chunk of them ends.  A literal that ends at the state
closes a chunk, so that the transitions before it are tried before that match and the ones
after it after; the transitions after the last chunk are the active ones. -/
structure LitState where
  /-- The transitions. -/
  edges : List (Nat × Nat) := []
  /-- The ends of the finished chunks. -/
  chunkEnds : List Nat := []

/-- Where the active transitions of a trie state start. -/
def LitState.activeStart (s : LitState) : Nat := s.chunkEnds.getLastD 0

/-- The trie state a byte leads to from a state, among its active transitions; when there is
none, a new state, its transition put in byte order among the active ones. -/
def litStep (states : Array LitState) (source b : Nat) : Array LitState × Nat :=
  let s := states.getD source {}
  let active := s.edges.drop s.activeStart
  match active.find? (·.1 == b) with
  | some (_, next) => (states, next)
  | none =>
    let next := states.size
    let pos := s.activeStart + (active.filter (·.1 < b)).length
    ((states.modify source fun s => { s with edges := s.edges.insertIdx pos (b, next) }).push {},
      next)

/-- Marks a match at a trie state by closing its active chunk; a state without transitions that
is a match already stays as it is. -/
def LitState.addMatch (s : LitState) : LitState :=
  if s.edges.isEmpty && !s.chunkEnds.isEmpty then s
  else { s with chunkEnds := s.chunkEnds ++ [s.edges.length] }

/-- Adds the bytes of a literal to the trie, from the root. -/
def litAdd (states : Array LitState) (bytes : List Nat) : Array LitState :=
  let (states, last) := bytes.foldl (fun (st, here) b => litStep st here b) (states, 0)
  states.modify last LitState.addMatch

/-- The chunks of a trie state: the finished ones, then the active one. -/
def LitState.chunks (s : LitState) : List (List (Nat × Nat)) :=
  ((0 :: s.chunkEnds).zip (s.chunkEnds ++ [s.edges.length])).map fun (a, b) =>
    (s.edges.drop a).take (b - a)

/-- The memory besides its own of each automaton state built for a trie state, in the order
they are built.  For each chunk come the states of the trie states its transitions lead to
that have transitions of their own (the others lead to the end state), then one state for the
chunk unless it is empty: a byte range for one transition, a list of them for more.  Last
comes the union of the chunks, which also branches to the end state before every chunk after
the first. -/
def litCompile (states : Array LitState) : Nat → Nat → List Nat
  | 0, _ => []
  | fuel + 1, id =>
    let chunks := (states.getD id {}).chunks
    let parts := chunks.map fun chunk =>
      let inner := chunk.flatMap fun (_, next) =>
        if (states.getD next {}).edges.isEmpty then [] else litCompile states fuel next
      inner ++ (match chunk.length with
        | 0 => []
        | 1 => [0]
        | n => [8 * n])
    parts.flatten ++ [4 * ((chunks.filter (!·.isEmpty)).length + (chunks.length - 1))]

/-- The bytes of the branches of an alternation, when there are two or more and each is a
literal. -/
def literalBranches (bs : List Hir) : Option (List (List Nat)) :=
  if bs.length < 2 then none
  else bs.mapM fun
    | .literal cs => some (cs.flatMap fun c => utf8Encode c.toNat)
    | _ => none

/-- Builds an alternation of literals as a trie of their bytes: an end state, then the states
of the trie from its root.  The trie of `n` literals has at most one state per byte and one
root, which bounds its depth. -/
def literalAlt (lits : List (List Nat)) : Grow Unit := do
  let states := lits.foldl litAdd #[{}]
  let _ ← Grow.add 0
  (litCompile states (states.size + 1) 0).forM fun extra => discard (Grow.add extra)

/-- Builds copies of a piece after the first, each joined to the end of the one before; gives
whether the last copy ends in a union. -/
def Grow.more (piece : Grow Bool) : Nat → Bool → Grow Bool
  | 0, e => pure e
  | n + 1, e => do
    let e' ← piece
    Grow.patch e
    Grow.more piece n e'

/-- Builds a piece exactly `n` times in a row; no copy is one empty state. -/
def Grow.exactly (piece : Grow Bool) (n : Nat) : Grow Bool :=
  match n with
  | 0 => do
    let _ ← Grow.add 0
    pure false
  | n + 1 => do
    let e ← piece
    Grow.more piece n e

/-- Builds a piece as optional: a union before it and an empty state after it. -/
def Grow.zeroOrOne (piece : Grow Bool) : Grow Bool := do
  let _ ← Grow.add 0
  let e ← piece
  let _ ← Grow.add 0
  Grow.patch true
  Grow.patch true
  Grow.patch e
  pure false

/-- Builds a piece repeated at least `n` times without bound.  Zero times is a union that loops
through the piece when the piece always takes a byte, and otherwise the piece looping through a
union, made optional by a second union and an end state; more times is the piece that many
times, the last looping through a union. -/
def Grow.atLeast (piece : Grow Bool) (needsByte : Bool) : Nat → Grow Bool
  | 0 =>
    if needsByte then do
      let _ ← Grow.add 0
      let e ← piece
      Grow.patch true
      Grow.patch e
      pure true
    else do
      let e ← piece
      let _ ← Grow.add 0
      Grow.patch e
      Grow.patch true
      let _ ← Grow.add 0
      let _ ← Grow.add 0
      Grow.patch true
      Grow.patch true
      Grow.patch true
      pure false
  | 1 => do
    let e ← piece
    let _ ← Grow.add 0
    Grow.patch e
    Grow.patch true
    pure true
  | n + 2 => do
    let p ← Grow.exactly piece (n + 1)
    let l ← piece
    let _ ← Grow.add 0
    Grow.patch p
    Grow.patch l
    Grow.patch true
    pure true

/-- Builds optional copies of a piece, each behind a union that can skip to the end. -/
def Grow.optional (piece : Grow Bool) : Nat → Bool → Grow Bool
  | 0, prev => pure prev
  | k + 1, prev => do
    let _ ← Grow.add 0
    let e ← piece
    Grow.patch prev
    Grow.patch true
    Grow.patch true
    Grow.optional piece k e

/-- Builds a piece repeated from `min` to `max` times: the required copies, an end state, and
the optional copies. -/
def Grow.bounded (piece : Grow Bool) (min max : Nat) : Grow Bool := do
  let p ← Grow.exactly piece min
  let _ ← Grow.add 0
  let last ← Grow.optional piece (max - min) p
  Grow.patch last
  pure false

/-- Builds a repetition of a piece. -/
def Grow.repetition (piece : Grow Bool) (needsByte : Bool) (min : Nat) (max : Option Nat) :
    Grow Bool :=
  match min, max with
  | 0, some 1 => Grow.zeroOrOne piece
  | min, none => Grow.atLeast piece needsByte min
  | min, some n => if min = n then Grow.exactly piece min else Grow.bounded piece min n

/-- Whether every match of a tree takes at least a byte. -/
def Hir.needsByte (h : Hir) : Bool :=
  match h.minLen with
  | some m => m > 0
  | none => false

mutual
/-- Builds a tree, backwards when `r`; gives whether it ends in a union. -/
def grow (r : Bool) : Hir → Grow Bool
  | .empty => do
    let _ ← Grow.add 0
    pure false
  | .literal cs => do
    Grow.addMany (bytesOf cs)
    pure false
  | .chars set =>
    if Ranges.isAscii set then do
      let _ ← Grow.add 0
      let _ ← Grow.add (8 * set.length)
      pure false
    else if r then do
      reverseClass set
      pure false
    else do
      forwardClass set
      pure false
  | .look _ => do
    let _ ← Grow.add 0
    pure false
  | .rep min max _ sub => Grow.repetition (grow r sub) sub.needsByte min max
  | .capture _ sub =>
    if r then grow r sub
    else do
      let _ ← Grow.add 0
      let e ← grow r sub
      let _ ← Grow.add 0
      Grow.patch e
      pure false
  | .concat parts => do
    let e ← if r then growBack r parts else growSeq r none parts
    match e with
    | some e => pure e
    | none => do
      let _ ← Grow.add 0
      pure false
  | .alt branches =>
    match literalBranches branches with
    | some lits => do
      literalAlt (if r then lits.map List.reverse else lits)
      pure false
    | none => growAlt r branches

/-- Builds the parts of a concatenation in order, each joined to the end of the one before. -/
def growSeq (r : Bool) : Option Bool → List Hir → Grow (Option Bool)
  | prev, [] => pure prev
  | prev, h :: hs => do
    let e ← grow r h
    match prev with
    | some p => Grow.patch p
    | none => pure ()
    growSeq r (some e) hs

/-- Builds the parts of a concatenation from the last, each joined to the end of the one built
before it; gives how the first part ends. -/
def growBack (r : Bool) : List Hir → Grow (Option Bool)
  | [] => pure none
  | h :: hs => do
    let later ← growBack r hs
    let e ← grow r h
    match later with
    | some l => Grow.patch l
    | none => pure ()
    pure (some e)

/-- Builds an alternation; a single branch is built on its own. -/
def growAlt (r : Bool) : List Hir → Grow Bool
  | [] => do
    let _ ← Grow.add 0
    pure false
  | b :: bs => do
    let e ← grow r b
    growAltRest r e bs

/-- Builds the branches after the first: with a second one, the union and the end state come
after it, and every branch joins both. -/
def growAltRest (r : Bool) (first : Bool) : List Hir → Grow Bool
  | [] => pure first
  | b :: bs => do
    let e ← grow r b
    let _ ← Grow.add 0
    let _ ← Grow.add 0
    Grow.patch true
    Grow.patch first
    Grow.patch true
    Grow.patch e
    growBranches r bs
    pure false

/-- Builds the third and later branches of an alternation. -/
def growBranches (r : Bool) : List Hir → Grow Unit
  | [] => pure ()
  | b :: bs => do
    let e ← grow r b
    Grow.patch true
    Grow.patch e
    growBranches r bs
end

/-- The loop over any byte that lets a match start anywhere, or one empty state when every
match is anchored; gives whether it ends in a union. -/
def Grow.start (anchored : Bool) : Grow Bool :=
  if anchored then do
    let _ ← Grow.add 0
    pure false
  else do
    let _ ← Grow.add 0
    let _ ← Grow.add 0
    let _ ← Grow.add 8
    Grow.patch true
    pure true

/-- Builds the whole automaton of a meaning, backwards when `r`: the start, the pattern (inside
the capture of the whole match, forwards) and the match state. -/
def footprint (r : Bool) (h : Hir) : Grow Unit := do
  let pre ← Grow.start (if r then h.anchoredEnd else h.anchoredStart)
  let e ← if r then grow r h else do
    let _ ← Grow.add 0
    let e ← grow r h
    let _ ← Grow.add 0
    Grow.patch e
    pure false
  let _ ← Grow.add 0
  Grow.patch e
  Grow.patch pre

/-- Whether the automaton of a meaning, backwards when `r`, stays within the limit. -/
def Hir.fits (r : Bool) (h : Hir) : Bool :=
  match (footprint r h).run {} with
  | .ok _ => true
  | .error _ => false

end TegraGpu.Regex
