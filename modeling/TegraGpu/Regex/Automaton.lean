import TegraGpu.Regex.Translate
import TegraGpu.Regex.Footprint
/-!
# Matching patterns with an automaton

The meaning of a pattern is compiled into a nondeterministic automaton with one node per
character test, choice and assertion, and a single accepting node.  Each node is compiled
knowing the node that follows it, so a concatenation is compiled from its end, a repetition
unrolls its required copies in front of its optional ones, and an unbounded repetition is a
choice that loops back on itself.

A text is searched by running all the paths at once: at each position the set of live nodes is
closed under choices and the assertions that hold there (each node is visited once, so the
closure ends), the start node joins it so that a match may begin anywhere, and the character
tests that pass move on to the next position.  The text matches when the accepting node is
reached.  The work is bounded by the number of nodes times the length of the text.

A pattern is refused when the automata the pattern engine would build for it take too much
memory (see the footprint of a meaning), and when it has a Unicode word boundary, since no node
can test one.

* `Node`, `Program` : the automaton.
* `Program.ofHir` : the automaton of a meaning.
* `Program.matches` : whether it matches somewhere in a text.
* `Matcher.compile`, `Matcher.matches` : patterns from text, and matching them.
-/

namespace TegraGpu.Regex

/-- A node of the automaton. -/
inductive Node where
  /-- Consumes a character of the set and goes on. -/
  | chars (set : Ranges) (next : Nat)
  /-- Goes on both ways. -/
  | split (a b : Nat)
  /-- Goes on when the assertion holds. -/
  | look (l : Look) (next : Nat)
  /-- The pattern has matched. -/
  | accept

/-- An automaton: its nodes and where it starts. -/
structure Program where
  /-- The nodes. -/
  nodes : Array Node
  /-- The start node. -/
  start : Nat

/-- Adds a node; gives its index. -/
def addNode (nodes : Array Node) (n : Node) : Nat × Array Node :=
  (nodes.size, nodes.push n)

/-- Compiles a piece a number of times in a row in front of a node. -/
def chain (piece : Nat → Array Node → Nat × Array Node) : Nat → Nat → Array Node → Nat × Array Node
  | 0, next, nodes => (next, nodes)
  | k + 1, next, nodes =>
    let (entry, nodes) := piece next nodes
    chain piece k entry nodes

/-- Compiles a piece as optional a number of times, each copy leading to the next, in front of
a node. -/
def optional (piece : Nat → Array Node → Nat × Array Node) (exit : Nat) :
    Nat → Nat → Array Node → Nat × Array Node
  | 0, next, nodes => (next, nodes)
  | k + 1, next, nodes =>
    let (entry, nodes) := piece next nodes
    let (s, nodes) := addNode nodes (.split entry exit)
    optional piece exit k s nodes

/-- Compiles a piece repeated without bound in front of a node: a choice between the piece, which
comes back to the choice, and the node. -/
def loop (piece : Nat → Array Node → Nat × Array Node) (next : Nat) (nodes : Array Node) :
    Nat × Array Node :=
  let (s, nodes) := addNode nodes (.split 0 0)
  let (entry, nodes) := piece s nodes
  (s, nodes.set! s (.split entry next))

/-- Joins the entries of branches with choices. -/
def choices (nodes : Array Node) : List Nat → Nat × Array Node
  | [] => addNode nodes (.chars [] 0)
  | [e] => (e, nodes)
  | e :: rest =>
    let (r, nodes) := choices nodes rest
    addNode nodes (.split e r)

/-- Compiles a run of characters in front of a node, one node a character. -/
def literalNodes (cs : List Char) (next : Nat) (nodes : Array Node) : Nat × Array Node :=
  cs.foldr (fun c (entry, nodes) => addNode nodes (.chars [(c.toNat, c.toNat)] entry)) (next, nodes)

mutual
/-- Compiles a meaning in front of a node; gives its entry. -/
def compile : Hir → Nat → Array Node → Nat × Array Node
  | .empty, next, nodes => (next, nodes)
  | .literal cs, next, nodes => literalNodes cs next nodes
  | .chars set, next, nodes => addNode nodes (.chars set next)
  | .look l, next, nodes => addNode nodes (.look l next)
  | .capture _ sub, next, nodes => compile sub next nodes
  | .concat parts, next, nodes => compileSeq parts next nodes
  | .alt branches, next, nodes =>
    let (entries, nodes) := compileEach branches next nodes
    choices nodes entries
  | .rep min max _ sub, next, nodes =>
    let (tail, nodes) := match max with
      | none => loop (compile sub) next nodes
      | some m => optional (compile sub) next (m - min) next nodes
    chain (compile sub) min tail nodes

/-- Compiles a concatenation in front of a node, from its last part. -/
def compileSeq : List Hir → Nat → Array Node → Nat × Array Node
  | [], next, nodes => (next, nodes)
  | h :: hs, next, nodes =>
    let (rest, nodes) := compileSeq hs next nodes
    compile h rest nodes

/-- Compiles branches, each in front of the same node; gives their entries. -/
def compileEach : List Hir → Nat → Array Node → List Nat × Array Node
  | [], _, nodes => ([], nodes)
  | h :: hs, next, nodes =>
    let (e, nodes) := compile h next nodes
    let (es, nodes) := compileEach hs next nodes
    (e :: es, nodes)
end

/-- The automaton of a meaning. -/
def Program.ofHir (h : Hir) : Program :=
  let (accept, nodes) := addNode #[] .accept
  let (start, nodes) := compile h accept nodes
  { nodes, start }

/-- Whether a character is an ASCII word character. -/
def isWordChar : Option Char → Bool
  | some c => (c.toNat < 128 && c.isAlphanum) || c = '_'
  | none => false

/-- Whether an assertion holds between two characters (none at an end of the text). -/
def Look.holds (l : Look) (prev next : Option Char) : Bool :=
  match l with
  | .start => prev.isNone
  | .finish => next.isNone
  | .startLF => prev.isNone || prev = some '\n'
  | .endLF => next.isNone || next = some '\n'
  | .startCRLF => prev.isNone || prev = some '\n' || (prev = some '\r' && next ≠ some '\n')
  | .endCRLF => next.isNone || next = some '\r' || (next = some '\n' && prev ≠ some '\r')
  | .wordAscii => isWordChar prev != isWordChar next
  | .notWordAscii => isWordChar prev == isWordChar next
  | .wordStartAscii => !isWordChar prev && isWordChar next
  | .wordEndAscii => isWordChar prev && !isWordChar next
  | .wordStartHalfAscii => !isWordChar prev
  | .wordEndHalfAscii => !isWordChar next
  | .wordUnicode => false

/-- The nodes reachable from a worklist through choices and the assertions that hold between
two characters, skipping nodes already seen; gives the character tests and the accepting node
reached. -/
def Program.closure (p : Program) (prev next : Option Char) :
    Nat → List Nat → Array Bool → List Nat → List Nat
  | 0, _, _, acc => acc
  | _, [], _, acc => acc
  | fuel + 1, i :: rest, seen, acc =>
    if seen.getD i true then p.closure prev next fuel rest seen acc
    else
      let seen := seen.set! i true
      match (p.nodes[i]? : Option Node) with
      | some (.split a b) => p.closure prev next fuel (a :: b :: rest) seen acc
      | some (.look l nx) =>
        if l.holds prev next then p.closure prev next fuel (nx :: rest) seen acc
        else p.closure prev next fuel rest seen acc
      | some _ => p.closure prev next fuel rest seen (i :: acc)
      | none => p.closure prev next fuel rest seen acc

/-- Whether a node is the accepting one. -/
def Program.accepts (p : Program) (i : Nat) : Bool :=
  match (p.nodes[i]? : Option Node) with
  | some .accept => true
  | _ => false

/-- The nodes after the character tests that a character passes. -/
def Program.advance (p : Program) (live : List Nat) (c : Char) : List Nat :=
  live.filterMap fun i =>
    match (p.nodes[i]? : Option Node) with
    | some (.chars set nx) => if set.contains c.toNat then some nx else none
    | _ => none

/-- Whether a match ends somewhere in the rest of a text, given the character before it and the
nodes live at its start. -/
def Program.search (p : Program) (prev : Option Char) : List Char → List Nat → Bool
  | rest, seeds =>
    let seeds := seeds ++ [p.start]
    let live := p.closure prev rest.head? (2 * p.nodes.size + seeds.length + 1) seeds
      (Array.replicate p.nodes.size false) []
    if live.any p.accepts then true
    else match rest with
      | [] => false
      | c :: cs => p.search (some c) cs (p.advance live c)

/-- Whether the automaton matches somewhere in a text. -/
def Program.matches (p : Program) (text : String) : Bool :=
  p.search none text.toList []

/-- A pattern ready to match. -/
structure Matcher where
  /-- Its automaton. -/
  program : Program

/-- The refusal of a pattern whose automata would be too large. -/
def tooBig : String := "Compiled regex exceeds size limit of 10485760 bytes."

/-- Reads and compiles a pattern, or gives the text of its refusal: a pattern that cannot be
read or given a meaning, whose forward automaton is too large, that has a Unicode word
boundary (found once the forward automaton is built), or whose backward automaton is too
large. -/
def Matcher.compile (pattern : String) : Except String Matcher :=
  match parsePattern pattern with
  | .error f => .error (f.render pattern)
  | .ok ast =>
    match meaningOf ast with
    | .error f => .error (f.render pattern)
    | .ok h =>
      if !h.fits false then .error tooBig
      else if h.hasUnicodeWord then .error "error building NFA"
      else if !h.fits true then .error tooBig
      else .ok ⟨Program.ofHir h⟩

/-- Whether a pattern matches somewhere in a text. -/
def Matcher.matches (m : Matcher) (text : String) : Bool :=
  m.program.matches text

end TegraGpu.Regex
