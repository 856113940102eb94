import TegraGpu.Toml.Scalar
import TegraGpu.Toml.Datetime
import TegraGpu.Binary32.Read
/-!
# Reading TOML documents

A document is read in three steps: its text is cut into tokens (`tokenize`), the order of the
tokens is checked and turned into events (`parseDocument`), and the events are read into a
table here.  A fault of the second step wins over any of the third, and in each step the first
fault wins.

Reading the events decodes each key and value where it stands, then places the value:

* A header `[a.b]` names a table.  It is checked where it stands: the tables on the way are
  found or made, and the named table must be new or one made on the way to another header,
  whose entries it takes over.  The entries under the header are read into the table apart
  from the document, and the table is placed when the next header comes or the text ends.
* A header `[[a.b]]` adds a table to an array of tables.  Its entries are read first; when the
  table is placed, the tables on the way are found or made, and the key must be new or hold an
  array of tables made by headers.
* An entry `a.b = v` sets a key in the table being read (the root's entries before any header),
  making the tables its dotted key passes through.  The key must be new, and a dotted key must
  end in a table made by dotted keys.
* On the way along a key path, an array of tables is passed through its last table and a value
  that is no table stops the path.  A table written in braces stops a header or a dotted key,
  and a dotted key passes only through tables made on the way.  Within braces the same rules
  hold, a table written in braces counting as a key set before.
* A key of more than `keyPartLimit` parts refuses the whole document.

Every table made on the way takes the stretch of the key part that made it; a table given by a
header takes the header's stretch, and an array of tables that of its first header.  The keys
of a table are kept in their order as texts.

* `readDocument` : the whole text as a table.
-/

namespace TegraGpu.Toml

/-- How a table came to be. -/
inductive TableOrigin where
  /-- On the way to a header's table. -/
  | parent
  /-- By a dotted key. -/
  | dotted
  /-- By a header. -/
  | header
  /-- Written in braces. -/
  | inline
  deriving DecidableEq

/-- A document under construction: values with their stretch of text, tables that remember
how they came to be and their stretch, and arrays of tables made by headers. -/
inductive Node where
  /-- A value that no later key can extend. -/
  | leaf (v : Value) (span : Span)
  /-- A table. -/
  | table (origin : TableOrigin) (span : Span) (entries : List (String × Span × Node))
  /-- An array of tables, each of them a `table` node. -/
  | tables (span : Span) (items : List Node)

/-- The entries of a table under construction. -/
abbrev Entries := List (String × Span × Node)

/-- The stretch of text of a node. -/
def Node.span : Node → Span
  | .leaf _ s => s
  | .table _ s _ => s
  | .tables s _ => s

/-- The value of a node; the entries of a table in the order of their keys. -/
def Node.toValue : Node → Value
  | .leaf v _ => v
  | .table _ _ es =>
    .table ((es.attach.map fun ⟨(k, ks, n), _h⟩ => (k, ks, n.toValue, n.span)).mergeSort
      fun a b => decide (a.1 ≤ b.1))
  | .tables _ items => .array (items.attach.map fun ⟨n, _h⟩ => (n.toValue, n.span))
termination_by n => sizeOf n
decreasing_by
  · have := List.sizeOf_lt_of_mem _h
    simp only [Prod.mk.sizeOf_spec] at this
    simp only [Node.table.sizeOf_spec]
    omega
  · have := List.sizeOf_lt_of_mem _h
    simp only [Node.tables.sizeOf_spec]
    omega

/-- How a message names the type of a value. -/
def Value.typeName : Value → String
  | .string _ => "string"
  | .integer _ => "integer"
  | .float _ => "float"
  | .boolean _ => "boolean"
  | .datetime _ => "datetime"
  | .overflow .integer => "integer"
  | .overflow .float => "float"
  | .array _ => "array"
  | .table _ => "table"

/-- Replaces the node under a key. -/
def replaceEntry (es : Entries) (k : String) (n : Node) : Entries :=
  es.map fun (k', ks, old) => if k' == k then (k', ks, n) else (k', ks, old)

/-- Whether a table was made on the way to another key rather than given. -/
def TableOrigin.isImplicit : TableOrigin → Bool
  | .parent => true
  | .dotted => true
  | .header => false
  | .inline => false

/-- How a key path is followed: to the table of a header, by a dotted key of the document, or
by a dotted key within braces. -/
inductive Descent where
  | header
  | dotted
  | inline

/-- How the tables a descent makes on its way come to be. -/
def Descent.made : Descent → TableOrigin
  | .header => .parent
  | .dotted => .dotted
  | .inline => .dotted

/-- Why a descent may not pass through a table of some origin, if it may not.  In a document,
no key path passes into a table written in braces, and a dotted key passes only through tables
made on the way; within braces, only tables made on the way are passed through. -/
def Descent.refusal : Descent → TableOrigin → Option String
  | .header, .inline => some "cannot extend value of type inline table with a dotted key"
  | .header, _ => none
  | .dotted, .inline => some "cannot extend value of type inline table with a dotted key"
  | .dotted, o => if o.isImplicit then none else some "duplicate key"
  | .inline, o => if o.isImplicit then none else some "duplicate key"

/-- Follows a key path from a table of some origin to the table it names and changes that
table by `f`, which sees the table's origin and entries.  The missing tables on the way are
made, each taking the stretch of its key part; an array of tables is passed through its last
table; a value that is no table stops the path. -/
def descend {α : Type} (mode : Descent) (f : TableOrigin → Entries → Except Fault (Entries × α)) :
    TableOrigin → Entries → List (String × Span) → Except Fault (Entries × α)
  | o, es, [] => f o es
  | _, es, (k, ks) :: rest =>
    match es.find? (·.1 == k) with
    | none => do
      let (inner, a) ← descend mode f mode.made [] rest
      pure (es ++ [(k, ks, .table mode.made ks inner)], a)
    | some (_, _, .tables s items) =>
      match items.getLast? with
      | some (.table o hs inner) => do
        let (inner', a) ← descend mode f o inner rest
        pure (replaceEntry es k (.tables s (items.dropLast ++ [.table o hs inner'])), a)
      | _ => .error (Fault.make "cannot extend value of type array with a dotted key" none ks)
    | some (_, _, .table o s inner) =>
      match mode.refusal o with
      | some message => .error (Fault.make message none ks)
      | none => do
        let (inner', a) ← descend mode f o inner rest
        pure (replaceEntry es k (.table o s inner'), a)
    | some (_, _, .leaf v _) =>
      .error (Fault.make ("cannot extend value of type " ++ v.typeName ++ " with a dotted key")
        none ks)

/-- Sets a key under a key path in a table of some origin, by a descent.  The key must be new,
and a dotted key must end in a table made by dotted keys, as a plain key must not. -/
def placeEntry (mode : Descent) (top : TableOrigin) (es : Entries)
    (path : List (String × Span)) (key : String × Span) (n : Node) : Except Fault Entries :=
  let (k, ks) := key
  Prod.fst <$> descend mode (fun o inner =>
    if (o == .dotted) == path.isEmpty || inner.any (·.1 == k) then
      .error (Fault.make "duplicate key" none ks)
    else .ok (inner ++ [(k, ks, n)], ())) top es path

/-- A header whose table is being read: whether it adds a table to an array of tables, its key
path, and its stretch. -/
structure Header where
  /-- `[[...]]` rather than `[...]`. -/
  array : Bool
  /-- The key parts. -/
  path : List (String × Span)
  /-- From its opening bracket to its closing one. -/
  span : Span

/-- Starts the table of a header.  The table `[a.b]` names may be one made on the way to another
header, whose entries it takes over; anything else under its key refuses it.  A header `[[a.b]]`
starts an empty table and is checked when it is placed.  Gives the root and the entries the
table starts with. -/
def startTable (root : Entries) (h : Header) : Except Fault (Entries × Entries) :=
  match h.array, h.path.getLast? with
  | false, some (k, ks) =>
    descend .header (fun _ es =>
      match es.find? (·.1 == k) with
      | none => .ok (es, [])
      | some (_, _, .table .parent _ inner) => .ok (es.filter (·.1 != k), inner)
      | some _ => .error (Fault.make "duplicate key" none ks)) .header root h.path.dropLast
  | _, _ => .ok (root, [])

/-- Places the table read under a header, or the entries before the first header, into the
root.  A table `[a.b]` goes under its key; a table `[[a.b]]` is added to the array of tables
under its key, which it makes when the key is new and which must be an array of tables made by
headers otherwise. -/
def finishTable (root current : Entries) : Option Header → Except Fault Entries
  | none => .ok current
  | some h =>
    match h.path.getLast? with
    | none => .ok root
    | some (k, ks) =>
      let table : Node := .table .header h.span current
      Prod.fst <$> descend .header (fun _ es =>
        if h.array then
          match es.find? (·.1 == k) with
          | none => .ok (es ++ [(k, ks, .tables h.span [table])], ())
          | some (_, _, .tables s items) => .ok (replaceEntry es k (.tables s (items ++ [table])), ())
          | some _ => .error (Fault.make "duplicate key" none ks)
        else .ok (es.filter (·.1 != k) ++ [(k, ks, table)], ())) .header root h.path.dropLast

/-- The bits of a double-precision float text: a decimal, or `inf` or `nan` with a sign;
`none` for a decimal past the largest finite double. -/
def floatBits (text : List Char) : Option UInt64 :=
  let (negative, body) := match text with
    | '-' :: r => (true, r)
    | '+' :: r => (false, r)
    | r => (false, r)
  let sign : Nat := if negative then Nat.pow 2 63 else 0
  match body with
  | ['i', 'n', 'f'] => some (0x7FF0000000000000 + sign).toUInt64
  | ['n', 'a', 'n'] => some (0x7FF8000000000000 + sign).toUInt64
  | _ =>
    match Binary32.readLiteral? body with
    | some (.decimal _ mant exp) =>
      let magnitude := Binary32.double.decimal mant exp
      if magnitude ≥ 0x7FF0000000000000 then none else some (magnitude + sign).toUInt64
    | _ => none

/-- The value of an integer's digits in its radix, a decimal with its sign; `none` without
digits or past the 128-bit ranges. -/
def integerOf (r : Radix) (digits : List Char) : Option Int :=
  let (negative, body) := match digits with
    | '-' :: rest => (true, rest)
    | '+' :: rest => (false, rest)
    | rest => (false, rest)
  match Text.readDigits r.base body with
  | some m =>
    let n : Int := if negative then -(m : Int) else m
    if -(Int.pow 2 127) ≤ n && n < Int.pow 2 128 then some n else none
  | none => none

/-- The value a scalar's text says; a date or time that is none refuses it. -/
def Scalar.toValue (span : Span) : Scalar → Except Fault Value
  | .string s => .ok (.string s)
  | .boolean b => .ok (.boolean b)
  | .datetime text =>
    match readDatetime text.toList with
    | none => .ok (.datetime text)
    | some f => .error (Fault.make f.message none span)
  | .float text =>
    .ok (match floatBits text with
      | some bits => .float bits
      | none => .overflow .float)
  | .integer r digits =>
    .ok (match integerOf r digits with
      | some n => .integer n
      | none => .overflow .integer)

/-- Reading events. -/
abbrev Build := StateT (List Event) (Except Fault)

namespace Build

/-- Takes the next event. -/
def next? : Build (Option Event) := do
  match ← get with
  | [] => pure none
  | e :: r => set r; pure (some e)

/-- Reads the parts of a key, decoding each. -/
def keyParts : Nat → List (String × Span) → Build (List (String × Span))
  | 0, acc => pure acc.reverse
  | fuel + 1, acc => do
    match ← get with
    | .key span q text :: r => do
      set r
      let k ← StateT.lift (decodeKey span q text)
      match ← get with
      | .keySep :: r' => do set r'; keyParts fuel ((k, span) :: acc)
      | _ => pure ((k, span) :: acc).reverse
    | _ => pure acc.reverse

/-- The most parts a key may have. -/
def keyPartLimit : Nat := 80

/-- Reads a whole key; one of more than `keyPartLimit` parts refuses the document. -/
def key (fuel : Nat) : Build (List (String × Span)) := do
  let parts ← keyParts fuel []
  if keyPartLimit < parts.length then
    StateT.lift (.error (Fault.unlocated "recursion limit"))
  pure parts

mutual

/-- Reads a value with its stretch. -/
def value : Nat → Build Node
  | 0 => pure (.leaf (.string "") default)
  | fuel + 1 => do
    match ← next? with
    | some (.scalar span q text) => do
      let s ← StateT.lift (decodeScalar span q text)
      pure (.leaf (← StateT.lift (s.toValue span)) span)
    | some (.arrayOpen span) => do
      let (items, stop) ← arrayItems fuel []
      pure (.leaf (.array items) ⟨span.start, stop⟩)
    | some (.inlineOpen span) => do
      let (es, stop) ← inlineEntries fuel []
      pure (.table .inline ⟨span.start, stop⟩ es)
    | _ => pure (.leaf (.string "") default)

/-- Reads the values of an array up to its closing, with the byte after it. -/
def arrayItems : Nat → List (Value × Span) → Build (List (Value × Span) × Nat)
  | 0, acc => pure (acc.reverse, 0)
  | fuel + 1, acc => do
    match ← get with
    | .arrayClose span :: r => do set r; pure (acc.reverse, span.stop)
    | .valueSep :: r => do set r; arrayItems fuel acc
    | _ => do
      let n ← value fuel
      arrayItems fuel ((n.toValue, n.span) :: acc)

/-- Reads the entries of an inline table up to its closing, with the byte after it. -/
def inlineEntries : Nat → Entries → Build (Entries × Nat)
  | 0, es => pure (es, 0)
  | fuel + 1, es => do
    match ← get with
    | .inlineClose span :: r => do set r; pure (es, span.stop)
    | .valueSep :: r => do set r; inlineEntries fuel es
    | _ => do
      let parts ← key fuel
      let _ ← next?
      let n ← value fuel
      match parts.getLast? with
      | some last =>
        let es ← StateT.lift (placeEntry .inline .inline es parts.dropLast last n)
        inlineEntries fuel es
      | none => inlineEntries fuel es

end

/-- Reads the events of a document: `root` holds the tables of the headers placed so far,
`current` the entries of the table being read, and `header` its header (`none` before the
first header). -/
def document : Nat → Entries → Entries → Option Header → Build Entries
  | 0, root, _, _ => pure root
  | fuel + 1, root, current, header => do
    match ← next? with
    | none => StateT.lift (finishTable root current header)
    | some (.tableOpen array span) => do
      let root ← StateT.lift (finishTable root current header)
      let path ← key fuel
      let stop := match ← next? with
        | some (.tableClose s) => s.stop
        | _ => span.stop
      let h : Header := { array, path, span := ⟨span.start, stop⟩ }
      let (root, current) ← StateT.lift (startTable root h)
      document fuel root current (some h)
    | some (.key span q text) => do
      modify (.key span q text :: ·)
      let parts ← key fuel
      let _ ← next?
      let n ← value fuel
      match parts.getLast? with
      | some last =>
        let current ← StateT.lift (placeEntry .dotted .header current parts.dropLast last n)
        document fuel root current header
      | none => document fuel root current header
    | some _ => document fuel root current header

end Build

/-- The entries of a table as values. -/
def entriesOf (es : Entries) : List Entry :=
  match (Node.table .header default es).toValue with
  | .table entries => entries
  | _ => []

/-- Reads a whole document as a table. -/
def readDocument (text : String) : Except Fault (List Entry) := do
  let events ← parseDocument (tokenize text)
  let (root, _) ← (Build.document (events.size + 1) [] [] none).run events.toList
  pure (entriesOf root)

end TegraGpu.Toml
