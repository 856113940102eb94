import TegraGpu.Log
import TegraGpu.Text.Blank
import TegraGpu.Text.Alphanumeric
import TegraGpu.Regex.Automaton
/-!
# Environment files and log filters

An environment file holds `KEY=value` lines, optionally after `export`; blank lines and lines
starting with `#` are skipped, and so is a byte-order mark at the start of the file.  A key
starts with an ASCII letter or `_` and goes on with ASCII letters, digits, `_` and `.`.  A value
ends at an unquoted blank, after which only blanks and a comment may follow; single quotes keep
text as it is, double quotes allow backslash escapes, and `$NAME` or `$` with the name in braces
stands for the value of a variable, the name being made of Unicode letters and digits.  The
first line that breaks these rules stops the reading, reporting the line and the position of
the fault; the lines before it count.  A variable set twice keeps its first value, and one set
in the environment keeps that value.

A log filter is a comma-separated list of directives, each trimmed of blanks: a level alone sets
the default, a name alone lets everything of the components whose target starts with it
through, and `name=level` sets a level for them; a directive for a name given before takes its
place.  The longest matching name decides, and of two as long the later in the list.  With no
directive only errors pass.  After a `/`, a pattern follows that a message has to match
somewhere; a pattern that cannot be compiled is reported and dropped.

* `readEnvironment` : the variables of an environment file, and the fault that stopped it.
* `LogFilter.parse`, `LogFilter.allows` : log filters.
-/

namespace TegraGpu.Cli

/-- Why an environment file could not be read to its end: the text and the fault's position,
in bytes for a line and in characters for a value. -/
structure LineFault where
  /-- The text of the faulty line, or of its value. -/
  line : String
  /-- The position of the fault in it. -/
  index : Nat

/-- The wording of a line fault. -/
def LineFault.message (f : LineFault) : String :=
  "Error parsing line: '" ++ f.line ++ "', error at line index: " ++ toString f.index

/-- Whether a character may start a key. -/
def isKeyStart (c : Char) : Bool := (c.isAlpha && c.toNat < 128) || c = '_'

/-- Whether a character may stand in a key. -/
def isKeyChar (c : Char) : Bool := (c.isAlphanum && c.toNat < 128) || c = '_' || c = '.'

/-- The size of a text in UTF-8 bytes. -/
def byteSize (cs : List Char) : Nat := cs.foldl (fun n c => n + c.utf8Size) 0

/-! ## Logical lines

A value in quotes may span several lines of the file.  Each line is scanned with a small state
machine that notes open quotes and backslashes; while one is open at the end of a line, the next
line is joined to it.  A blank followed by `#` starts a comment, where the line is cut.  A file
that ends while a quote, a backslash or a trailing blank is open is faulty. -/

/-- Where the scan of a line stands. -/
inductive LineState where
  /-- Nothing open. -/
  | complete
  /-- After a blank. -/
  | blank
  /-- After a backslash outside quotes. -/
  | escape
  /-- Inside double quotes. -/
  | weakOpen
  /-- After a backslash inside double quotes. -/
  | weakOpenEscape
  /-- Inside single quotes. -/
  | strongOpen
  /-- After a backslash inside single quotes. -/
  | strongOpenEscape
  deriving DecidableEq

/-- One step of the scan; `none` when a comment starts. -/
def LineState.next : LineState → Char → Option LineState
  | .blank, c =>
    if c = '#' then none
    else if c = '\\' then some .escape
    else if c = '"' then some .weakOpen
    else if c = '\'' then some .strongOpen
    else some .complete
  | .escape, _ => some .complete
  | .complete, c =>
    if Text.isBlank c && c ≠ '\n' && c ≠ '\r' then some .blank
    else if c = '\\' then some .escape
    else if c = '"' then some .weakOpen
    else if c = '\'' then some .strongOpen
    else some .complete
  | .weakOpen, c =>
    if c = '\\' then some .weakOpenEscape else if c = '"' then some .complete else some .weakOpen
  | .weakOpenEscape, _ => some .weakOpen
  | .strongOpen, c =>
    if c = '\\' then some .strongOpenEscape
    else if c = '\'' then some .complete
    else some .strongOpen
  | .strongOpenEscape, _ => some .strongOpen

/-- Scans a line from a state: the state at its end, or the length of the part before a
comment. -/
def scanLine (st : LineState) : List Char → Nat → LineState ⊕ Nat
  | [], _ => .inl st
  | c :: rest, n =>
    match st.next c with
    | some st => scanLine st rest (n + 1)
    | none => .inr n

/-- The lines of a text, each with its line break. -/
def physicalLines (text : String) : List (List Char) :=
  let parts := text.splitOn "\n"
  match parts.reverse with
  | [] => []
  | last :: before =>
    before.reverse.map (fun l => l.toList ++ ['\n']) ++ (if last.isEmpty then [] else [last.toList])

/-- Drops one line break, and a carriage return before it. -/
def dropBreak (cs : List Char) : List Char :=
  match cs.reverse with
  | '\n' :: '\r' :: r => r.reverse
  | '\n' :: r => r.reverse
  | _ => cs

/-- Joins the lines of a file into logical lines; a comment line becomes an empty one.  Gives
the fault of a file that ends inside an open line. -/
def logicalLines : List (List Char) → List Char → LineState → List String × Option LineFault
  | [], buf, st =>
    if st = .complete then ([], none)
    else ([], some { line := String.ofList buf, index := byteSize buf })
  | l :: rest, buf, st =>
    let buf' := buf ++ l
    if (Text.trimStart buf').head? = some '#' then
      let (ls, f) := logicalLines rest [] .complete
      ("" :: ls, f)
    else
      match scanLine st l 0 with
      | .inr n =>
        let (ls, f) := logicalLines rest [] .complete
        (String.ofList (buf ++ l.take n) :: ls, f)
      | .inl .complete =>
        let (ls, f) := logicalLines rest [] .complete
        (String.ofList (dropBreak buf') :: ls, f)
      | .inl st' => logicalLines rest buf' st'

/-! ## Values -/

/-- How a `$` substitution is being read. -/
inductive Substitution where
  /-- No substitution. -/
  | none
  /-- A name after `$`. -/
  | plain
  /-- A name in braces after `$`. -/
  | braced
  deriving DecidableEq

/-- The state of reading a value, character by character. -/
structure ValueState where
  /-- The value so far. -/
  out : String := ""
  /-- Inside single quotes. -/
  strong : Bool := false
  /-- Inside double quotes. -/
  weak : Bool := false
  /-- After a backslash. -/
  escaped : Bool := false
  /-- After an unquoted blank: only blanks and a comment may follow. -/
  ending : Bool := false
  /-- How a substitution is being read. -/
  subst : Substitution := .none
  /-- The variable name read so far. -/
  name : String := ""
  /-- Stopped at a comment. -/
  done : Bool := false

/-- One character of a value, with its position; `lookup` gives the variables to substitute. -/
def ValueState.step (lookup : String → String) (st : ValueState) (ic : Char × Nat) :
    Except Nat ValueState :=
  let (c, i) := ic
  let flush (st : ValueState) : ValueState :=
    { st with out := st.out ++ lookup st.name, name := "" }
  if st.done then .ok st
  else if st.ending then
    if c = ' ' || c = '\t' then .ok st
    else if c = '#' then .ok { st with done := true }
    else .error i
  else if st.escaped then
    if c = '\\' || c = '\'' || c = '"' || c = '$' || c = ' ' then
      .ok { st with out := st.out.push c, escaped := false }
    else if c = 'n' then .ok { st with out := st.out.push '\n', escaped := false }
    else .error i
  else if st.strong then
    if c = '\'' then .ok { st with strong := false } else .ok { st with out := st.out.push c }
  else if st.subst ≠ .none then
    if Text.isAlphanumeric c then .ok { st with name := st.name.push c }
    else if st.subst = .plain then
      if c = '\x7b' && st.name.isEmpty then .ok { st with subst := .braced }
      else
        let st := flush st
        if c = '$' then .ok { st with subst := .plain }
        else .ok { st with subst := .none, out := st.out.push c }
    else if c = '\x7d' then .ok { flush st with subst := .none }
    else .ok { st with name := st.name.push c }
  else if c = '$' then .ok { st with subst := .plain }
  else if st.weak then
    if c = '"' then .ok { st with weak := false }
    else if c = '\\' then .ok { st with escaped := true }
    else .ok { st with out := st.out.push c }
  else if c = '\'' then .ok { st with strong := true }
  else if c = '"' then .ok { st with weak := true }
  else if c = '\\' then .ok { st with escaped := true }
  else if c = ' ' || c = '\t' then .ok { st with ending := true }
  else .ok { st with out := st.out.push c }

/-- Reads a value; gives the fault's position on a bad character, or the position of the last
byte when a quote or a braced name is left open. -/
def readValue (lookup : String → String) (input : String) : Except Nat String :=
  match input.toList.zipIdx.foldlM (ValueState.step lookup) ({} : ValueState) with
  | .error i => .error i
  | .ok st =>
    if st.subst = .braced || st.strong || st.weak then .error (input.utf8ByteSize - 1)
    else .ok (st.out ++ lookup st.name)

/-! ## Lines -/

/-- Reads a key at a byte position: the key, the rest and the position after it. -/
def readKey (fault : Nat → LineFault) (cs : List Char) (pos : Nat) :
    Except LineFault (String × List Char × Nat) :=
  match cs with
  | c :: _ =>
    if isKeyStart c then
      let k := cs.takeWhile isKeyChar
      .ok (String.ofList k, cs.drop k.length, pos + k.length)
    else .error (fault pos)
  | [] => .error (fault pos)

/-- Skips blanks at a byte position. -/
def skipBlanks (cs : List Char) (pos : Nat) : List Char × Nat :=
  let r := cs.dropWhile Text.isBlank
  (r, pos + byteSize (cs.take (cs.length - r.length)))

/-- Reads one logical line: nothing for a blank or comment line, else a key and its value, or
none for the value of `KEY=` with nothing after it. -/
def readLine (lookup : String → String) (line : String) :
    Except LineFault (Option (String × Option String)) := do
  let fault (pos : Nat) : LineFault := { line, index := pos }
  let (rest, pos) := skipBlanks (Text.trimEnd line.toList) 0
  if rest.isEmpty || rest.head? = some '#' then return none
  let (k, rest, pos) ← readKey fault rest pos
  let (rest, pos) := skipBlanks rest pos
  let (k, rest, pos) ← match rest with
    | '=' :: r => pure (k, r, pos + 1)
    | _ =>
      if k == "export" then do
        let (k, rest, pos) ← readKey fault rest pos
        let (rest, pos) := skipBlanks rest pos
        match rest with
        | '=' :: r => pure (k, r, pos + 1)
        | _ => throw (fault pos)
      else throw (fault pos)
  let (rest, _) := skipBlanks rest pos
  if rest.isEmpty || rest.head? = some '#' then return some (k, none)
  let input := String.ofList rest
  match readValue lookup input with
  | .ok v => return some (k, some v)
  | .error i => throw { line := input, index := i }

/-- The value of a variable: from the environment, else from the first setting in the file's
earlier lines, else empty.  The file's settings are made one line at a time and never replace
a variable that is already set, so the first one is the one that counts. -/
def lookupVar (environment vars : List (String × String)) (name : String) : String :=
  ((environment ++ vars).find? (·.1 == name)).elim "" Prod.snd

/-- Reads an environment file over the variables already set: the file's variables in order of
their first setting, and the fault that stopped the reading, if any.  A byte-order mark at the
start of the file is not part of its text. -/
def readEnvironment (environment : List (String × String)) (text : String) :
    List (String × String) × Option LineFault :=
  let text := match text.toList with
    | '\uFEFF' :: rest => String.ofList rest
    | _ => text
  let (lines, tailFault) := logicalLines (physicalLines text) [] .complete
  let step (acc : List (String × String) × Option LineFault) (line : String) :=
    let (vars, fault) := acc
    match fault with
    | some _ => acc
    | none =>
      match readLine (lookupVar environment vars) line with
      | .ok none => acc
      | .ok (some (k, v)) =>
        (if vars.any (·.1 == k) then vars else vars ++ [(k, v.getD "")], none)
      | .error f => (vars, some f)
  let (vars, fault) := lines.foldl step ([], none)
  (vars, fault.or tailFault)

/-- The most detailed level that passes, or none. -/
inductive Threshold where
  | off
  | upTo (level : Level)

/-- Reads a level name in any case. -/
def Threshold.ofName? (s : String) : Option Threshold :=
  match s.toLower with
  | "off" => some .off
  | "error" => some (.upTo .error)
  | "warn" => some (.upTo .warn)
  | "info" => some (.upTo .info)
  | "debug" => some (.upTo .debug)
  | "trace" => some (.upTo .trace)
  | _ => none

/-- Whether a level passes a threshold. -/
def Threshold.passes (t : Threshold) (l : Level) : Bool :=
  match t with
  | .off => false
  | .upTo m => l.rank ≤ m.rank

/-- A log filter: directives by target prefix, least specific first, and an optional pattern
that messages must match somewhere. -/
structure LogFilter where
  /-- The directives: a target prefix, or none for all, with its threshold. -/
  directives : List (Option String × Threshold)
  /-- A pattern that a message must match. -/
  pattern : Option Regex.Matcher := none

/-- Adds a directive; one for the same target prefix is replaced where it stands. -/
def insertDirective (ds : List (Option String × Threshold)) (d : Option String × Threshold) :
    List (Option String × Threshold) :=
  if ds.any (·.1 == d.1) then ds.map fun e => if e.1 == d.1 then d else e else ds ++ [d]

/-- Reads a filter; also gives the warnings about directives that were ignored.  An empty
name before `=` is a prefix of every target, apart from the default that a level alone sets,
and of the two the one set first is the less specific. -/
def LogFilter.parse (spec : String) : LogFilter × List String :=
  match spec.splitOn "/" with
  | [mods] | [mods, _] =>
    let (ds, warnings) := (mods.splitOn ",").foldl (fun (ds, ws) part =>
      let s := Text.trimText part
      if s.isEmpty then (ds, ws)
      else match s.splitOn "=" with
        | [p0] =>
          match Threshold.ofName? p0 with
          | some t => (insertDirective ds (none, t), ws)
          | none => (insertDirective ds (some p0, .upTo .trace), ws)
        | [p0, p1] =>
          let p1 := Text.trimText p1
          if p1.isEmpty then (insertDirective ds (some p0, .upTo .trace), ws)
          else match Threshold.ofName? p1 with
            | some t => (insertDirective ds (some p0, t), ws)
            | none => (ds, ws ++ ["warning: invalid logging spec '" ++ p1 ++ "', ignoring it"])
        | _ => (ds, ws ++ ["warning: invalid logging spec '" ++ s ++ "', ignoring it"]))
      ([], [])
    let ds := if ds.isEmpty then [(none, Threshold.upTo .error)]
      else ds.mergeSort fun a b => (a.1.map String.length).getD 0 ≤ (b.1.map String.length).getD 0
    let (pattern, patternWarnings) := match spec.splitOn "/" with
      | [_, p] =>
        match Regex.Matcher.compile p with
        | .ok m => (some m, [])
        | .error e => (none, Text.lines ("warning: invalid regex filter - " ++ e ++ ", ignoring it"))
      | _ => (none, [])
    ({ directives := ds, pattern }, warnings ++ patternWarnings)
  | _ =>
    ({ directives := [(none, .upTo .error)] },
      ["warning: invalid logging spec '" ++ spec ++ "' (too many '/'s), ignoring it"])

/-- Whether a record passes the filter: the most specific directive whose prefix starts the
target decides. -/
def LogFilter.allows (f : LogFilter) (r : Record) : Bool :=
  let target := r.origin.target
  let decided := f.directives.reverse.find? fun (name, _) =>
    match name with
    | some n => target.startsWith n
    | none => true
  let levelOk := match decided with
    | some (_, t) => t.passes r.level
    | none => false
  levelOk && match f.pattern with
    | some p => p.matches r.text
    | none => true

end TegraGpu.Cli
