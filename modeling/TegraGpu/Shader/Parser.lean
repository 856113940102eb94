import TegraGpu.Shader.Basic
import TegraGpu.Text.Blank
import TegraGpu.Text.Lines
import TegraGpu.Binary32.Read
import TegraGpu.Log
/-!
# Reading shader sources

A source is read line by line.  A line loses its comment, which starts at the first `#` or `//`
outside double quotes, and its blanks at both ends; what remains empty is skipped.  A line
starting with `.` is a header and opens a part; every other line belongs to the part opened
last.  In the words part a line holds hexadecimal words (`0x` optional), separated by blanks,
commas or semicolons.  In the other parts a line is one entry `[index] = value`, a `;` after the
value being optional: a quoted name, or for constants a hexadecimal word after `0x` or a decimal
number whose single-precision bits are stored.

The first bad line ends the reading with its error; `step` reads one line, and `parse` is the
left fold of `step` over the numbered lines, stopped at the first error.

* `stripComment`, `splitEntry`, `readName?`, `readHexWord?`, `readConstant?` : the line syntax.
* `step`, `parse`, `parseFile` : the reading.
* `parsedRecord` : the debug record of a successful reading.
-/

namespace TegraGpu.Shader

open TegraGpu.Text

/-- Cuts a line at the first `#` or `//` that is not inside double quotes. -/
def stripComment (quoted : Bool) : List Char → List Char
  | [] => []
  | c :: rest =>
    if c = '"' then c :: stripComment (!quoted) rest
    else if !quoted && c = '#' then []
    else if !quoted && c = '/' && rest.head? = some '/' then []
    else c :: stripComment quoted rest

/-- Splits at the first occurrence of `sep`, dropping it. -/
def splitOnce (sep : Char) : List Char → Option (List Char × List Char)
  | [] => none
  | c :: rest =>
    if c = sep then some ([], rest)
    else (splitOnce sep rest).map fun (a, b) => (c :: a, b)

/-- Splits an entry line `[index] = value;` into its index and its value text. -/
def splitEntry (line : List Char) : Except Fault (Nat × List Char) :=
  match line with
  | '[' :: rest =>
    match splitOnce ']' rest with
    | none => .error .missingBracket
    | some (index, after) =>
      let index := trim index
      match readWord? 10 index with
      | none => .error (.badIndex (String.ofList index))
      | some i =>
        match trimStart after with
        | '=' :: value =>
          let value := trim value
          let value := if value.getLast? = some ';' then trimEnd value.dropLast else value
          .ok (i.toNat, value)
        | _ => .error .missingEquals
  | _ => .error (.notAnEntry (String.ofList line))

/-- A name in double quotes, itself nonempty and free of quotes. -/
def readName? (value : List Char) : Option String :=
  match value with
  | '"' :: rest =>
    if rest.getLast? = some '"' then
      let name := rest.dropLast
      if name.isEmpty || name.contains '"' then none else some (String.ofList name)
    else none
  | _ => none

/-- Whether a text starts with `0x` or `0X`. -/
def hasHexPrefix (cs : List Char) : Bool :=
  match cs with
  | '0' :: 'x' :: _ => true
  | '0' :: 'X' :: _ => true
  | _ => false

/-- A hexadecimal word, with or without `0x`. -/
def readHexWord? (token : List Char) : Option UInt32 :=
  readWord? 16 (if hasHexPrefix token then token.drop 2 else token)

/-- A constant: a hexadecimal word after `0x`, else the bits of a decimal number. -/
def readConstant? (value : List Char) : Option UInt32 :=
  if hasHexPrefix value then readHexWord? value
  else Binary32.readBits? value

/-- Whether a character separates the words of a words line. -/
def isWordSeparator (c : Char) : Bool :=
  isBlank c || c = ',' || c = ';'

/-- The pieces of a line between separator characters, empty pieces included. -/
def splitAt (sep : Char → Bool) : List Char → List (List Char)
  | [] => [[]]
  | c :: rest =>
    if sep c then [] :: splitAt sep rest
    else
      match splitAt sep rest with
      | [] => [[c]]
      | piece :: pieces => (c :: piece) :: pieces

/-- What has been read of a source so far: the shader and the part opened last. -/
structure Progress where
  /-- The shader read so far. -/
  shader : Shader
  /-- The part that the last header opened. -/
  part : Option Part

/-- Reads the words of a words line into the shader. -/
def readWords (path : String) (lineNo : Nat) (s : Shader) :
    List (List Char) → Except ShaderError Shader
  | [] => .ok s
  | token :: rest =>
    if token.isEmpty then readWords path lineNo s rest
    else
      match readHexWord? token with
      | none => .error (.malformed path lineNo (.badWord (String.ofList token)))
      | some w => readWords path lineNo { s with words := s.words.push w } rest

/-- Stores a named entry in the table of its part. -/
def storeName (s : Shader) (part : Part) (i : Nat) (name : String) : Option Shader :=
  match part with
  | .attributes => (s.attributes.insert? i name).map fun t => { s with attributes := t }
  | .exports => (s.exports.insert? i name).map fun t => { s with exports := t }
  | _ => (s.uniforms.insert? i name).map fun t => { s with uniforms := t }

/-- Reads an entry line of a table part into the shader. -/
def readEntry (path : String) (lineNo : Nat) (s : Shader) (part : Part) (line : List Char) :
    Except ShaderError Shader := do
  let (i, value) ← (splitEntry line).mapError (.malformed path lineNo)
  let limit := (part.limit s.kind).getD 0
  if limit ≤ i then throw (.indexOutOfRange part i limit)
  let stored ← match part with
    | .constants =>
      match readConstant? value with
      | none => throw (.malformed path lineNo (.badConstant (String.ofList value)))
      | some w => pure ((s.constants.insert? i w).map fun t => { s with constants := t })
    | _ =>
      match readName? value with
      | none => throw (.malformed path lineNo (.badName (String.ofList value)))
      | some name => pure (storeName s part i name)
  match stored with
  | none => throw (.malformed path lineNo (.duplicate i))
  | some s => pure s

/-- Reads one numbered line of a source. -/
def step (path : String) (p : Progress) (numbered : Nat × List Char) :
    Except ShaderError Progress :=
  let (lineNo, raw) := numbered
  let line := trim (stripComment false raw)
  match line with
  | [] => .ok p
  | '.' :: _ =>
    match Part.ofHeader? line with
    | none => .error (.unknownSection (String.ofList line) lineNo)
    | some part =>
      if (part.limit p.shader.kind).isNone then
        .error (.malformed path lineNo (.partNotAllowed (String.ofList line) p.shader.kind))
      else .ok { p with part := some part }
  | _ =>
    match p.part with
    | none => .error (.malformed path lineNo .outsideSection)
    | some .words =>
      (readWords path lineNo p.shader (splitAt isWordSeparator line)).map fun s =>
        { p with shader := s }
    | some part => (readEntry path lineNo p.shader part line).map fun s => { p with shader := s }

/-- The lines of a source, numbered from one. -/
def numberedLines (source : String) : List (Nat × List Char) :=
  let ls := linesOf source.toList
  (List.range ls.length).map (· + 1) |>.zip ls

/-- Reads a shader source of a kind; `path` names it in messages. -/
def parse (kind : Kind) (path : String) (source : String) : Except ShaderError Shader :=
  ((numberedLines source).foldlM (step path) { shader := { kind }, part := none }).map
    Progress.shader

/-- Reads a shader source file of a kind from the working directory. -/
def parseFile (folder : Folder) (kind : Kind) (path : String) : Except ShaderError Shader :=
  match folder.read path with
  | .error failure => .error (.unreadable path failure)
  | .ok source => parse kind path source

/-- The debug record that a successful reading writes. -/
def parsedRecord (path : String) (s : Shader) : Record :=
  { level := .debug, origin := .shader,
    text := "Parsed " ++ s.kind.name ++ " shader " ++ path ++ ": " ++ toString s.words.size ++
      " words, " ++ toString s.attributes.length ++ " attributes, " ++
      toString s.uniforms.length ++ " uniforms, " ++ toString s.constants.length ++
      " constants" }

end TegraGpu.Shader
