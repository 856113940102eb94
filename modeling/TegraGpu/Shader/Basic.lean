import TegraGpu.Folder
import TegraGpu.Text.Radix
/-!
# Shaders

A shader is the assembled form of one pipeline stage: its instruction words in program order and
four tables by index, of attribute names, exported names, uniform names and constant words.
Which tables a shader may have, and how many indices each accepts, depends on its kind:

| part          | vertex | fragment | linker |
|---------------|--------|----------|--------|
| attributes    | 16     | -        | -      |
| exports       | 16     | -        | -      |
| uniforms      | 256    | 64       | -      |
| constants     | 1024   | 32       | -      |
| words         | any    | any      | any    |

* `Kind`, `Part`, `Part.limit` : the stages, the parts of a source and the table above.
* `Table` : a table by index, kept sorted, with `Table.insert?` refusing a second entry.
* `Shader`, `Shader.listing` : the shader and its word listing.
* `Fault`, `ShaderError` : what can go wrong, with the messages.
-/

namespace TegraGpu.Shader

/-- The pipeline stage a shader is for. -/
inductive Kind where
  | vertex
  | fragment
  | linker
  deriving DecidableEq

/-- The name of a kind. -/
def Kind.name : Kind → String
  | .vertex => "vertex"
  | .fragment => "fragment"
  | .linker => "linker"

/-- The parts of a shader source, each opened by a header line. -/
inductive Part where
  | attributes
  | exports
  | uniforms
  | constants
  /-- The instruction words, opened by `.asm`. -/
  | words
  deriving DecidableEq

/-- The name of a part in messages. -/
def Part.name : Part → String
  | .attributes => "attributes"
  | .exports => "exports"
  | .uniforms => "uniforms"
  | .constants => "constants"
  | .words => "asm"

/-- The part that a header line opens: a point and the part's name, nothing else. -/
def Part.ofHeader? (line : List Char) : Option Part :=
  if line = ".attributes".toList then some .attributes
  else if line = ".exports".toList then some .exports
  else if line = ".uniforms".toList then some .uniforms
  else if line = ".constants".toList then some .constants
  else if line = ".asm".toList then some .words
  else none

/-- Words a vertex program's constant table holds. -/
def vertexConstants : Nat := 1024

/-- Words a fragment program's constant table holds. -/
def fragmentConstants : Nat := 32

/-- How many indices a part accepts in a shader of a kind; `none` when the part is not allowed. -/
def Part.limit : Kind → Part → Option Nat
  | _, .words => some (Nat.pow 2 32 - 1)
  | .vertex, .attributes => some 16
  | .vertex, .exports => some 16
  | .vertex, .uniforms => some 256
  | .vertex, .constants => some vertexConstants
  | .fragment, .uniforms => some 64
  | .fragment, .constants => some fragmentConstants
  | _, _ => none

/-- A table by index, sorted by increasing index, each index once. -/
abbrev Table (α : Type) := List (Nat × α)

/-- Adds an entry at its place; `none` when the index is taken. -/
def Table.insert? {α : Type} (i : Nat) (a : α) : Table α → Option (Table α)
  | [] => some [(i, a)]
  | (j, b) :: rest =>
    if i < j then some ((i, a) :: (j, b) :: rest)
    else if i = j then none
    else (Table.insert? i a rest).map ((j, b) :: ·)

/-- The value at an index. -/
def Table.get? {α : Type} (t : Table α) (i : Nat) : Option α :=
  (t.find? (fun e => e.1 == i)).map Prod.snd

end TegraGpu.Shader

namespace TegraGpu

/-- The assembled form of a shader; its kinds, tables and operations live in the namespace of the
same name. -/
structure Shader where
  /-- The stage it is for. -/
  kind : Shader.Kind
  /-- The instruction words in program order. -/
  words : Array UInt32 := #[]
  /-- Input attribute names by location. -/
  attributes : Shader.Table String := []
  /-- Exported names by slot. -/
  exports : Shader.Table String := []
  /-- Uniform names by location. -/
  uniforms : Shader.Table String := []
  /-- Constant words by index. -/
  constants : Shader.Table UInt32 := []

end TegraGpu

namespace TegraGpu.Shader

/-- The listing of the words, one line each: the position in four decimal digits, a colon and
the word in hexadecimal. -/
def listing (s : Shader) : String :=
  String.join <| (List.range s.words.size).zip s.words.toList |>.map fun (i, w) =>
    Text.padDecimal 4 i ++ ": " ++ Text.wordHex w ++ "\n"

/-- What is wrong with one line of a source. -/
inductive Fault where
  /-- A header of a part that the kind does not allow. -/
  | partNotAllowed (header : String) (kind : Kind)
  /-- A line before any header. -/
  | outsideSection
  /-- A token of the words part that is no word. -/
  | badWord (token : String)
  /-- An entry line that does not start with `[`. -/
  | notAnEntry (line : String)
  /-- An entry without `]`. -/
  | missingBracket
  /-- An entry index that is no number below `2^32`. -/
  | badIndex (text : String)
  /-- An entry without `=` after the index. -/
  | missingEquals
  /-- A name that is not quoted, empty or holds a quote. -/
  | badName (value : String)
  /-- A constant that is neither a hexadecimal word nor a number. -/
  | badConstant (value : String)
  /-- An index given twice in one table. -/
  | duplicate (index : Nat)
  deriving DecidableEq

/-- The message of a fault. -/
def Fault.message : Fault → String
  | .partNotAllowed header kind =>
    "section `" ++ header ++ "' is not allowed in a " ++ kind.name ++ " shader"
  | .outsideSection => "statement outside of a section"
  | .badWord token => "invalid instruction word `" ++ token ++ "'"
  | .notAnEntry line => "expected `[index] = value', got `" ++ line ++ "'"
  | .missingBracket => "missing `]'"
  | .badIndex text => "invalid index `" ++ text ++ "'"
  | .missingEquals => "missing `='"
  | .badName value => "expected a quoted name, got `" ++ value ++ "'"
  | .badConstant value => "invalid constant `" ++ value ++ "'"
  | .duplicate index => "index " ++ toString index ++ " defined twice"

/-- Why a shader could not be read, assembled or combined. -/
inductive ShaderError where
  /-- A malformed line. -/
  | malformed (path : String) (line : Nat) (fault : Fault)
  /-- A header naming no part. -/
  | unknownSection (header : String) (line : Nat)
  /-- An entry index at or past the part's limit. -/
  | indexOutOfRange (part : Part) (index : Nat) (limit : Nat)
  /-- A shader of another kind where one kind was expected. -/
  | wrongKind (expected found : Kind)
  /-- A program used before it was linked. -/
  | notLinked
  /-- A source file that could not be read. -/
  | unreadable (path : String) (failure : IoFailure)
  deriving DecidableEq

/-- The message of a shader error. -/
def ShaderError.message : ShaderError → String
  | .malformed path line fault => path ++ ":" ++ toString line ++ ": " ++ fault.message
  | .unknownSection header line =>
    "Unknown section `" ++ header ++ "' at line " ++ toString line
  | .indexOutOfRange part index limit =>
    "Index " ++ toString index ++ " out of range in section `" ++ part.name ++ "' (limit " ++
      toString limit ++ ")"
  | .wrongKind expected found =>
    "Expected " ++ expected.name ++ " shader, got " ++ found.name ++ " shader"
  | .notLinked => "Program is not linked"
  | .unreadable path failure => "Failed to read `" ++ path ++ "': " ++ failure.message

end TegraGpu.Shader
