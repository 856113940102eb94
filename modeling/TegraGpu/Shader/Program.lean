import TegraGpu.Shader.Basic
import TegraGpu.Log
/-!
# Programs

A program combines a vertex, a fragment and a linker shader.  Linking copies the constants of the
vertex and fragment shaders into the two constant tables that the engine uploads, of 1024 and 32
words, all other words zero; a program that was never linked has zero tables.  Because reading a
shader refuses constant indices at or past these sizes, linking stores every constant.

* `Program.make` : the kind checks, in the order vertex, fragment, linker.
* `Program.link`, `Program.linkedRecord` : linking and its debug record.
* `Program.attributeLocation`, `Program.vertexUniformLocation`,
  `Program.fragmentUniformLocation` : the least index that carries a name.
* `Program.listing`, `Program.rawListing` : the dumps of a program.
-/

namespace TegraGpu.Shader

/-- Three shaders that run together, with the constant tables of the last link. -/
structure Program where
  /-- The vertex shader. -/
  vs : Shader
  /-- The fragment shader. -/
  fs : Shader
  /-- The linker shader. -/
  linker : Shader
  /-- The vertex constant table, `vertexConstants` words. -/
  vsConstants : Array UInt32 := Array.replicate vertexConstants 0
  /-- The fragment constant table, `fragmentConstants` words. -/
  fsConstants : Array UInt32 := Array.replicate fragmentConstants 0
  /-- Whether the program was linked. -/
  linked : Bool := false

/-- Checks that each shader has the kind of its slot and combines them, unlinked. -/
def Program.make (vs fs linker : Shader) : Except ShaderError Program :=
  if vs.kind ≠ .vertex then .error (.wrongKind .vertex vs.kind)
  else if fs.kind ≠ .fragment then .error (.wrongKind .fragment fs.kind)
  else if linker.kind ≠ .linker then .error (.wrongKind .linker linker.kind)
  else .ok { vs, fs, linker }

/-- A table of `n` words, zero but at the entries of `t` that fit. -/
def fillTable (n : Nat) (t : Table UInt32) : Array UInt32 :=
  t.foldl (fun a (i, w) => a.setIfInBounds i w) (Array.replicate n 0)

/-- Links the program: the constant tables are rebuilt from the shaders' constants. -/
def Program.link (p : Program) : Program :=
  { p with
    vsConstants := fillTable vertexConstants p.vs.constants,
    fsConstants := fillTable fragmentConstants p.fs.constants,
    linked := true }

/-- The debug record that linking writes. -/
def Program.linkedRecord (p : Program) : Record :=
  { level := .debug, origin := .program,
    text := "Linked program: " ++ toString p.vs.words.size ++ " vertex, " ++
      toString p.fs.words.size ++ " fragment, " ++ toString p.linker.words.size ++
      " linker words" }

/-- The least index of a table whose entry is `name`. -/
def Table.locate (t : Table String) (name : String) : Option Nat :=
  (t.find? (fun e => e.2 == name)).map Prod.fst

/-- The location of a vertex attribute. -/
def Program.attributeLocation (p : Program) (name : String) : Option Nat :=
  p.vs.attributes.locate name

/-- The location of a vertex uniform. -/
def Program.vertexUniformLocation (p : Program) (name : String) : Option Nat :=
  p.vs.uniforms.locate name

/-- The location of a fragment uniform. -/
def Program.fragmentUniformLocation (p : Program) (name : String) : Option Nat :=
  p.fs.uniforms.locate name

/-- The word listings of the three shaders under their titles. -/
def Program.listing (p : Program) : String :=
  "\nVertex disassembly:\n" ++ p.vs.listing ++ "\n\nFragment disassembly:\n" ++ p.fs.listing ++
    "\n\nLinker disassembly:\n" ++ p.linker.listing ++ "\n"

/-- One titled section of the raw listing: a line per word, with its position. -/
def rawSection (title : String) (words : Array UInt32) : String :=
  "\n" ++ title ++ ":\n" ++ String.join ((List.range words.size).zip words.toList |>.map
    fun (i, w) => "\t[" ++ toString i ++ "] = " ++ Text.wordHex w ++ ",\n")

/-- The constant tables and the words of the three shaders, every word on its own line. -/
def Program.rawListing (p : Program) : String :=
  rawSection "Vertex constants raw" p.vsConstants ++
    rawSection "Fragment constants raw" p.fsConstants ++
    rawSection "Vertex program raw" p.vs.words ++
    rawSection "Fragment program raw" p.fs.words ++
    rawSection "Linker program raw" p.linker.words

end TegraGpu.Shader
