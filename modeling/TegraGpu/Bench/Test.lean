import TegraGpu.Bench.Arguments
import TegraGpu.Toml.Decode
import TegraGpu.Machine
/-!
# Shader tests

A shader test names the files of its vertex, fragment and linker shaders, may expect a pixel
value, may be marked test-only (no dumps, no presentation), and carries up to 256 vertex and 64
fragment uniforms.  A test is described by a manifest in TOML with the keys `vs`, `fs` and
`linker` (paths, required, taken relative to the manifest's directory), `expected` (a text read
as `0x` and hexadecimal digits), `test_only`, and the tables `vs_uniforms` (names to arrays of
at least four numbers, of which the first four count) and `fs_uniforms` (names to one number),
whose uniforms are added in name order.

* `Test`, `Test.new`, `Test.addVertexUniform`, `Test.addFragmentUniform` : tests.
* `Test.ofManifest`, `Test.load` : tests from manifests.
* `Outcome`, `Test.failureMessage` : what a run found.
-/

namespace TegraGpu.Bench

open Toml Binary32

/-- A shader test. -/
structure Test where
  /-- The vertex shader's file. -/
  vsPath : String
  /-- The fragment shader's file. -/
  fsPath : String
  /-- The linker shader's file. -/
  linkerPath : String
  /-- The expected pixel at the origin, if any. -/
  expected : Option UInt32 := none
  /-- Whether to skip dumps and presentation. -/
  testOnly : Bool := false
  /-- The vertex uniforms, in order. -/
  vsUniforms : Array VertexUniform := #[]
  /-- The fragment uniforms, in order. -/
  fsUniforms : Array FragmentUniform := #[]

/-- A test of three shader files, with nothing expected. -/
def Test.new (vs fs linker : String) : Test :=
  { vsPath := vs, fsPath := fs, linkerPath := linker }

/-- Adds a vertex uniform; refused past the limit. -/
def Test.addVertexUniform (t : Test) (u : VertexUniform) : Except Error Test :=
  if maxVertexUniforms ≤ t.vsUniforms.size then .error (.argument .tooManyVertexUniforms)
  else .ok { t with vsUniforms := t.vsUniforms.push u }

/-- Adds a fragment uniform; refused past the limit. -/
def Test.addFragmentUniform (t : Test) (u : FragmentUniform) : Except Error Test :=
  if maxFragmentUniforms ≤ t.fsUniforms.size then .error (.argument .tooManyFragmentUniforms)
  else .ok { t with fsUniforms := t.fsUniforms.push u }

/-- Drops separators and `.` parts from the end of a reversed path; a `.` that starts the path
stays. -/
def dropDotTail : List Char → List Char
  | '/' :: rest => dropDotTail rest
  | '.' :: '/' :: rest => dropDotTail rest
  | cs => cs

/-- The directory part of a path: what stands before its last `/`, without trailing `.` parts,
or nothing. -/
def parentDir (path : String) : String :=
  let cs := path.toList
  let trimmed := (cs.reverse.dropWhile (· = '/')).reverse
  match (trimmed.reverse.dropWhile (· ≠ '/')) with
  | [] => ""
  | rest =>
    let dir := (dropDotTail rest).reverse
    if dir.isEmpty then "/" else String.ofList dir

/-- A path taken relative to a directory: an absolute path stays as it is. -/
def joinPath (dir path : String) : String :=
  if path.startsWith "/" || dir.isEmpty then path
  else if dir.endsWith "/" then dir ++ path
  else dir ++ "/" ++ path

/-- The keys of a manifest, in the order of its fields. -/
def manifestKeys : List String :=
  ["vs", "fs", "linker", "expected", "test_only", "vs_uniforms", "fs_uniforms"]

/-- The first four numbers of a TOML array, read in order; what follows them is not looked at,
and an array that ends before the fourth is refused with the count of numbers it had. -/
def quadOf (v : Toml.Value) (span : Span) : Except Fault (Single × Single × Single × Single) :=
  match v with
  | .array items =>
    let item (i : Nat) : Except Fault Single :=
      match items[i]? with
      | some (x, sx) => x.readSingle sx
      | none =>
        .error { message := "invalid length " ++ toString i ++ ", expected an array of length 4",
                 span }
    do pure (← item 0, ← item 1, ← item 2, ← item 3)
  | _ => .error (invalidType v span "an array of length 4")

/-- The entries of a TOML table value, each read by `read`, in the order of their names.  A date
reads as a map of one entry whose value is the date's text. -/
def mapOf {α : Type} (read : Toml.Value → Span → Except Fault α) (v : Toml.Value) (span : Span) :
    Except Fault (List (String × α)) :=
  match v with
  | .table es => (sortedEntries es).mapM fun (k, _, x, sx) => do pure (k, ← read x sx)
  | .datetime text => do pure [("$__toml_private_datetime", ← read (.string text) span)]
  | _ => .error (invalidType v span "a map")

/-- What a manifest holds, before the expected text is read and the uniforms are added. -/
structure Manifest where
  /-- The vertex shader's path. -/
  vs : Option String := none
  /-- The fragment shader's path. -/
  fs : Option String := none
  /-- The linker shader's path. -/
  linker : Option String := none
  /-- The expected text. -/
  expected : Option String := none
  /-- Whether the test is test-only. -/
  testOnly : Bool := false
  /-- The vertex uniforms by name. -/
  vsUniforms : List (String × (Single × Single × Single × Single)) := []
  /-- The fragment uniforms by name. -/
  fsUniforms : List (String × Single) := []

/-- Sets the field of an entry of a manifest table. -/
def Manifest.setEntry (m : Manifest) (e : Entry) : Except Fault Manifest :=
  let (k, ks, v, vs) := e
  match k with
  | "vs" => do pure { m with vs := some (← v.readText vs "path string") }
  | "fs" => do pure { m with fs := some (← v.readText vs "path string") }
  | "linker" => do pure { m with linker := some (← v.readText vs "path string") }
  | "expected" => do pure { m with expected := some (← v.readText vs "a string") }
  | "test_only" => do pure { m with testOnly := ← v.readBool vs }
  | "vs_uniforms" => do pure { m with vsUniforms := ← mapOf quadOf v vs }
  | "fs_uniforms" => do pure { m with fsUniforms := ← mapOf Toml.Value.readSingle v vs }
  | _ => .error (unknownField k ks manifestKeys)

/-- A manifest from a TOML table: the entries in the order of their keys, then the three
shader paths, which are required. -/
def Manifest.ofTable (t : List Entry) : Except Fault (Manifest × String × String × String) := do
  let m ← (sortedEntries t).foldlM Manifest.setEntry {}
  let required (name : String) : Option String → Except Fault String
    | some p => .ok p
    | none => .error (missingField name)
  let vs ← required "vs" m.vs
  let fs ← required "fs" m.fs
  let linker ← required "linker" m.linker
  pure (m, vs, fs, linker)

/-- A test from the text of a manifest at a path: paths are joined to the manifest's directory,
the expected text is read, and the uniforms are added in name order. -/
def Test.ofManifest (path text : String) : Except Error Test := do
  let (m, vs, fs, linker) ← match readDocument text >>= Manifest.ofTable with
    | .ok r => pure r
    | .error f => throw (.config (f.render text))
  let dir := parentDir path
  let expected ← match m.expected with
    | some e => some <$> parseExpected e
    | none => pure none
  let t : Test := { Test.new (joinPath dir vs) (joinPath dir fs) (joinPath dir linker) with
    expected, testOnly := m.testOnly }
  let t ← m.vsUniforms.foldlM (fun t (name, values) => t.addVertexUniform { name, values }) t
  m.fsUniforms.foldlM (fun t (name, value) => t.addFragmentUniform { name, value }) t

/-- A test from a manifest file of the working directory. -/
def Test.load (path : String) : Act Test := do
  let text ← match (← get).folder.read path with
    | .ok text => pure text
    | .error e => throw (.io e)
  let t ← Act.ofExcept (Test.ofManifest path text)
  Act.note .debug .bench ("Loaded test manifest " ++ path)
  pure t

/-- What a run found: the pixel at the origin, what was expected, and whether they agree. -/
structure Outcome where
  /-- The pixel at the origin. -/
  result : UInt32
  /-- The expected pixel. -/
  expected : Option UInt32
  /-- Whether nothing or the result was expected. -/
  passed : Bool

/-- The message of a failed run: the three paths, the expected and the found pixel. -/
def Test.failureMessage (t : Test) (o : Outcome) : Option String :=
  if o.passed then none
  else some ("test " ++ t.vsPath ++ "; " ++ t.fsPath ++ "; " ++ t.linkerPath ++
    "; failed: expected " ++ Text.wordHex (o.expected.getD 0) ++ ", got " ++ Text.wordHex o.result)

end TegraGpu.Bench
