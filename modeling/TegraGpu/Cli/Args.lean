import TegraGpu.Text.Radix
/-!
# Command-line arguments of the test runner

The runner takes long options, each at most once: `--vs`, `--fs`, `--lnk`, `--manifest`,
`--report` and `--config` with a path, `--expected` with a text, `--width` and `--height` with a
32-bit number (a signed number in range, so `-0` is zero), the switches `--testonly`,
`--fullscreen`, `--vsync` and `--verbose` (also `-v`), and the repeatable `--vs-uniform` and
`--fs-uniform`. A value follows its option as the next argument, which may not start with `-`
unless it is `-` alone, or after `=`. A manifest excludes the three shader paths; without one
all three are required. `-h` and `--help` ask for the usage text.

* `Args`, `Args.parse` : the arguments, and reading them.
* `helpText` : the usage text.
-/

namespace TegraGpu.Cli

/-- The arguments of a run. -/
structure Args where
  /-- The vertex shader's path. -/
  vs : Option String := none
  /-- The fragment shader's path. -/
  fs : Option String := none
  /-- The linker shader's path. -/
  lnk : Option String := none
  /-- The expected pixel, as given. -/
  expected : Option String := none
  /-- Skip dumps and presentation. -/
  testonly : Bool := false
  /-- Vertex uniforms, as given. -/
  vsUniforms : Array String := #[]
  /-- Fragment uniforms, as given. -/
  fsUniforms : Array String := #[]
  /-- The manifest's path. -/
  manifest : Option String := none
  /-- Where to write the report. -/
  report : Option String := none
  /-- The options file. -/
  config : Option String := none
  /-- Present on the whole display. -/
  fullscreen : Bool := false
  /-- Synchronise to vertical blanking. -/
  vsync : Bool := false
  /-- The output width. -/
  width : Option Nat := none
  /-- The output height. -/
  height : Option Nat := none
  /-- Log in detail. -/
  verbose : Bool := false

/-- Where a run's shaders come from. -/
inductive Shaders where
  /-- A test manifest. -/
  | manifest (path : String)
  /-- Three shader files. -/
  | files (vs fs lnk : String)

/-- What the arguments ask for. -/
inductive Request where
  /-- A run of the shaders given. -/
  | run (args : Args) (shaders : Shaders)
  /-- The usage text. -/
  | help
  /-- Nothing: the arguments are wrong, for the reason given. -/
  | usage (why : String)

/-- The options that take a value. -/
def valued : List String :=
  ["vs", "fs", "lnk", "expected", "vs-uniform", "fs-uniform", "manifest", "report", "config",
    "width", "height"]

/-- The switches. -/
def switches : List String := ["testonly", "fullscreen", "vsync", "verbose"]

/-- Reads a 32-bit number as the runner's size options take it: a signed whole number that
lies between zero and `2^32 - 1`, so that a `-` before digits that are all zero gives zero. -/
def readSize? (s : String) : Option Nat :=
  match s.toList with
  | '-' :: ds => if Text.readDigits 10 ds = some 0 then some 0 else none
  | cs => (Text.readWord? 10 cs).map UInt32.toNat

/-- Sets an option that may be given once. -/
def setOnce (name : String) (cur : Option String) (v : String) : Except String (Option String) :=
  if cur.isSome then .error ("the argument '--" ++ name ++ "' cannot be used multiple times")
  else .ok (some v)

/-- Stores the value of an option. -/
def Args.setValue (a : Args) (name v : String) : Except String Args := do
  let path (cur : Option String) : Except String (Option String) :=
    if v.isEmpty then .error ("a value is required for '--" ++ name ++ "'") else setOnce name cur v
  match name with
  | "vs" => pure { a with vs := ← path a.vs }
  | "fs" => pure { a with fs := ← path a.fs }
  | "lnk" => pure { a with lnk := ← path a.lnk }
  | "manifest" => pure { a with manifest := ← path a.manifest }
  | "report" => pure { a with report := ← path a.report }
  | "config" => pure { a with config := ← path a.config }
  | "expected" => pure { a with expected := ← setOnce name a.expected v }
  | "vs-uniform" => pure { a with vsUniforms := a.vsUniforms.push v }
  | "fs-uniform" => pure { a with fsUniforms := a.fsUniforms.push v }
  | "width" | "height" =>
    match readSize? v with
    | none => .error ("invalid value '" ++ v ++ "' for '--" ++ name ++ "'")
    | some n =>
      if name = "width" then
        if a.width.isSome then .error "the argument '--width' cannot be used multiple times"
        else pure { a with width := some n }
      else if a.height.isSome then .error "the argument '--height' cannot be used multiple times"
      else pure { a with height := some n }
  | _ => .error ("unexpected argument '--" ++ name ++ "' found")

/-- Turns on a switch, which may be given once. -/
def Args.setSwitch (a : Args) (name : String) : Except String Args :=
  let twice : Except String Args :=
    .error ("the argument '--" ++ name ++ "' cannot be used multiple times")
  match name with
  | "testonly" => if a.testonly then twice else .ok { a with testonly := true }
  | "fullscreen" => if a.fullscreen then twice else .ok { a with fullscreen := true }
  | "vsync" => if a.vsync then twice else .ok { a with vsync := true }
  | "verbose" => if a.verbose then twice else .ok { a with verbose := true }
  | _ => .error ("unexpected argument '--" ++ name ++ "' found")

/-- Whether an argument can be an option's value. -/
def isValue (s : String) : Bool := s == "-" || !s.startsWith "-"

/-- Reads a cluster of short switches: `-v` sets verbose, `-h` asks for the usage text. -/
def shortSwitches (a : Args) : List Char → Except String (Option Args)
  | [] => .ok (some a)
  | 'h' :: _ => .ok none
  | 'v' :: rest => do shortSwitches (← a.setSwitch "verbose") rest
  | c :: _ => .error ("unexpected argument '-" ++ c.toString ++ "' found")

/-- Reads the arguments after the program's name, one option at a time. -/
def readArgs (a : Args) : List String → Except String (Option Args)
  | [] => .ok (some a)
  | arg :: rest =>
    if arg == "--help" then .ok none
    else if arg == "--" then
      match rest with
      | [] => .ok (some a)
      | r :: _ => .error ("unexpected argument '" ++ r ++ "' found")
    else if arg.startsWith "-" && !arg.startsWith "--" && arg != "-" then
      match shortSwitches a (arg.drop 1).toString.toList with
      | .ok (some a) => readArgs a rest
      | r => r
    else if arg.startsWith "--" then
      let body := (arg.drop 2).toString
      match body.splitOn "=" with
      | [name] =>
        if valued.contains name then
          match rest with
          | v :: rest' =>
            if isValue v then do readArgs (← a.setValue name v) rest'
            else .error ("a value is required for '--" ++ name ++ "'")
          | [] => .error ("a value is required for '--" ++ name ++ "'")
        else do readArgs (← a.setSwitch name) rest
      | name :: _ =>
        let v := (body.drop (name.length + 1)).toString
        if valued.contains name then do readArgs (← a.setValue name v) rest
        else if switches.contains name then
          .error ("unexpected value '" ++ v ++ "' for '--" ++ name ++ "' found")
        else .error ("unexpected argument '--" ++ name ++ "' found")
      | [] => .error "unexpected argument"
    else .error ("unexpected argument '" ++ arg ++ "' found")

/-- Reads the arguments after the program's name and checks the required ones. -/
def Args.parse (argv : List String) : Request :=
  match readArgs {} argv with
  | .error why => .usage why
  | .ok none => .help
  | .ok (some a) =>
    match a.manifest, a.vs, a.fs, a.lnk with
    | some m, none, none, none => .run a (.manifest m)
    | some _, _, _, _ => .usage "the argument '--manifest' cannot be used with the shader paths"
    | none, some vs, some fs, some lnk => .run a (.files vs fs lnk)
    | none, _, _, _ => .usage "the shader paths are required without '--manifest'"

/-- The usage text: what the runner does, how it is called, and each option with its meaning,
the meanings aligned in one column. -/
def helpText : String :=
  "Run a shader assembly test on the Tegra 3D pipeline\n\n" ++
  "Usage: vs-asm-test [OPTIONS]\n\n" ++
  "Options:\n" ++
  "      --vs <VS>               Vertex shader assembly file\n" ++
  "      --fs <FS>               Fragment shader assembly file\n" ++
  "      --lnk <LNK>             Linker assembly file\n" ++
  "      --expected <EXPECTED>   Expected first pixel, e.g. 0xFF0000FE\n" ++
  "      --testonly              Skip dumps and presentation\n" ++
  "      --vs-uniform <UNIFORM>  Vertex uniform, e.g. [\"offset\"]=(0,0,0,0)\n" ++
  "      --fs-uniform <UNIFORM>  Fragment uniform, e.g. [\"alpha\"]=1.0\n" ++
  "      --manifest <MANIFEST>   TOML test manifest; replaces the shader and expectation arguments\n" ++
  "      --report <REPORT>       Write a JSON report of the run to this file\n" ++
  "      --config <CONFIG>       TOML options file; command line flags take precedence\n" ++
  "      --fullscreen            Present on the whole display\n" ++
  "      --vsync                 Synchronize presentation to vertical blanking\n" ++
  "      --width <WIDTH>         Output width\n" ++
  "      --height <HEIGHT>       Output height\n" ++
  "  -v, --verbose               Enable debug output\n" ++
  "  -h, --help                  Print help\n"

end TegraGpu.Cli
