import TegraGpu.Cli.Args
import TegraGpu.Cli.Environment
import TegraGpu.Text.Terminal
import TegraGpu.Bench.Run
import TegraGpu.Bench.Report
import TegraGpu.Options.Read
/-!
# The test runner

The runner reads the environment file `.env` of the working directory (a missing one is
ignored, a faulty one warned about), then its arguments.  It merges the options: those of the
`--config` file, if given, with the switches ORed in and the sizes replaced.  The log filter is
`RUST_LOG` from the environment or else the environment file, or `debug` when the merged options
are verbose and `info` otherwise; what the options file logs is dropped, since logging starts after it.  After the
banner it builds the test (from the manifest or the three paths, with the expected pixel, the
test-only switch and the uniforms of the command line), runs it on a headless context, logs the
result, and writes the report if asked for.  The framebuffer is given back when the run ends,
and any error is logged last.

The exit code is 0 when the run passed or expected nothing, 1 on a mismatch or an error, and 2
when the arguments are wrong.

* `Completion` : what a run leaves behind.
* `invoke` : a run of the command line.
-/

namespace TegraGpu.Cli

/-- The runner's name and version, logged first. -/
def banner : String := "vs-asm-test v0.1.0"

/-- What a run of the command line leaves behind. -/
structure Completion where
  /-- The exit code. -/
  code : Nat
  /-- Whether the arguments were wrong. -/
  usage : Bool := false
  /-- What was printed on the standard output. -/
  stdout : String := ""
  /-- The log records that passed the filter, in order. -/
  records : Array Record := #[]
  /-- The other lines written to the standard error, in order, each without its line feed and a
  carriage return just before it. -/
  warnings : List String := []
  /-- The working directory afterwards. -/
  folder : Folder

/-- The options of the command line laid over those of the options file. -/
def mergeOptions (a : Args) (o : Options) : Options :=
  { o with
    fullscreen := o.fullscreen || a.fullscreen
    vsync := o.vsync || a.vsync
    verbose := o.verbose || a.verbose
    width := a.width.getD o.width
    height := a.height.getD o.height }

/-- The merged options, or why the options file could not be read; the file's log records are
dropped. -/
def loadOptions (a : Args) : Act (Except Error Options) := do
  let saved := (← get).journal
  let base : Act Options := match a.config with
    | some path => Options.load path
    | none => pure {}
  let r ← tryCatch (Except.ok <$> base) (fun e => pure (.error e))
  modify fun m => { m with journal := saved }
  pure (r.map (mergeOptions a))

/-- The test that the arguments describe: each uniform is read and then added, in order. -/
def buildTest (a : Args) (shaders : Shaders) : Act Bench.Test := do
  let t ← match shaders with
    | .manifest path => Bench.Test.load path
    | .files vs fs lnk => pure (Bench.Test.new vs fs lnk)
  let t ← match a.expected with
    | some e => do
      let x ← Act.ofExcept (Bench.parseExpected e)
      pure { t with expected := some x }
    | none => pure t
  let t := { t with testOnly := t.testOnly || a.testonly }
  let t ← a.vsUniforms.foldlM (fun t s => do
    Act.ofExcept (t.addVertexUniform (← Act.ofExcept (Bench.parseVertexUniform s)))) t
  a.fsUniforms.foldlM (fun t s => do
    Act.ofExcept (t.addFragmentUniform (← Act.ofExcept (Bench.parseFragmentUniform s)))) t

/-- Gives back the framebuffer of a context. -/
def releaseContext {β α : Type} (c : Display.Context β α) : Act Unit :=
  match c.framebuffer with
  | some fb => fb.release
  | none => pure ()

/-- Builds and runs the test, logs its result and writes the report; says whether it passed.
The context's framebuffer is given back at the end, also on an error. -/
def runTest (a : Args) (shaders : Shaders) (options : Options) (timestamp : String) :
    Act Bool := do
  let t ← buildTest a shaders
  let c ← (Display.Context.init options { paths := systemChipPaths } :
    Act (Display.Context Unit Unit))
  let (r, c) ← t.run c
  match r with
  | .error e =>
    releaseContext c
    throw e
  | .ok o =>
    match o.expected with
    | some _ => if o.passed then Act.note .info .tool ("Test passed: " ++ Text.wordHex o.result)
    | none => Act.note .info .tool ("Result: " ++ Text.wordHex o.result)
    let c ← match a.report with
      | some path => do
        let (chip, c) ← c.chipId
        tryCatch ((Bench.Report.ofOutcome timestamp t o chip).write path)
          (fun e => do releaseContext c; throw e)
        pure c
      | none => pure c
    releaseContext c
    pure o.passed

/-- Everything after the arguments: whether the merged options are verbose, and the exit code. -/
def session (a : Args) (shaders : Shaders) (timestamp : String) : Act (Bool × Nat) := do
  let options ← loadOptions a
  let verbose := match options with
    | .ok o => o.verbose
    | .error _ => a.verbose
  Act.note .info .tool banner
  let code ← match options with
    | .error e => do
      Act.note .error .tool e.message
      pure 1
    | .ok o =>
      tryCatch (do
          let passed ← runTest a shaders o timestamp
          pure (if passed then 0 else 1))
        (fun e => do
          Act.note .error .tool e.message
          pure 1)
  pure (verbose, code)

/-- What the standard error shows for wrong arguments. -/
def usageMessage (why : String) : String :=
  "error: " ++ why ++ "\n\nUsage: vs-asm-test [OPTIONS]\n\nFor more information, try '--help'."

/-- A run of the command line with the arguments after the program's name, the variables
already set in the environment (which the environment file does not override), in a working
directory, at a time given as text.  A fault in the environment file is reported as a warning,
unless its wording says that something was not found, which is how a missing file reads.  The
records that pass the filter are kept as a terminal without styles prints them, with their
control characters and escape sequences dropped. -/
def invoke (argv : List String) (environment : List (String × String)) (folder : Folder)
    (timestamp : String) : Completion :=
  let (vars, fault) := match folder.read ".env" with
    | .ok text => readEnvironment environment text
    | .error _ => ([], none)
  let envWarnings := match fault with
    | some f =>
      if (f.message.splitOn "not found").length > 1 then []
      else Text.lines ("Warning: Failed to load .env file: " ++ f.message)
    | none => []
  match Args.parse argv with
  | .usage why =>
    { code := 2, usage := true, warnings := envWarnings ++ Text.lines (usageMessage why), folder }
  | .help => { code := 0, stdout := helpText, warnings := envWarnings, folder }
  | .run a shaders =>
    let (r, m) := Act.run' (session a shaders timestamp) { folder }
    let (verbose, code) := match r with
      | .ok v => v
      | .error _ => (a.verbose, 1)
    let spec := match (environment ++ vars).find? (·.1 == "RUST_LOG") with
      | some (_, v) => v
      | none => if verbose then "debug" else "info"
    let (filter, filterWarnings) := LogFilter.parse spec
    { code, records := (m.journal.filter filter.allows).map fun r => { r with text := Text.printable r.text },
      warnings := envWarnings ++ filterWarnings, folder := m.folder }

end TegraGpu.Cli
