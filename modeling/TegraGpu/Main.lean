import TegraGpu.Cli.Run
import TegraGpu.Cli.Clock
import Std.Time
/-!
# The test runner's command line

The program reads the files that a run may need from the working directory (the environment
file, the files named by the arguments, and the shaders that a manifest names), runs the test
runner on them, writes back the files the run created or changed, prints what it printed, and
exits with its code.  Log records go to the standard error as `[time LEVEL target] message`,
each further line of the message indented by four spaces.
-/

namespace TegraGpu.Cli

/-- The text of a file, if it can be read. -/
def readIfFile (path : String) : IO (Option String) := do
  try
    pure (some (← IO.FS.readFile path))
  catch _ =>
    pure none

/-- The paths that the arguments may name: each argument, and what follows `=` in one. -/
def candidatePaths (argv : List String) : List String :=
  ".env" :: argv.flatMap fun a =>
    match a.splitOn "=" with
    | _ :: rest@(_ :: _) => [a, "=".intercalate rest]
    | _ => [a]

/-- Adds the files at the paths that exist to a working directory. -/
def gather (folder : Folder) (paths : List String) : IO Folder :=
  paths.foldlM (fun d p => do
    match ← readIfFile p with
    | some text => pure (d.put p text)
    | none => pure d) folder

/-- The shader paths that the manifests among the files name. -/
def manifestShaders (folder : Folder) (paths : List String) : List String :=
  paths.flatMap fun p =>
    match folder.read p with
    | .ok text =>
      match Bench.Test.ofManifest p text with
      | .ok t => [t.vsPath, t.fsPath, t.linkerPath]
      | .error _ => []
    | .error _ => []

/-- A log record as the standard error shows it. -/
def recordLine (time : String) (r : Record) : String :=
  let label := r.level.label
  let label := label ++ String.ofList (List.replicate (5 - label.length) ' ')
  "[" ++ time ++ " " ++ label ++ " " ++ r.origin.target ++ "] " ++
    "\n    ".intercalate (r.text.splitOn "\n")

/-- Writes the files that a run created or changed. -/
def writeBack (before after : Folder) : IO Unit := do
  for (p, text) in after.files do
    if p.root != .above && before.fileAt p != some text then
      match p.path.dropLast with
      | [] => pure ()
      | dir => IO.FS.createDirAll { p with path := dir }.text
      IO.FS.writeFile p.text text

end TegraGpu.Cli

open TegraGpu Cli in
/-- Runs the test runner on the working directory. -/
def main (argv : List String) : IO UInt32 := do
  let now ← Std.Time.Timestamp.now
  let nanos := now.toNanosecondsSinceUnixEpoch.val
  let paths := candidatePaths argv
  let folder ← gather {} paths
  let folder ← gather folder (manifestShaders folder paths)
  let environment := match ← IO.getEnv "RUST_LOG" with
    | some v => [("RUST_LOG", v)]
    | none => []
  let c := invoke argv environment folder (rfc3339 nanos true)
  let err ← IO.getStderr
  for w in c.warnings do err.putStrLn w
  let time := rfc3339 nanos false
  for r in c.records do err.putStrLn (recordLine time r)
  IO.print c.stdout
  writeBack folder c.folder
  pure c.code.toUInt32
