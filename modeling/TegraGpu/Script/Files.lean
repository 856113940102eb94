import TegraGpu.Script.Session
/-!
# Scripted sessions: wrapped files

Steps on the session's file registry, whose files are opened with the sample handlers.  A call
on a descriptor that no file answers to reports nothing; a call that the handler refuses
reports the kind of failure.

* `filesOpen`, `filesClose`, `filesCall` : opening, closing and routing calls.
-/

namespace TegraGpu.Script

open Intercept Session

/-- Replaces the session's registry. -/
def setFiles (r : Registry Behaviour Handler) : StepM Unit :=
  modify fun s => { s with files := r }

/-- The file at a position of a registry. -/
def fileAt (r : Registry Behaviour Handler) (i : Option Nat) : Option (WrappedFile Handler) :=
  i.bind r.fileAt?

/-- Adds entries to the table. -/
def filesRegister (entries : List (String × Behaviour)) : StepM Reply := do
  let r := (← get).files.registerTable entries
  setFiles r
  pure (.patterns r.patterns)

/-- Opens a path as a descriptor. -/
def filesOpen (path : String) (fd : Int) : StepM Reply := do
  let (r, o) ← lift ((← get).files.openPath path fd Behaviour.start)
  openedEvent path fd o
  setFiles r
  match o with
  | .wrapped _ => pure (.file (fileAt r (some (r.files.size - 1))))
  | _ => pure (.file none)

/-- Duplicates a descriptor, reporting the file it belongs to. -/
def filesDup (fd newFd : Int) : StepM Reply := do
  let r ← lift ((← get).files.dup fd newFd)
  setFiles r
  pure (.file (fileAt r (r.lookup fd)))

/-- Puts a descriptor into a free slot of the file that answers to `fd`. -/
def fileDuplicate (fd newFd : Int) : StepM Reply := do
  let r := (← get).files
  match r.lookup fd with
  | some i =>
    let r ← lift (r.duplicate i newFd)
    setFiles r
    pure (.file (fileAt r (some i)))
  | none => pure (.file none)

/-- Closes a descriptor, releasing the handler of a file left without one. -/
def filesClose (fd : Int) : StepM Reply := do
  let (r, found, released) ← lift ((← get).files.close fd)
  setFiles r
  releaseHandler released
  pure (.flag found)

/-- Routes a call to the handler of the file that answers to `fd`. -/
def filesCall {β : Type} (fd : Int) (call : Handler → Handler × β) : StepM (Option β) := do
  let (r, b) := (← get).files.call fd call
  setFiles r
  pure b

/-- Writes to a descriptor, logging the bytes first when the registry is verbose. -/
def filesWrite (fd : Int) (data : ByteArray) : StepM Reply := do
  let _ ← lift ((← get).files.noteWrite fd data)
  pure (.wrote (← filesCall fd (·.write data)))

/-- The registry's counts, the files that the probed descriptors find, and the events. -/
def filesState (probe : List Int) : StepM Reply := do
  let s ← get
  pure (.filesState s.files.patterns s.files.openFiles
    (probe.map fun fd => (fd, fileAt s.files (s.files.lookup fd))) s.events)

end TegraGpu.Script
