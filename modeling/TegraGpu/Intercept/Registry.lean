import TegraGpu.Machine
import TegraGpu.Text.Hexdump
import TegraGpu.Text.Quoted
/-!
# Intercepted files

The registry decides which opened files are wrapped.  Its table maps paths to openers; opening a
path runs the opener of the first entry with exactly that path, and a successful opener gives
the file's handler, kept with the file's path, its descriptor and eight slots for duplicated
descriptors.  A file matches a descriptor when its own or one of its duplicates is that
descriptor, and lookups give the first matching file.  Closing a descriptor clears it; a file
with no descriptor left is removed and its handler released.

The registry is generic in the openers `β` and the handlers `α`: what a handler does on reads,
writes and controls is its own business, and the registry only routes the calls.

* `Registry.register`, `Registry.registerTable`, `Registry.openPath` : the table and opening.
* `Registry.lookup`, `Registry.find`, `Registry.dup`, `Registry.close` : descriptors.
* `WrappedFile.clear`, `WrappedFile.isUnreferenced` : a descriptor closed, a file left without one.
* `Registry.call` : routing a read, a write or a control to a file's handler.
* `WrappedFile.debugText` : the printed form of a file.
-/

namespace TegraGpu.Intercept

open Act

/-- A wrapped file. -/
structure WrappedFile (α : Type) where
  /-- The path it was opened at. -/
  path : String
  /-- The descriptor it was opened with, until that is closed. -/
  fd : Option Int
  /-- The slots of duplicated descriptors. -/
  dups : Array (Option Int) := Array.replicate dupCapacity none
  /-- The handler of its calls. -/
  handler : α

/-- Whether a file answers to a descriptor. -/
def WrappedFile.matches {α : Type} (f : WrappedFile α) (fd : Int) : Bool :=
  f.fd == some fd || f.dups.contains (some fd)

/-- Clears a descriptor of a file: its own when it is that one, else the first slot holding it. -/
def WrappedFile.clear {α : Type} (f : WrappedFile α) (fd : Int) : WrappedFile α :=
  if f.fd == some fd then { f with fd := none }
  else match f.dups.findIdx? (· == some fd) with
    | some slot => { f with dups := f.dups.set! slot none }
    | none => f

/-- Whether no descriptor refers to a file any more. -/
def WrappedFile.isUnreferenced {α : Type} (f : WrappedFile α) : Bool :=
  f.fd.isNone && f.dups.all (·.isNone)

/-- The duplicated descriptors in slot order. -/
def WrappedFile.dupList {α : Type} (f : WrappedFile α) : List Int :=
  f.dups.toList.filterMap id

/-- The printed form of an optional descriptor. -/
def optFd (fd : Option Int) : String :=
  match fd with
  | some n => "Some(" ++ toString n ++ ")"
  | none => "None"

/-- The printed form of a file: path, descriptor and duplicate slots. -/
def WrappedFile.debugText {α : Type} (f : WrappedFile α) : String :=
  "File \x7b path: " ++ Text.quoted f.path ++ ", fd: " ++ optFd f.fd ++ ", dup_fds: [" ++
    ", ".intercalate (f.dups.toList.map optFd) ++ "] \x7d"

/-- The registry of wrapped files. -/
structure Registry (β α : Type) where
  /-- The table of paths and openers, in registration order. -/
  table : Array (String × β) := #[]
  /-- The open files, oldest first. -/
  files : Array (WrappedFile α) := #[]
  /-- Whether calls are logged in detail. -/
  verbose : Bool := false

namespace Registry

variable {β α : Type}

/-- Adds a path and its opener to the table. -/
def register (r : Registry β α) (path : String) (opener : β) : Registry β α :=
  { r with table := r.table.push (path, opener) }

/-- The number of table entries. -/
def patterns (r : Registry β α) : Nat := r.table.size

/-- The number of open files. -/
def openFiles (r : Registry β α) : Nat := r.files.size

/-- The position of the first file matching a descriptor. -/
def lookup (r : Registry β α) (fd : Int) : Option Nat :=
  r.files.findIdx? (·.matches fd)

/-- The position of the first file opened at a path. -/
def find (r : Registry β α) (path : String) : Option Nat :=
  r.files.findIdx? (·.path == path)

/-- The file at a position. -/
def fileAt? (r : Registry β α) (i : Nat) : Option (WrappedFile α) :=
  r.files[i]?

/-- What opening a path did. -/
inductive Opened (β : Type) where
  /-- No entry has the path. -/
  | unmatched
  /-- The entry's opener failed with the given reason. -/
  | refused (opener : β) (reason : String)
  /-- The entry's opener succeeded; the file is the last one. -/
  | wrapped (opener : β)

/-- Opens a path as a descriptor: the first entry with the path runs its opener `run`. -/
def openPath (r : Registry β α) (path : String) (fd : Int)
    (run : β → String → Int → Except String α) : Act (Registry β α × Opened β) := do
  match r.table.find? (·.1 == path) with
  | none =>
    if r.verbose then note .debug .intercept ("no wrapper for file `" ++ path ++ "'")
    pure (r, .unmatched)
  | some (_, opener) =>
    match run opener path fd with
    | .error reason =>
      note .warn .intercept ("failed to wrap `" ++ path ++ "': " ++ reason)
      pure (r, .refused opener reason)
    | .ok handler =>
      note .debug .intercept ("wrapping `" ++ path ++ "' as fd " ++ toString fd)
      pure ({ r with files := r.files.push { path, fd := some fd, handler } }, .wrapped opener)

/-- Puts a descriptor into the first free duplicate slot of the file at a position. -/
def duplicate (r : Registry β α) (i : Nat) (newFd : Int) : Act (Registry β α) := do
  match r.files[i]? with
  | none => pure r
  | some f =>
    match f.dups.findIdx? (·.isNone) with
    | some slot =>
      note .debug .intercept ("duplicating " ++ f.path)
      pure { r with files := r.files.set! i { f with dups := f.dups.set! slot (some newFd) } }
    | none =>
      note .warn .intercept "out of FD slots"
      throw (.slotExhaustion f.path)

/-- Duplicates a descriptor of a wrapped file. -/
def dup (r : Registry β α) (fd newFd : Int) : Act (Registry β α) := do
  match r.lookup fd with
  | some i => r.duplicate i newFd
  | none => throw (.unknownFd fd)

/-- Closes a descriptor; gives whether a file matched and the file removed, if any, whose
handler the caller releases. -/
def close (r : Registry β α) (fd : Int) :
    Act (Registry β α × Bool × Option (WrappedFile α)) := do
  match r.lookup fd with
  | none => pure (r, false, none)
  | some i =>
    match r.files[i]? with
    | none => pure (r, false, none)
    | some f =>
      let f := f.clear fd
      if f.isUnreferenced then
        note .debug .intercept ("closing " ++ f.path)
        pure ({ r with files := r.files.eraseIdx! i }, true, some f)
      else pure ({ r with files := r.files.set! i f }, true, none)

/-- Records a write to a descriptor in detail when verbose; gives the file's position. -/
def noteWrite (r : Registry β α) (fd : Int) (data : ByteArray) : Act (Option Nat) := do
  match r.lookup fd with
  | none => pure none
  | some i =>
    if r.verbose then
      match r.files[i]? with
      | some f => note .debug .intercept ("write(" ++ f.path ++ "):\n" ++
          Text.hexdump .offset "  " data 16 true)
      | none => pure ()
    pure (some i)

/-- Replaces the handler of the file at a position. -/
def setHandler (r : Registry β α) (i : Nat) (h : α) : Registry β α :=
  match r.files[i]? with
  | some f => { r with files := r.files.set! i { f with handler := h } }
  | none => r

/-- Routes a call (a read, a write or a control) to the handler of the file that answers to a
descriptor: `none` when no file does, else the handler's answer, the handler staying as the call
leaves it. -/
def call {γ : Type} (r : Registry β α) (fd : Int) (f : α → α × γ) : Registry β α × Option γ :=
  match r.lookup fd with
  | none => (r, none)
  | some i =>
    match r.fileAt? i with
    | none => (r, none)
    | some file =>
      let (h, b) := f file.handler
      (r.setHandler i h, some b)

/-- Adds table entries in order. -/
def registerTable (r : Registry β α) (entries : List (String × β)) : Registry β α :=
  entries.foldl (fun r (p, b) => r.register p b) r

end Registry

end TegraGpu.Intercept
