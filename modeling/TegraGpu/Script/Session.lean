import TegraGpu.Script.Command
/-!
# Scripted sessions: the state

A session holds the machine, the named objects, the file registry with the log of its handlers'
opens and releases, the 3D engine and the display context.  Names are kept in sorted order, the
order in which the session gives its objects back when it ends.  A step runs in `StepM`: it
either answers or fails, and a failed step changes nothing the session names, while what it did
to the machine stays done.

* `Session`, `Fault`, `StepM` : the state, the failures and the steps.
* `Session.put`-style helpers : storing under a name gives back the object it replaces, after
  the new one is made.
* `Session.close` : gives everything back at the end, in a fixed order.
-/

namespace TegraGpu.Script

open Buffer Surface Raster Intercept

/-- A display context of the session, with the sample file handlers. -/
abbrev Context := Display.Context Behaviour Handler

/-- The state of a session. -/
structure Session where
  /-- The device, the stores, the working directory and the journal. -/
  machine : Machine := {}
  /-- Buffers by name. -/
  buffers : List (String × View) := []
  /-- Live mappings by name, each holding its own view of the buffer. -/
  mappings : List (String × View) := []
  /-- Surfaces by name. -/
  surfaces : List (String × Surface) := []
  /-- Framebuffers by name. -/
  framebuffers : List (String × Framebuffer) := []
  /-- Programs by name. -/
  programs : List (String × Shader.Program) := []
  /-- The file registry. -/
  files : Registry Behaviour Handler := {}
  /-- The opens, refusals and releases of file handlers, in order. -/
  events : Array String := #[]
  /-- The 3D engine. -/
  engine : Engine := {}
  /-- The display context, once started. -/
  display : Option Context := none

/-- Why a step failed. -/
inductive Fault where
  /-- An operation of the stack failed. -/
  | failed (e : Error)
  /-- No object of the kind has the name. -/
  | unknownName (kind name : String)
  /-- A write does not fit in the mapping. -/
  | outsideMapping
  /-- No display context was started. -/
  | noDisplay

/-- The wording of a step failure that is not an error of the stack. -/
def Fault.message : Fault → String
  | .failed e => e.message
  | .unknownName kind name => "unknown " ++ kind ++ " " ++ name
  | .outsideMapping => "write outside the mapping"
  | .noDisplay => "no display context"

/-- A step of a session. -/
abbrev StepM := ExceptT Fault (StateM Session)

namespace Session

/-- Runs an operation of the stack on the session's machine. -/
def lift {α : Type} (a : Act α) : StepM α := do
  let s ← get
  let (r, m) := Act.run' a s.machine
  set { s with machine := m }
  match r with
  | .ok x => pure x
  | .error e => throw (.failed e)

/-- The object of a name. -/
def named {α : Type} (xs : List (String × α)) (kind name : String) : StepM α :=
  match xs.find? (·.1 == name) with
  | some (_, a) => pure a
  | none => throw (.unknownName kind name)

/-- Stores an object under a name in sorted order, and gives the one it replaces. -/
def insertNamed {α : Type} (xs : List (String × α)) (name : String) (a : α) :
    List (String × α) × Option α :=
  let old := (xs.find? (·.1 == name)).map Prod.snd
  let (lo, hi) := (xs.filter (·.1 != name)).partition (fun (k, _) => k < name)
  (lo ++ [(name, a)] ++ hi, old)

/-- Removes a name. -/
def eraseNamed {α : Type} (xs : List (String × α)) (name : String) : List (String × α) :=
  xs.filter (·.1 != name)

/-- Ends a mapping and gives back its view. -/
def unmapRelease (v : View) : Act Unit := do
  v.unmap
  v.release

/-- Stores a buffer, giving back the one it replaces. -/
def putBuffer (name : String) (v : View) : StepM Unit := do
  let (xs, old) := insertNamed (← get).buffers name v
  modify fun s => { s with buffers := xs }
  if let some o := old then lift o.release

/-- Stores a mapping, ending the one it replaces. -/
def putMapping (name : String) (v : View) : StepM Unit := do
  let (xs, old) := insertNamed (← get).mappings name v
  modify fun s => { s with mappings := xs }
  if let some o := old then lift (unmapRelease o)

/-- Stores a surface, giving back the one it replaces. -/
def putSurface (name : String) (p : Surface) : StepM Unit := do
  let (xs, old) := insertNamed (← get).surfaces name p
  modify fun s => { s with surfaces := xs }
  if let some o := old then lift o.view.release

/-- Stores a framebuffer, giving back the one it replaces. -/
def putFramebuffer (name : String) (fb : Framebuffer) : StepM Unit := do
  let (xs, old) := insertNamed (← get).framebuffers name fb
  modify fun s => { s with framebuffers := xs }
  if let some o := old then lift o.release

/-- The buffer of a name. -/
def buffer (name : String) : StepM View := do named (← get).buffers "bo" name

/-- The mapping of a name. -/
def mapping (name : String) : StepM View := do named (← get).mappings "map" name

/-- The surface of a name. -/
def surface (name : String) : StepM Surface := do named (← get).surfaces "pb" name

/-- The framebuffer of a name. -/
def framebuffer (name : String) : StepM Framebuffer := do named (← get).framebuffers "fb" name

/-- The display context. -/
def context : StepM Context := do
  match (← get).display with
  | some c => pure c
  | none => throw .noDisplay

/-- Replaces the display context. -/
def setContext (c : Context) : StepM Unit :=
  modify fun s => { s with display := some c }

/-- What the session reports about a buffer. -/
def bufferInfo (v : View) : StepM BufferInfo := do
  let m := (← get).machine
  let backing := match storeOf? m v.store with
    | some st => st.size
    | none => 0
  pure { view := v, backing, mapped := View.isMapped m v }

/-- Records an event of the file handlers. -/
def event (e : String) : StepM Unit :=
  modify fun s => { s with events := s.events.push e }

/-- Records what opening a path did. -/
def openedEvent (path : String) (fd : Int) : Registry.Opened Behaviour → StepM Unit
  | .unmatched => pure ()
  | .refused _ _ => event ("refuse " ++ path ++ " " ++ toString fd)
  | .wrapped _ => event ("open " ++ path ++ " " ++ toString fd)

/-- Releases the handler of a closed file. -/
def releaseHandler : Option (WrappedFile Handler) → StepM Unit
  | some f => event ("release " ++ f.path ++ " " ++ toString f.handler.fd)
  | none => pure ()

/-- Gives back everything the session holds: mappings, buffers, surfaces and framebuffers by
name, then the engine's buffers, then the display context's framebuffer.  Open files are not
released. -/
def close (s : Session) : Act Unit := do
  for (_, v) in s.mappings do unmapRelease v
  for (_, v) in s.buffers do v.release
  for (_, p) in s.surfaces do p.view.release
  for (_, fb) in s.framebuffers do fb.release
  s.engine.release
  if let some c := s.display then
    if let some fb := c.framebuffer then fb.release

end Session

end TegraGpu.Script
