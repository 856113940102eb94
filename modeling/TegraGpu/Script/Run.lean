import TegraGpu.Script.Memory
import TegraGpu.Script.Files
import TegraGpu.Script.Drawing
import TegraGpu.Script.Displays
/-!
# Scripted sessions: running commands

`perform` runs one command.  `Session.step` runs it on a session and keeps the session's named
objects as they were when the command fails, while the machine and the file events keep what
happened.  `Session.finish` ends a session and gives the journal with the releases of the end.

* `perform`, `Session.step`, `Session.finish` : running a script.
-/

namespace TegraGpu.Script

open Buffer Surface Raster Intercept Session

/-- Runs one command. -/
def perform : Command → StepM Reply
  | .setMemoryLimit limit => setMemoryLimit limit
  | .setMapFailure fail => setMapFailure fail
  | .hostStats => hostStats
  | .hostCreate size align => do pure (.number (← lift (Host.create size align)).id.toNat)
  | .hostInvalidate h offset size => do
    lift (Host.invalidate (handleOf h) offset size)
    pure .nothing
  | .hostMap h => do
    lift (Host.mmap (handleOf h))
    pure .nothing
  | .hostFree h => do
    lift (Host.free (handleOf h))
    pure .nothing
  | .bufferCreate name size flags => bufferCreate name size flags
  | .bufferFromData name data flags => bufferFromData name data flags
  | .bufferWrap buffer offset name => bufferWrap buffer offset name
  | .bufferClone buffer name => bufferClone buffer name
  | .bufferInfo buffer => do pure (.buffer (← bufferInfo (← Session.buffer buffer)))
  | .bufferShares a b => do
    pure (.flag ((← Session.buffer a).store == (← Session.buffer b).store))
  | .bufferDebug buffer => do pure (.text (← Session.buffer buffer).debugText)
  | .bufferFree buffer => bufferFree buffer
  | .bufferInvalidate buffer size => do
    lift ((← Session.buffer buffer).invalidate size)
    pure .nothing
  | .bufferRead buffer => bufferRead buffer
  | .bufferWrite buffer offset data => bufferWrite buffer offset data
  | .bufferMap buffer name => bufferMap buffer name
  | .bufferUnmap mapping => bufferUnmap mapping
  | .mappingRead mapping => do
    pure (.blob ((← Session.mapping mapping).bytes (← get).machine))
  | .mappingWrite mapping offset data => do
    copyInto (← Session.mapping mapping) offset data
    pure .nothing
  | .mappingWord mapping offset => do
    pure (.optWord ((← Session.mapping mapping).readWord (← get).machine offset))
  | .surfaceCreate name w h format layout => surfaceCreate name w h format layout
  | .surfaceInfo surface => do pure (.surface (some (← Session.surface surface)))
  | .surfaceOffset surface x y => do pure (.number ((← Session.surface surface).pixelOffset x y))
  | .surfaceReadPixel surface x y => do
    pure (.word (← lift ((← Session.surface surface).readPixel x y)))
  | .surfaceWritePixel surface x y raw => do
    lift ((← Session.surface surface).writePixel x y raw)
    pure .nothing
  | .surfaceClear surface (r, g, b, a) => do
    lift ((← Session.surface surface).clear r g b a)
    pure .nothing
  | .surfaceRgba8 surface => do pure (.blob (← lift (← Session.surface surface).toRgba8))
  | .surfaceBuffer surface name => surfaceBuffer surface name
  | .surfaceClone surface name => surfaceClone surface name
  | .surfaceFree surface => surfaceFree surface
  | .surfaceSave surface path => do
    lift ((← Session.surface surface).save path)
    pure .nothing
  | .rasterize surface clip tris => rasterize surface clip tris
  | .framebufferCreate name w h format layout double =>
    framebufferCreate name w h format layout double
  | .framebufferInfo fb => do pure (.framebuffer (some (← Session.framebuffer fb)))
  | .framebufferSwap fb => framebufferSwap fb
  | .framebufferData fb front => framebufferData fb front
  | .framebufferSurface fb which name => do
    storeSurfaceOf (← Session.framebuffer fb) which name
  | .framebufferSave fb path => do
    lift ((← Session.framebuffer fb).save path)
    pure .nothing
  | .framebufferFree fb => framebufferFree fb
  | .filesRegister entries => filesRegister entries
  | .filesSetVerbose v => do
    setFiles { (← get).files with verbose := v }
    pure (.flag v)
  | .filesOpen path fd => filesOpen path fd
  | .filesLookup fd => do
    let r := (← get).files
    pure (.file (fileAt r (r.lookup fd)))
  | .filesFind path => do
    let r := (← get).files
    pure (.file (fileAt r (r.find path)))
  | .filesDup fd newFd => filesDup fd newFd
  | .fileDuplicate fd newFd => fileDuplicate fd newFd
  | .filesClose fd => filesClose fd
  | .filesRead fd len => do pure (.read (← filesCall fd (·.read len)))
  | .filesWrite fd data => filesWrite fd data
  | .filesControl fd request arg => do pure (.control (← filesCall fd (·.control request arg)))
  | .filesDebug fd => do
    let r := (← get).files
    pure (match fileAt r (r.lookup fd) with
      | some f => .text f.debugText
      | none => .nothing)
  | .fileHandlerWrite fd data => do pure (.wrote (← filesCall fd (·.write data)))
  | .filesState probe => filesState probe
  | .programNew name vs fs linker link => programNew name vs fs linker link
  | .engineReset => engineReset
  | .engineBindProgram program => engineBindProgram program
  | .engineSet setting => do
    modify fun s => { s with engine.state := s.engine.state.apply setting }
    pure .nothing
  | .engineState => do
    let e := (← get).engine
    pure (.state e.state e.program.isSome)
  | .engineAttribPointer location size buffer => engineAttribPointer location size buffer
  | .engineAttribEnable location on => updateEngine (·.setAttribEnabled location on)
  | .engineBindTarget slot surface => engineBindTarget slot surface
  | .engineTargetEnable slot on =>
    updateEngine fun e => if on then e.enableTarget slot else e.disableTarget slot
  | .engineTarget slot => do pure (.surface ((← get).engine.target? slot))
  | .engineVertexUniform location values => updateEngine (·.setVertexUniform location values)
  | .engineFragmentUniform location values => updateEngine (·.setFragmentUniform location values)
  | .engineUniforms => do
    let e := (← get).engine
    pure (.uniforms e.vsUniforms e.fsUniforms)
  | .engineDraw prim indices width count => engineDraw prim indices width count
  | .displayInit options presenter chipFiles => displayInit options presenter chipFiles
  | .displayClearColor rgba => do
    setContext { (← context) with clearColor := rgba }
    pure .nothing
  | .displayClear => do
    lift (← context).clear
    pure .nothing
  | .displayBind fb previousAs => displayBind fb previousAs
  | .displayUnbind as => displayUnbind as
  | .displayFramebuffer => do pure (.framebuffer (some (← lift (← context).bound)))
  | .displaySurface which name => do storeSurfaceOf (← lift (← context).bound) which name
  | .displaySwap => displaySwap
  | .displayFlush => do
    let _ ← context
    pure .nothing
  | .displaySetOutput path => do
    setContext { (← context) with output := path }
    pure (.text path)
  | .displaySwapBuffers => displaySwapBuffers
  | .displayWaitForKey => displayWaitForKey
  | .displayFilesOpen path b fd => displayFilesOpen path b fd
  | .displayKeyPressed => do pure (.flag (← context).keyPressed)
  | .displayChipId => displayChipId
  | .displayUpload name data => displayUpload name data

namespace Session

/-- A new session, with a byte budget for its device if one is given. -/
def start (limit : Option Nat) : Session :=
  { machine := { device := { limit } } }

/-- Runs a command on a session.  When it fails, the session's names, registry, engine and
display context stay as they were; the machine and the file events keep what happened. -/
def step (s : Session) (c : Command) : Session × Except Fault Reply :=
  let (r, s') := (ExceptT.run (perform c)).run s
  match r with
  | .ok _ => (s', r)
  | .error _ => ({ s with machine := s'.machine, events := s'.events }, r)

/-- Ends a session: everything it holds is given back, and the journal is complete. -/
def finish (s : Session) : Journal :=
  (Act.run' (Session.close s) s.machine).2.journal

end Session

end TegraGpu.Script
