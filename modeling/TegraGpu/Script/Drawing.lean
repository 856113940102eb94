import TegraGpu.Script.Session
import TegraGpu.Shader.Load
/-!
# Scripted sessions: programs and the 3D engine

Steps that assemble named programs and drive the session's 3D engine.  The engine takes its own
reference to every buffer and surface given to it; a render target that it replaces is given
back after the step reports it.

* `programNew`, `engineAttribPointer`, `engineBindTarget`, `engineDraw` : the main steps.
-/

namespace TegraGpu.Script

open Raster Session

/-- Replaces the session's engine. -/
def setEngine (e : Engine) : StepM Unit :=
  modify fun s => { s with engine := e }

/-- Runs an engine update that can fail. -/
def updateEngine (f : Engine → Except Error Engine) : StepM Reply := do
  setEngine (← lift (Act.ofExcept (f (← get).engine)))
  pure .nothing

/-- Assembles and stores a program. -/
def programNew (name : String) (vs fs linker : ShaderText) (link : Bool) : StepM Reply := do
  let p ← lift do
    let v ← Shader.load vs.kind vs.path vs.text
    let f ← Shader.load fs.kind fs.path fs.text
    let l ← Shader.load linker.kind linker.path linker.text
    Shader.Program.assemble v f l link
  modify fun s => { s with programs := (insertNamed s.programs name p).1 }
  pure (.linked p.linked)

/-- Starts a new engine and gives back the old one's buffers. -/
def engineReset : StepM Reply := do
  let old := (← get).engine
  setEngine {}
  lift old.release
  pure .nothing

/-- Binds a program. -/
def engineBindProgram (program : String) : StepM Reply := do
  let p ← named (← get).programs "program" program
  modify fun s => { s with engine.program := some p }
  pure .nothing

/-- Points an attribute at a buffer. -/
def engineAttribPointer (location size : Nat) (buffer : String) : StepM Reply := do
  let v ← Session.buffer buffer
  lift v.retain
  setEngine (← lift ((← get).engine.setPointer location size v))
  pure .nothing

/-- Binds a surface as a render target, reporting and giving back the one it replaces. -/
def engineBindTarget (slot : Nat) (surface : String) : StepM Reply := do
  let p ← Session.surface surface
  lift p.view.retain
  let (e, old) ← lift ((← get).engine.bindTarget slot p)
  setEngine e
  if let some o := old then lift o.view.release
  pure (.surface old)

/-- Draws with the engine. -/
def engineDraw (prim : Primitive) (indices : String) (width : IndexWidth) (count : Nat) :
    StepM Reply := do
  let v ← Session.buffer indices
  lift ((← get).engine.draw prim v width count)
  pure .nothing

end TegraGpu.Script
