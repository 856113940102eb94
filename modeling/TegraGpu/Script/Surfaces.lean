import TegraGpu.Script.Session
/-!
# Scripted sessions: surfaces and framebuffers

Steps on named surfaces and framebuffers.  Storing a surface of a framebuffer, or the buffer
of a surface, under a new name takes a new reference to its store.  Rasterizing draws a list
of triangles through one mapping and reports each triangle's pixel count.

* `surfaceCreate`, `framebufferCreate`, `rasterize`, `framebufferData` : the main steps.
-/

namespace TegraGpu.Script

open Buffer Surface Raster Session

/-- Creates a surface. -/
def surfaceCreate (name : String) (width height : Nat) (format : Format) (layout : Layout) :
    StepM Reply := do
  let p ← lift (Surface.create width height format layout)
  putSurface name p
  pure (.surface (some p))

/-- Stores a second reference to a surface's buffer. -/
def surfaceBuffer (surface name : String) : StepM Reply := do
  let p ← Session.surface surface
  lift p.view.retain
  putBuffer name p.view
  pure (.buffer (← bufferInfo p.view))

/-- Stores a second reference to a surface. -/
def surfaceClone (surface name : String) : StepM Reply := do
  let p ← Session.surface surface
  lift p.view.retain
  putSurface name p
  pure .nothing

/-- Forgets a surface's name and gives back its reference. -/
def surfaceFree (surface : String) : StepM Reply := do
  let p ← Session.surface surface
  modify fun s => { s with surfaces := eraseNamed s.surfaces surface }
  lift p.view.release
  pure .nothing

/-- Rasterizes triangles into a surface with a new rasterizer, clipped as given. -/
def rasterize (surface : String) (clip : Option Clip) (tris : List (Vertex × Vertex × Vertex)) :
    StepM Reply := do
  let p ← Session.surface surface
  let clip := clip.getD Clip.default
  let counts ← lift (Engine.rasterizeInto clip p tris)
  pure (.rasterized counts clip)

/-- Creates a framebuffer. -/
def framebufferCreate (name : String) (width height : Nat) (format : Format) (layout : Layout)
    (double : Bool) : StepM Reply := do
  let fb ← lift (Framebuffer.create width height format layout double)
  putFramebuffer name fb
  pure (.framebuffer (some fb))

/-- Swaps a framebuffer's surfaces. -/
def framebufferSwap (framebuffer : String) : StepM Reply := do
  let fb := (← Session.framebuffer framebuffer).swap
  modify fun s => { s with framebuffers := (insertNamed s.framebuffers framebuffer fb).1 }
  pure (.framebuffer (some fb))

/-- The bytes of the front or back surface of a framebuffer, with their first word. -/
def framebufferData (framebuffer : String) (front : Bool) : StepM Reply := do
  let fb ← Session.framebuffer framebuffer
  let p ← lift (fb.mapData front)
  let data := p.view.bytes (← get).machine
  lift p.view.unmap
  pure (.frame data (wordAt data 0))

/-- The surface of a framebuffer that `which` names. -/
def Which.pick (which : Which) (fb : Framebuffer) : Option Surface :=
  match which with
  | .front => some fb.front
  | .back => fb.back
  | .draw => some fb.drawSurface

/-- Stores a second reference to a surface of a framebuffer, if it has that surface. -/
def storeSurfaceOf (fb : Framebuffer) (which : Which) (name : String) : StepM Reply := do
  match which.pick fb with
  | some p =>
    lift p.view.retain
    putSurface name p
    pure (.surface (some p))
  | none => pure (.surface none)

/-- Forgets a framebuffer's name and gives back its surfaces. -/
def framebufferFree (framebuffer : String) : StepM Reply := do
  let fb ← Session.framebuffer framebuffer
  modify fun s => { s with framebuffers := eraseNamed s.framebuffers framebuffer }
  lift fb.release
  pure .nothing

end TegraGpu.Script
