import TegraGpu.Surface.Image
/-!
# Framebuffers

A framebuffer is a front surface and, when double-buffered, a back surface of the same shape.
Drawing goes to the back surface when there is one, else to the front; swapping exchanges the
two.  Creating a double-buffered framebuffer is all or nothing: when the back surface cannot be
allocated, the front one is released again.

* `Framebuffer.create` : the allocation.
* `Framebuffer.drawSurface`, `Framebuffer.swap` : the surface drawn to, and the exchange.
* `Framebuffer.mapData`, `Framebuffer.save` : reading the pixels of one surface, and saving.
-/

namespace TegraGpu.Surface

open Act

/-- A front surface and an optional back surface. -/
structure Framebuffer where
  /-- The surface shown. -/
  front : Surface
  /-- The surface drawn to, when double-buffered. -/
  back : Option Surface

/-- Allocates a framebuffer; when the back surface fails, the front one is released. -/
def Framebuffer.create (width height : Nat) (format : Format) (layout : Layout)
    (double : Bool) : Act Framebuffer := do
  let front ← Surface.create width height format layout
  let back ← if double then
      try
        let b ← Surface.create width height format layout
        pure (some b)
      catch e => do
        note .error .framebuffer ("Failed to allocate back buffer: " ++ e.message)
        front.view.release
        throw e
    else pure none
  note .debug .framebuffer ("Created " ++ (if back.isSome then "double" else "single") ++
    "-buffered " ++ toString width ++ "x" ++ toString height ++ " framebuffer")
  pure { front, back }

/-- The surface that drawing goes to. -/
def Framebuffer.drawSurface (fb : Framebuffer) : Surface :=
  fb.back.getD fb.front

/-- Exchanges front and back; a single-buffered framebuffer stays as it is. -/
def Framebuffer.swap (fb : Framebuffer) : Framebuffer :=
  match fb.back with
  | some b => { front := b, back := some fb.front }
  | none => fb

/-- Maps the front or the back surface and gives it; the caller unmaps it. -/
def Framebuffer.mapData (fb : Framebuffer) (front : Bool) : Act Surface := do
  let s ← if front then pure fb.front
    else match fb.back with
      | some b => pure b
      | none =>
        note .error .framebuffer "failed to get framebuffer's bo"
        throw (.map .noBackBuffer)
  try s.view.map catch e => do
    note .error .framebuffer "failed to mmap framebuffer's bo"
    throw e
  pure s

/-- Saves the surface drawn to. -/
def Framebuffer.save (fb : Framebuffer) (path : String) : Act Unit :=
  fb.drawSurface.save path

/-- Releases both surfaces, front first. -/
def Framebuffer.release (fb : Framebuffer) : Act Unit := do
  fb.front.view.release
  match fb.back with
  | some b => b.view.release
  | none => pure ()

end TegraGpu.Surface
