import TegraGpu.Surface.Framebuffer
import TegraGpu.Intercept.Registry
import TegraGpu.Chip
import TegraGpu.Options
/-!
# The display context

A display context holds the options, the bound framebuffer, the clear colour, the chip lookup,
a file registry and, optionally, a presenter.  With a presenter, swapping buffers shows the
bound framebuffer in an overlay, unless fullscreen output is asked for or the presenter has no
overlays, in which case the whole display is used and the output size becomes the display's
resolution.  Without one the context is headless: swapping saves the framebuffer as an image,
waiting for a key returns at once and a key always counts as pressed.

* `Presenter`, `Shown` : a presenter as data, with what it was asked to show.
* `Context.init`, `Context.withPresenter` : the two ways to start.
* `Context.clear`, `Context.swapBuffers`, `Context.waitForKey` : the frame operations.
-/

namespace TegraGpu.Display

open Act Surface Buffer

/-- What a presenter was asked to do. -/
inductive Shown where
  /-- Show a framebuffer, by its front handle, in an overlay at a position and size. -/
  | overlay (front : Host.Handle) (x y width height : Nat) (vsync : Bool)
  /-- Show a framebuffer, by its front handle, on the whole display. -/
  | display (front : Host.Handle) (vsync : Bool)
  /-- Wait for a key. -/
  | keyWait

/-- A presenter: its display, its abilities, and the requests it received in order. -/
structure Presenter where
  /-- The display resolution. -/
  resolution : Nat × Nat
  /-- Whether it can show a framebuffer in an overlay. -/
  supportsOverlay : Bool := false
  /-- Whether a key is pressed. -/
  keyPressed : Bool := false
  /-- The requests so far. -/
  shown : Array Shown := #[]

/-- The file written by a headless swap unless another is set. -/
def headlessOutput : String := "test.png"

/-- A display context over a file registry of openers `β` and handlers `α`. -/
structure Context (β α : Type) where
  /-- The options, with the size replaced by the resolution when showing on the display. -/
  options : Options
  /-- The presenter, if any. -/
  presenter : Option Presenter := none
  /-- Whether frames are shown in an overlay. -/
  overlay : Bool := false
  /-- The bound framebuffer. -/
  framebuffer : Option Framebuffer := none
  /-- The colour of `clear`. -/
  clearColor : Float32 × Float32 × Float32 × Float32 := (zero32, zero32, zero32, zero32)
  /-- The chip lookup. -/
  chip : Resolver
  /-- The registry of wrapped files, verbose as the options say. -/
  files : Intercept.Registry β α
  /-- Where a headless swap saves. -/
  output : String := headlessOutput

namespace Context

variable {β α : Type}

/-- A headless context. -/
def init (options : Options) (chip : Resolver) : Act (Context β α) := do
  note .debug .display "Initializing headless grate context"
  pure { options, chip, files := { verbose := options.verbose } }

/-- A context showing through a presenter: in an overlay unless fullscreen is asked for or the
presenter has none, and else on the display at its resolution. -/
def withPresenter (options : Options) (chip : Resolver) (p : Presenter) :
    Act (Context β α) := do
  let overlay := !options.fullscreen && p.supportsOverlay
  let options := if overlay then options
    else { options with width := p.resolution.1, height := p.resolution.2 }
  note .debug .display ("Presenting " ++ toString options.width ++ "x" ++
    toString options.height ++ " via " ++ (if overlay then "overlay" else "display"))
  let c ← (init options chip : Act (Context β α))
  pure { c with presenter := some p, overlay }

/-- The bound framebuffer, or the error that none is bound. -/
def bound (c : Context β α) : Act Framebuffer :=
  match c.framebuffer with
  | some fb => pure fb
  | none => throw .noFramebuffer

/-- Fills the surface drawn to with the clear colour. -/
def clear (c : Context β α) : Act Unit := do
  let fb ← c.bound
  let (r, g, b, a) := c.clearColor
  fb.drawSurface.clear r g b a

/-- Binds a framebuffer and gives the one bound before. -/
def bind (c : Context β α) (fb : Framebuffer) : Context β α × Option Framebuffer :=
  ({ c with framebuffer := some fb }, c.framebuffer)

/-- Unbinds the framebuffer and gives it. -/
def unbind (c : Context β α) : Context β α × Option Framebuffer :=
  ({ c with framebuffer := none }, c.framebuffer)

/-- Shows the bound framebuffer: through the presenter, in the overlay or on the display, and
when headless by saving it. -/
def swapBuffers (c : Context β α) : Act (Context β α) := do
  let fb ← c.bound
  match c.presenter with
  | some p =>
    let o := c.options
    let req := if c.overlay then Shown.overlay fb.front.view.handle o.x o.y o.width o.height o.vsync
      else Shown.display fb.front.view.handle o.vsync
    pure { c with presenter := some { p with shown := p.shown.push req } }
  | none =>
    fb.save c.output
    pure c

/-- Waits for a key: the presenter records the wait, and headless nothing happens. -/
def waitForKey (c : Context β α) : Context β α :=
  match c.presenter with
  | some p => { c with presenter := some { p with shown := p.shown.push .keyWait } }
  | none => c

/-- Whether a key is pressed; headless, always. -/
def keyPressed (c : Context β α) : Bool :=
  match c.presenter with
  | some p => p.keyPressed
  | none => true

/-- The chip, looked up once. -/
def chipId (c : Context β α) : Act (Chip × Context β α) := do
  let (chip, r) ← c.chip.resolve
  pure (chip, { c with chip := r })

/-- The bytes of 32-bit words, little-endian: attribute floats are given by their bits. -/
def wordBytes (words : List UInt32) : ByteArray :=
  ByteArray.mk (words.flatMap fun (w : UInt32) =>
    [w.toUInt8, (w >>> 8).toUInt8, (w >>> 16).toUInt8, (w >>> 24).toUInt8]).toArray

/-- The bytes of 16-bit indices, little-endian. -/
def halfBytes (values : List UInt16) : ByteArray :=
  ByteArray.mk (values.flatMap fun (v : UInt16) => [v.toUInt8, (v >>> 8).toUInt8]).toArray

/-- A new buffer holding attribute bytes. -/
def attribData (data : ByteArray) : Act View :=
  allocateWith {} data

end Context

end TegraGpu.Display
