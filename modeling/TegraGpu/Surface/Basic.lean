import TegraGpu.Surface.Format
import TegraGpu.Buffer.Object
/-!
# Pixel buffers

A pixel buffer is a surface of `width × height` pixels of one format in a buffer object of its
own.  In the linear layout a row takes `pitch = width · bpp` bytes and rows follow each other.
In the tiled layout width and height are first padded to multiples of 16, and the surface is cut
into 16 × 16 tiles, stored row of tiles by row of tiles, each tile row by row.

* `Layout`, `Surface`, `Surface.create` : the layouts, the surface and its allocation, which
  refuses empty and oversized surfaces.
* `Surface.pixelOffset` : the byte of a pixel in the buffer.
* `Surface.readPixel`, `Surface.writePixel`, `Surface.clear`, `Surface.toRgba8` : the pixels.
-/

namespace TegraGpu.Surface

open Buffer Act

/-- The pixel layouts. -/
inductive Layout where
  /-- Rows of pixels one after the other. -/
  | linear
  /-- Tiles of 16 × 16 pixels. -/
  | tiled
  deriving DecidableEq

/-- The name of a layout. -/
def Layout.name : Layout → String
  | .linear => "Linear"
  | .tiled => "Tiled16x16"

/-- The side of a tile. -/
def tileSide : Nat := 16

end TegraGpu.Surface

namespace TegraGpu

/-- A surface of pixels in a buffer object; its operations and the types it is made of live in
the namespace of the same name. -/
structure Surface where
  /-- Pixels per row. -/
  width : Nat
  /-- Rows. -/
  height : Nat
  /-- The pixel format. -/
  format : Surface.Format
  /-- The layout. -/
  layout : Surface.Layout
  /-- Bytes per row, of the padded width in the tiled layout. -/
  pitch : Nat
  /-- The buffer object that holds the pixels. -/
  view : Buffer.View

end TegraGpu

namespace TegraGpu.Surface

open Buffer Act

/-- The largest 32-bit unsigned number. -/
def u32Max : Nat := Nat.pow 2 32 - 1

/-- The pitch and size of a surface, or `none` when they overflow. -/
def storageSize (width height : Nat) (format : Format) (layout : Layout) : Option (Nat × Nat) :=
  let (pw, ph) := match layout with
    | .linear => (width, height)
    | .tiled => (Host.roundUp width tileSide, Host.roundUp height tileSide)
  if u32Max < pw ∨ u32Max < ph then none
  else
    let pitch := pw * format.bytesPerPixel
    let size := pitch * ph
    if Host.wordMax < size then none else some (pitch, size)

/-- Allocates a surface, with a render-target buffer object of its own. -/
def create (width height : Nat) (format : Format) (layout : Layout) : Act Surface := do
  if width = 0 ∨ height = 0 then throw (.allocation 0 (.emptySurface width height))
  match storageSize width height format layout with
  | none => throw (.allocation Host.wordMax (.surfaceOverflow width height))
  | some (pitch, size) =>
    let view ← allocate size { renderTarget := true }
    note .debug .surface ("Created " ++ toString width ++ "x" ++ toString height ++ " " ++
      format.name ++ " " ++ layout.name ++ " pixel buffer (pitch " ++ toString pitch ++ ", " ++
      toString size ++ " bytes)")
    pure { width, height, format, layout, pitch, view }

/-- The byte of the pixel `(x, y)` in the buffer. -/
def pixelOffset (s : Surface) (x y : Nat) : Nat :=
  let bpp := s.format.bytesPerPixel
  match s.layout with
  | .linear => y * s.pitch + x * bpp
  | .tiled =>
    let tilesPerRow := s.pitch / (tileSide * bpp)
    let tile := (y / tileSide) * tilesPerRow + x / tileSide
    let inTile := (y % tileSide) * tileSide + x % tileSide
    (tile * tileSide * tileSide + inTile) * bpp

/-- Refuses a pixel outside the surface. -/
def checkBounds (s : Surface) (x y : Nat) : Act Unit :=
  if s.width ≤ x ∨ s.height ≤ y then throw (.pixelOutOfBounds x y s.width s.height)
  else pure ()

/-- Reads the raw pixel `(x, y)` through a mapping. -/
def readPixel (s : Surface) (x y : Nat) : Act UInt32 := do
  s.checkBounds x y
  s.view.withMap do
    pure (s.format.load (s.view.bytes (← get)) (s.pixelOffset x y))

/-- Writes the raw pixel `(x, y)` through a mapping, then invalidates the buffer. -/
def writePixel (s : Surface) (x y : Nat) (raw : UInt32) : Act Unit := do
  s.checkBounds x y
  let pos := s.view.offset + s.pixelOffset x y
  s.view.withMap (s.view.modifyStorage () (fun data => (s.format.store data pos raw, ())))
  s.view.invalidate s.view.size

/-- Fills `count` pixels from `pos` on with a raw pixel. -/
def fillPixels (f : Format) (raw : UInt32) (pos : Nat) : Nat → ByteArray → ByteArray
  | 0, data => data
  | n + 1, data => fillPixels f raw (pos + f.bytesPerPixel) n (f.store data pos raw)

/-- Sets every pixel of the buffer to a colour, then invalidates the buffer. -/
def clear (s : Surface) (r g b a : Float32) : Act Unit := do
  let raw := s.format.pack r g b a
  let count := s.view.size / s.format.bytesPerPixel
  s.view.withMap
    (s.view.modifyStorage () (fun data => (fillPixels s.format raw s.view.offset count data, ())))
  note .debug .surface ("Cleared pixel buffer to " ++ Text.wordHex raw)
  s.view.invalidate s.view.size

/-- The pixels of a mapped buffer's bytes as red, green, blue and alpha bytes, row by row. -/
def rgba8Of (s : Surface) (data : ByteArray) : ByteArray := Id.run do
  let mut out := ByteArray.emptyWithCapacity (s.width * s.height * 4)
  for y in [0:s.height] do
    for x in [0:s.width] do
      let (r, g, b, a) := s.format.toRgba8 (s.format.load data (s.pixelOffset x y))
      out := ((out.push r.toUInt8).push g.toUInt8).push b.toUInt8 |>.push a.toUInt8
  pure out

/-- The pixels as red, green, blue and alpha bytes, row by row, read through a mapping. -/
def toRgba8 (s : Surface) : Act ByteArray :=
  s.view.withMap do
    pure (s.rgba8Of (s.view.bytes (← get)))

end TegraGpu.Surface
