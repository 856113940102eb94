import TegraGpu.Surface.Basic
import TegraGpu.Binary32.Fixed
/-!
# Rasterizing triangles

A triangle covers the pixels whose centres lie inside it.  For each edge, the edge function of a
point is twice the signed area of the triangle it spans with the edge; a centre is inside when
all three are positive, or zero on an edge that the top-left rule gives to the triangle: a top
edge (horizontal, the triangle below it) or a left edge.  So two triangles that share an edge
never both cover a centre on it.  The covered pixels get the colour interpolated from the
corners by the edge functions divided by the area (Gouraud shading).

A triangle of zero or non-finite area covers nothing.  Corners may come in either sense: the
triangle is turned to one sense first.  Only pixels inside the clip rectangle (ends included)
and the surface are visited.

* `Vertex`, `Clip`, `Clip.default` : corners and the clip rectangle.
* `edge`, `isTopLeft`, `covers` : the coverage test.
* `bounds` : the pixel rectangle visited.
* `drawTriangle` : the rasterization into the bytes of a surface, with its count and record.
-/

namespace TegraGpu.Raster

open Surface Binary32

/-- A corner of a triangle in window coordinates, with its colour. -/
structure Vertex where
  /-- The column coordinate. -/
  x : Float32
  /-- The row coordinate, growing downwards. -/
  y : Float32
  /-- Red, green, blue and alpha. -/
  color : Float32 × Float32 × Float32 × Float32

/-- The clip rectangle: the first and last column and row, as signed 32-bit numbers. -/
structure Clip where
  /-- The first column. -/
  left : Int
  /-- The first row. -/
  top : Int
  /-- The last column. -/
  right : Int
  /-- The last row. -/
  bottom : Int
  deriving DecidableEq

/-- The greatest signed 32-bit number. -/
def int32Max : Int := Int.pow 2 31 - 1

/-- The clip rectangle of a new rasterizer: everything from the origin on. -/
def Clip.default : Clip := ⟨0, 0, int32Max, int32Max⟩

/-- Twice the signed area that the point `(px, py)` spans with the edge from `a` to `b`. -/
def edge (a b : Vertex) (px py : Float32) : Float32 :=
  (b.x - a.x) * (py - a.y) - (b.y - a.y) * (px - a.x)

/-- Whether the edge from `a` to `b` is a top or a left edge. -/
def isTopLeft (a b : Vertex) : Bool :=
  (a.y == b.y && a.x < b.x) || b.y < a.y

/-- Whether an edge function value lets a pixel centre in. -/
def covers (w : Float32) (topLeft : Bool) : Bool :=
  Surface.zero32 < w || (w == Surface.zero32 && topLeft)

/-- The lesser of two numbers, a NaN giving way to the other. -/
def fmin (a b : Float32) : Float32 :=
  if a.isNaN then b else if b.isNaN then a else if b < a then b else a

/-- The greater of two numbers, a NaN giving way to the other. -/
def fmax (a b : Float32) : Float32 :=
  if a.isNaN then b else if b.isNaN then a else if a < b then b else a

/-- Positive infinity. -/
def posInf32 : Float32 := Float32.ofBits 0x7F800000

/-- Negative infinity. -/
def negInf32 : Float32 := Float32.ofBits 0xFF800000

/-- The columns and rows visited: the corners' box, rounded outwards, cut to the clip rectangle
and the surface; `none` when nothing is left. -/
def bounds (clip : Clip) (width height : Nat) (v0 v1 v2 : Vertex) :
    Option (Nat × Nat × Nat × Nat) :=
  let minX := fmin (fmin (fmin posInf32 v0.x) v1.x) v2.x
  let maxX := fmax (fmax (fmax negInf32 v0.x) v1.x) v2.x
  let minY := fmin (fmin (fmin posInf32 v0.y) v1.y) v2.y
  let maxY := fmax (fmax (fmax negInf32 v0.y) v1.y) v2.y
  let x0 := max (max (floorInt64 minX) clip.left) 0
  let y0 := max (max (floorInt64 minY) clip.top) 0
  let x1 := min (min (ceilInt64 maxX) clip.right) ((width : Int) - 1)
  let y1 := min (min (ceilInt64 maxY) clip.bottom) ((height : Int) - 1)
  if x1 < x0 ∨ y1 < y0 then none else some (x0.toNat, y0.toNat, x1.toNat, y1.toNat)

/-- One half. -/
def half32 : Float32 := Float32.ofBits 0x3F000000

/-- The colour at a point with the given barycentric weights. -/
def blend (l0 l1 l2 : Float32) (c0 c1 c2 : Float32 × Float32 × Float32 × Float32) :
    Float32 × Float32 × Float32 × Float32 :=
  let ch (a b c : Float32) := l0 * a + l1 * b + l2 * c
  (ch c0.1 c1.1 c2.1, ch c0.2.1 c1.2.1 c2.2.1, ch c0.2.2.1 c1.2.2.1 c2.2.2.1,
    ch c0.2.2.2 c1.2.2.2 c2.2.2.2)

/-- The trace record of a drawn triangle. -/
def drawnRecord (v0 v1 v2 : Vertex) (written : Nat) : Record :=
  let pt (v : Vertex) := "(" ++ oneDecimal v.x ++ ", " ++ oneDecimal v.y ++ ")"
  { level := .trace, origin := .rasterizer,
    text := "Rasterized triangle " ++ pt v0 ++ ", " ++ pt v1 ++ ", " ++ pt v2 ++ ": " ++
      toString written ++ " pixels" }

/-- The trace record of a triangle skipped for its area. -/
def skippedRecord : Record :=
  { level := .trace, origin := .rasterizer, text := "Skipping degenerate triangle" }

/-- Rasterizes a triangle into the bytes of a surface whose pixels start at `base`; gives the
new bytes, the number of pixels written and the record, none when no pixel was visited. -/
def drawTriangle (clip : Clip) (s : Surface) (base : Nat) (data : ByteArray)
    (v0 v1 v2 : Vertex) : ByteArray × Nat × Option Record :=
  let area := edge v0 v1 v2.x v2.y
  if area == Surface.zero32 || !area.isFinite then (data, 0, some skippedRecord)
  else
    let (v1, v2, area) := if area < Surface.zero32 then (v2, v1, -area) else (v1, v2, area)
    match bounds clip s.width s.height v0 v1 v2 with
    | none => (data, 0, none)
    | some (x0, y0, x1, y1) =>
      let bias0 := isTopLeft v1 v2
      let bias1 := isTopLeft v2 v0
      let bias2 := isTopLeft v0 v1
      let (data, written) := Id.run do
        let mut data := data
        let mut written := 0
        for y in [y0:y1 + 1] do
          let py := y.toUInt32.toFloat32 + half32
          for x in [x0:x1 + 1] do
            let px := x.toUInt32.toFloat32 + half32
            let w0 := edge v1 v2 px py
            let w1 := edge v2 v0 px py
            let w2 := edge v0 v1 px py
            if covers w0 bias0 && covers w1 bias1 && covers w2 bias2 then
              let (r, g, b, a) := blend (w0 / area) (w1 / area) (w2 / area)
                v0.color v1.color v2.color
              data := s.format.store data (base + s.pixelOffset x y) (s.format.pack r g b a)
              written := written + 1
        pure (data, written)
      (data, written, some (drawnRecord v0 v1 v2 written))

end TegraGpu.Raster
