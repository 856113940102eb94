import TegraGpu.Binary32.Decode
import TegraGpu.Raster.Primitive
/-!
# Raster state

The raster state is the set of fixed-function registers of the 3D engine: depth range, dither,
point and line parameters, the viewport transform, guard band, front face and culling, scissor,
point-sprite coordinate range, polygon offset and the provoking vertex.  Numbers are kept as the
bits given, so that reading the state back gives exactly what was set.  A `Setting` changes one
part; `State.apply` performs it.

* `Scissor`, `State`, `State.initial` : the registers and their values after reset.
* `Setting`, `State.apply` : the changes.
-/

namespace TegraGpu.Raster

open Binary32

/-- The scissor rectangle, in pixels. -/
structure Scissor where
  /-- The first column. -/
  x : Nat
  /-- The number of columns. -/
  width : Nat
  /-- The first row. -/
  y : Nat
  /-- The number of rows. -/
  height : Nat
  deriving DecidableEq

/-- The bits of `0.0`. -/
def single0 : Single := ⟨0⟩

/-- The bits of `1.0`. -/
def single1 : Single := ⟨0x3F800000⟩

/-- The fixed-function registers. -/
structure State where
  /-- Near and far depth. -/
  depthRange : Single × Single := (single0, single1)
  /-- The dither register. -/
  dither : UInt32 := 0
  /-- The point parameter register. -/
  pointParams : UInt32 := 0
  /-- The point size. -/
  pointSize : Single := single1
  /-- The line parameter register. -/
  lineParams : UInt32 := 0
  /-- The line width. -/
  lineWidth : Single := single1
  /-- The viewport bias: x, y and z. -/
  viewportBias : Single × Single × Single := (single0, single0, single0)
  /-- The viewport scale: x, y and z. -/
  viewportScale : Single × Single × Single := (single0, single0, single0)
  /-- Whether the guard band is used. -/
  guardband : Bool := false
  /-- Whether clockwise triangles face the front. -/
  frontCw : Bool := false
  /-- Which faces are culled. -/
  cullFace : CullFace := .none
  /-- The scissor rectangle. -/
  scissor : Scissor := ⟨0, 4096, 0, 4096⟩
  /-- The point-sprite coordinate range: least and greatest s, least and greatest t. -/
  pointCoordRange : Single × Single × Single × Single := (single0, single1, single0, single1)
  /-- The polygon offset: units and factor. -/
  polygonOffset : Single × Single := (single0, single0)
  /-- Whether the last vertex of a primitive provokes its flat values. -/
  provokingVtxLast : Bool := false

/-- The registers after reset. -/
def State.initial : State := {}

/-- A change of one part of the raster state. -/
inductive Setting where
  | depthRange (near far : Single)
  | dither (value : UInt32)
  | pointParams (value : UInt32)
  | pointSize (value : Single)
  | lineParams (value : UInt32)
  | lineWidth (value : Single)
  | viewportBias (x y z : Single)
  | viewportScale (x y z : Single)
  | guardband (value : Bool)
  | frontCw (value : Bool)
  | cullFace (value : CullFace)
  | scissor (x width y height : Nat)
  | pointCoordRange (minS maxS minT maxT : Single)
  | polygonOffset (units factor : Single)
  | provokingVtxLast (value : Bool)

/-- Performs a change of the raster state. -/
def State.apply (s : State) : Setting → State
  | .depthRange near far => { s with depthRange := (near, far) }
  | .dither v => { s with dither := v }
  | .pointParams v => { s with pointParams := v }
  | .pointSize v => { s with pointSize := v }
  | .lineParams v => { s with lineParams := v }
  | .lineWidth v => { s with lineWidth := v }
  | .viewportBias x y z => { s with viewportBias := (x, y, z) }
  | .viewportScale x y z => { s with viewportScale := (x, y, z) }
  | .guardband v => { s with guardband := v }
  | .frontCw v => { s with frontCw := v }
  | .cullFace v => { s with cullFace := v }
  | .scissor x w y h => { s with scissor := ⟨x, w, y, h⟩ }
  | .pointCoordRange a b c d => { s with pointCoordRange := (a, b, c, d) }
  | .polygonOffset u f => { s with polygonOffset := (u, f) }
  | .provokingVtxLast v => { s with provokingVtxLast := v }

end TegraGpu.Raster
