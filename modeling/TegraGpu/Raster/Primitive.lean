/-!
# Primitives, index widths and face culling

The engine draws indexed primitives; only triangle lists are rasterized.  Indices are read as
little-endian words of one, two or four bytes.  Culling keeps or drops a triangle by the sense
of its corners on the screen.
-/

namespace TegraGpu.Raster

/-- The kinds of primitive a draw call can name. -/
inductive Primitive where
  | points
  | lines
  | lineLoop
  | lineStrip
  | triangles
  | triangleStrip
  | triangleFan
  deriving DecidableEq

/-- The name of a primitive kind. -/
def Primitive.name : Primitive → String
  | .points => "Points"
  | .lines => "Lines"
  | .lineLoop => "LineLoop"
  | .lineStrip => "LineStrip"
  | .triangles => "Triangles"
  | .triangleStrip => "TriangleStrip"
  | .triangleFan => "TriangleFan"

/-- The width of the indices of a draw call. -/
inductive IndexWidth where
  | byte
  | half
  | word
  deriving DecidableEq

/-- The bytes of one index. -/
def IndexWidth.bytes : IndexWidth → Nat
  | .byte => 1
  | .half => 2
  | .word => 4

/-- Which faces are dropped before rasterization. -/
inductive CullFace where
  | none
  | front
  | back
  deriving DecidableEq

/-- The name of a culling mode. -/
def CullFace.name : CullFace → String
  | .none => "None"
  | .front => "Front"
  | .back => "Back"

end TegraGpu.Raster
