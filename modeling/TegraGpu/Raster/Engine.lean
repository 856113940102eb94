import TegraGpu.Raster.State
import TegraGpu.Raster.Triangle
import TegraGpu.Shader.Program
/-!
# The 3D engine

The engine holds a program, the raster state, sixteen vertex attribute slots (a buffer of
floats, one to four per vertex, and an enable flag), sixteen render target slots (a surface and
an enable flag), and the uniform files of 1024 vertex and 64 fragment floats.

Drawing reads the positions and colours of the enabled `position` and `color` attributes, the
indices, and maps every index to a window position through the viewport transform; a vertex with
`w = 0` has none and drops its triangle.  Triangles may then be culled by their sense, and the
rest are rasterized into every enabled render target, clipped to the scissor rectangle.

* `Engine`, `Engine.initial` : the engine after reset.
* `Engine.setPointer`, `Engine.enableAttrib`, `Engine.bindTarget`, `Engine.enableTarget`,
  `Engine.setVertexUniform`, `Engine.setFragmentUniform` : the setup calls.
* `Engine.draw` : drawing indexed triangles.
* `Engine.release` : giving back the buffers the engine holds.
-/

namespace TegraGpu.Raster

open Buffer Surface Binary32 Act

/-- The number of attribute slots. -/
def attribSlots : Nat := 16

/-- The number of render target slots. -/
def targetSlots : Nat := 16

/-- Floats in the vertex uniform file. -/
def vertexUniformFloats : Nat := 256 * 4

/-- Floats in the fragment uniform file. -/
def fragmentUniformFloats : Nat := 64

/-- An attribute buffer: floats per vertex and the buffer. -/
structure Pointer where
  /-- Floats per vertex, one to four. -/
  size : Nat
  /-- The buffer. -/
  view : View

/-- A render target: a surface and whether drawing writes it. -/
structure Target where
  /-- The surface. -/
  surface : Surface
  /-- Whether it is written. -/
  enabled : Bool

/-- The state of the 3D engine. -/
structure Engine where
  /-- The bound program. -/
  program : Option Shader.Program := none
  /-- The raster state. -/
  state : State := {}
  /-- The attribute buffers by slot. -/
  pointers : Array (Option Pointer) := Array.replicate attribSlots none
  /-- The attribute enable flags by slot. -/
  enabled : Array Bool := Array.replicate attribSlots false
  /-- The render targets by slot. -/
  targets : Array (Option Target) := Array.replicate targetSlots none
  /-- The vertex uniform file. -/
  vsUniforms : Array Single := Array.replicate vertexUniformFloats single0
  /-- The fragment uniform file. -/
  fsUniforms : Array Single := Array.replicate fragmentUniformFloats single0

/-- The engine after reset. -/
def Engine.initial : Engine := {}

namespace Engine

/-- Refuses an attribute location outside the slots. -/
def attribSlot (loc : Nat) : Except Error Nat :=
  if loc < attribSlots then .ok loc else .error (.invalidLocation .attribute loc)

/-- Refuses a render target slot outside the slots. -/
def targetSlot (slot : Nat) : Except Error Nat :=
  if slot < targetSlots then .ok slot else .error (.invalidLocation .renderTarget slot)

/-- Gives an attribute slot a buffer of `size` floats per vertex.  The engine takes the view's
reference: it is given back at once when the call fails, and the slot's old buffer is given
back when it is replaced. -/
def setPointer (e : Engine) (loc size : Nat) (v : View) : Act Engine := do
  let checked : Except Error Nat := do
    let slot ← attribSlot loc
    if size < 1 ∨ 4 < size then throw (.draw (.attributeSize size loc))
    pure slot
  match checked with
  | .error err =>
    v.release
    throw err
  | .ok slot =>
    let old := e.pointers[slot]?.join
    let e := { e with pointers := e.pointers.set! slot (some ⟨size, v⟩) }
    match old with
    | some p => p.view.release
    | none => pure ()
    pure e

/-- Sets the enable flag of an attribute slot. -/
def setAttribEnabled (e : Engine) (loc : Nat) (on : Bool) : Except Error Engine := do
  let slot ← attribSlot loc
  pure { e with enabled := e.enabled.set! slot on }

/-- Puts a surface into a render target slot, keeping the slot's enable flag, and gives back
the surface it held.  The engine takes the surface's reference; it is given back at once when
the slot is refused. -/
def bindTarget (e : Engine) (slot : Nat) (s : Surface) : Act (Engine × Option Surface) := do
  match targetSlot slot with
  | .error err =>
    s.view.release
    throw err
  | .ok i =>
    let old := e.targets[i]?.join
    let enabled := match old with
      | some t => t.enabled
      | none => false
    pure ({ e with targets := e.targets.set! i (some ⟨s, enabled⟩) }, old.map Target.surface)

/-- Enables a render target slot, which must hold a surface. -/
def enableTarget (e : Engine) (slot : Nat) : Except Error Engine := do
  let i ← targetSlot slot
  match e.targets[i]?.join with
  | some t => pure { e with targets := e.targets.set! i (some { t with enabled := true }) }
  | none => throw (.draw (.targetNotBound slot))

/-- Disables a render target slot. -/
def disableTarget (e : Engine) (slot : Nat) : Except Error Engine := do
  let i ← targetSlot slot
  match e.targets[i]?.join with
  | some t => pure { e with targets := e.targets.set! i (some { t with enabled := false }) }
  | none => pure e

/-- The surface of a render target slot. -/
def target? (e : Engine) (slot : Nat) : Option Surface :=
  (e.targets[slot]?.join).map Target.surface

/-- Copies values into a uniform file from `start` on; refused when they do not fit. -/
def storeUniform (file : Array Single) (table : Location) (loc start : Nat)
    (values : List Single) : Except Error (Array Single) :=
  if file.size < start + values.length then .error (.invalidLocation table loc)
  else .ok (values.zipIdx.foldl (fun f (v, i) => f.set! (start + i) v) file)

/-- Stores vertex uniform values from the four floats of location `loc` on. -/
def setVertexUniform (e : Engine) (loc : Nat) (values : List Single) : Except Error Engine := do
  let f ← storeUniform e.vsUniforms .vertexUniform loc (loc * 4) values
  pure { e with vsUniforms := f }

/-- Stores fragment uniform values from float `loc` on. -/
def setFragmentUniform (e : Engine) (loc : Nat) (values : List Single) : Except Error Engine := do
  let f ← storeUniform e.fsUniforms .fragmentUniform loc loc values
  pure { e with fsUniforms := f }

/-- Four floats. -/
abbrev Vec4 := Float32 × Float32 × Float32 × Float32

/-- The single-precision number of four bytes, little end first. -/
def floatAt (data : ByteArray) (pos : Nat) : Float32 :=
  Float32.ofBits ((wordAt data pos).getD 0)

/-- The vertices of an attribute buffer of `size` floats per vertex: missing components are
`0, 0, 0, 1`, and bytes after the last whole vertex are ignored. -/
def vertices (data : ByteArray) (size : Nat) : Array Vec4 :=
  let stride := size * 4
  let count := if stride = 0 then 0 else data.size / stride
  (Array.range count).map fun i =>
    let c (k : Nat) (dflt : Float32) : Float32 :=
      if k < size then floatAt data (i * stride + 4 * k) else dflt
    (c 0 zero32, c 1 zero32, c 2 zero32, c 3 one32)

/-- The vertices of an enabled attribute, read through a mapping; `none` when disabled. -/
def fetch (e : Engine) (loc : Nat) : Act (Option (Array Vec4)) := do
  let slot ← Act.ofExcept (attribSlot loc)
  if !(e.enabled[slot]?.getD false) then return none
  match e.pointers[slot]?.join with
  | none => throw (.draw (.noPointer loc))
  | some p =>
    let data ← p.view.withMap do
      pure (p.view.bytes (← get))
    pure (some (vertices data p.size))

/-- The first `count` indices of an index buffer's bytes, `width.bytes` bytes each, little end
first. -/
def decodeIndices (data : ByteArray) (width : IndexWidth) (count : Nat) : Array Nat :=
  (Array.range count).map fun i =>
    let pos := i * width.bytes
    match width with
    | .byte => (data.get! pos).toNat
    | .half => (data.get! pos).toNat + (data.get! (pos + 1)).toNat * 256
    | .word => ((wordAt data pos).getD 0).toNat

/-- The indices of a draw, read through a mapping; refused when the buffer is too short.  The
byte count is a product of machine words: one past the largest word stops the draw before the
buffer is looked at. -/
def readIndices (v : View) (width : IndexWidth) (count : Nat) : Act (Array Nat) := do
  let needed := count * width.bytes
  if Host.wordMax < needed then throw .mulOverflow
  if v.size < needed then throw (.draw (.shortIndices count needed v.size))
  let data ← v.withMap do
    pure (v.bytes (← get))
  pure (decodeIndices data width count)

/-- Two as a single-precision number. -/
def two32 : Float32 := Float32.ofBits 0x40000000

/-- The window position of a clip-space position: divided by `w`, then scaled and biased by the
viewport; `none` when `w` is zero. -/
def toWindow (st : State) (pos color : Vec4) : Option Vertex :=
  let (x, y, _, w) := pos
  if w == zero32 then none
  else
    let x := x / w
    let y := y / w
    let (sx, sy, _) := st.viewportScale
    let (bx, by_, _) := st.viewportBias
    some { x := (x + one32) * sx.value / two32 + bx.value,
           y := (one32 - y) * sy.value / two32 + by_.value, color }

/-- Whether culling drops a triangle. -/
def isCulled (st : State) (t0 t1 t2 : Vertex) : Bool :=
  match st.cullFace with
  | .none => false
  | face =>
    let area := (t1.x - t0.x) * (t2.y - t0.y) - (t2.x - t0.x) * (t1.y - t0.y)
    let ccw := area < zero32
    let front := ccw != st.frontCw
    match face with
    | .front => front
    | _ => !front

/-- The clip rectangle of the scissor: its first and last column and row, saturated to signed
32-bit numbers. -/
def clipOf (sc : Scissor) : Clip :=
  let sat (v : Nat) : Int := min (v : Int) int32Max
  ⟨sat sc.x, sat sc.y, sat (sc.x + sc.width) - 1, sat (sc.y + sc.height) - 1⟩

/-- White. -/
def white : Vec4 := (one32, one32, one32, one32)

/-- Groups a list in threes, dropping what is left over. -/
def triples {α : Type} : List α → List (α × α × α)
  | a :: b :: c :: rest => (a, b, c) :: triples rest
  | _ => []

/-- Rasterizes triangles into the bytes of a surface, giving each triangle's pixel count and
the records in order. -/
def rasterizeEach (clip : Clip) (s : Surface) (base : Nat)
    (tris : List (Vertex × Vertex × Vertex)) (data : ByteArray) :
    ByteArray × Array Nat × Array Record :=
  tris.foldl (fun (data, ns, rs) (v0, v1, v2) =>
    let (data, k, r) := drawTriangle clip s base data v0 v1 v2
    (data, ns.push k, match r with | some r => rs.push r | none => rs)) (data, #[], #[])

/-- Rasterizes triangles into a surface through one mapping, giving each triangle's pixel
count. -/
def rasterizeInto (clip : Clip) (s : Surface) (tris : List (Vertex × Vertex × Vertex)) :
    Act (Array Nat) := do
  let (counts, records) ← s.view.withMap <| s.view.modifyStorage (#[], #[]) fun data =>
    let (data, ns, rs) := rasterizeEach clip s s.view.offset tris data
    (data, (ns, rs))
  for r in records do emit r
  pure counts

/-- The checks of a draw before its indices are read: the primitive and the program, then the
positions and the colors, each read through a mapping. -/
def prepare (e : Engine) (prim : Primitive) : Act (Array Vec4 × Option (Array Vec4)) := do
  if prim ≠ .triangles then throw (.draw (.unsupported prim))
  let program ← match e.program with
    | some p => pure p
    | none => throw (.draw .noProgram)
  if !program.linked then throw (.shader .notLinked)
  let positions ← match program.attributeLocation "position" with
    | some loc => e.fetch loc
    | none => pure none
  let positions ← match positions with
    | some p => pure p
    | none => throw (.draw .noPosition)
  let colors ← match program.attributeLocation "color" with
    | some loc => e.fetch loc
    | none => pure none
  pure (positions, colors)

/-- The window vertex of an index, with its color, or white when there are no colors; refused
when the index is past the positions or past the colors. -/
def vertexOf (e : Engine) (positions : Array Vec4) (colors : Option (Array Vec4)) (i : Nat) :
    Act (Option Vertex) := do
  let pos ← match positions[i]? with
    | some p => pure p
    | none => throw (.draw (.beyondVertices i positions.size))
  let color ← match colors with
    | some cs => match cs[i]? with
      | some c => pure c
      | none => throw (.draw (.beyondColors i cs.size))
    | none => pure white
  pure (toWindow e.state pos color)

/-- The triangles of a list of window vertices: each whole three whose vertices all have a
window position and that culling keeps. -/
def trianglesOf (st : State) (verts : List (Option Vertex)) : List (Vertex × Vertex × Vertex) :=
  (triples verts).filterMap fun (a, b, c) =>
    match a, b, c with
    | some a, some b, some c => if isCulled st a b c then none else some (a, b, c)
    | _, _, _ => none

/-- Rasterizes triangles into the render target of a slot, when the slot holds an enabled one,
and marks the target's bytes written. -/
def drawTarget (e : Engine) (clip : Clip) (tris : List (Vertex × Vertex × Vertex)) (slot : Nat) :
    Act Unit := do
  match e.targets[slot]?.join with
  | some t =>
    if t.enabled then
      let written := (← rasterizeInto clip t.surface tris).foldl (· + ·) 0
      t.surface.view.invalidate t.surface.view.size
      note .trace .engine ("render target " ++ toString slot ++ ": " ++ toString written ++
        " pixels written")
  | none => pure ()

/-- Draws indexed primitives; only triangle lists are drawn. -/
def draw (e : Engine) (prim : Primitive) (indexView : View) (width : IndexWidth) (count : Nat) :
    Act Unit := do
  let (positions, colors) ← e.prepare prim
  let indices ← readIndices indexView width count
  let verts ← indices.toList.mapM (e.vertexOf positions colors)
  let tris := trianglesOf e.state verts
  let clip := clipOf e.state.scissor
  note .debug .engine ("draw_elements: " ++ toString indices.size ++ " indices, " ++
    toString tris.length ++ " triangles after culling")
  for slot in List.range targetSlots do
    e.drawTarget clip tris slot

/-- Gives back every buffer the engine holds: attribute buffers by slot, then render targets
by slot. -/
def release (e : Engine) : Act Unit := do
  for p in e.pointers do
    match p with
    | some p => p.view.release
    | none => pure ()
  for t in e.targets do
    match t with
    | some t => t.surface.view.release
    | none => pure ()

end Engine

end TegraGpu.Raster
