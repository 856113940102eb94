import TegraGpu.Bench.Test
import TegraGpu.Bench.Dump
import TegraGpu.Display.Context
import TegraGpu.Raster.Engine
import TegraGpu.Shader.Load
/-!
# Running a shader test

A run draws one quad that covers a 256 by 256 tiled RGBA framebuffer, cleared to grey 0.3,
through the test's program: the quad's corners carry positions and red, green, blue and red
colours, given to the attributes `position` and `color` when the vertex shader has them.  The
test's uniforms are set by name; a name the program lacks is warned about.  The result is the
pixel at the origin of the front surface.  Unless the test is test-only, the program is dumped
before drawing, and afterwards the frame is shown and a key awaited.  A failed comparison dumps
the pixels and the program and logs the failure message.  Whatever happens, the buffers that
the run made are given back at its end: the index buffer, then the engine's.

* `quadVertices`, `quadColors`, `quadIndices`, `benchState` : the fixed scene.
* `Test.run` : the run.
-/

namespace TegraGpu.Bench

open Act Surface Raster Buffer

/-- The side of the framebuffer. -/
def testSize : Nat := 256

/-- The bits of the quad's corner positions, four floats each. -/
def quadVertices : List UInt32 :=
  [0xBF800000, 0x3F800000, 0, 0x3F800000, 0xBF800000, 0xBF800000, 0, 0x3F800000,
   0x3F800000, 0x3F800000, 0, 0x3F800000, 0x3F800000, 0xBF800000, 0, 0x3F800000]

/-- The bits of the quad's corner colours: red, green, blue and red. -/
def quadColors : List UInt32 :=
  [0x3F800000, 0, 0, 0x3F800000, 0, 0x3F800000, 0, 0x3F800000,
   0, 0, 0x3F800000, 0x3F800000, 0x3F800000, 0, 0, 0x3F800000]

/-- The quad's two triangles. -/
def quadIndices : List UInt16 := [0, 1, 2, 1, 2, 3]

/-- The grey level of the clear colour, 0.3. -/
def clearLevel : Float32 := Float32.ofBits 0x3E99999A

/-- The raster state of a run: the whole framebuffer as viewport and scissor, no culling, the
last vertex provoking. -/
def benchState : State :=
  [Setting.depthRange ⟨0⟩ ⟨0x3F800000⟩, .dither 0x779, .pointParams 0x1401,
    .pointSize ⟨0x3F800000⟩, .lineParams 0x2, .lineWidth ⟨0x3F800000⟩,
    .viewportBias ⟨0⟩ ⟨0⟩ ⟨0x3F000000⟩, .viewportScale ⟨0x43800000⟩ ⟨0x43800000⟩ ⟨0x3F000000⟩,
    .guardband true, .frontCw false, .cullFace .none, .scissor 0 testSize 0 testSize,
    .pointCoordRange ⟨0⟩ ⟨0x3F800000⟩ ⟨0⟩ ⟨0x3F800000⟩, .polygonOffset ⟨0⟩ ⟨0⟩,
    .provokingVtxLast true].foldl State.apply {}

/-- Runs `a`; when it fails, `cleanup` runs before the error goes on. -/
def guarded {α : Type} (cleanup : Act Unit) (a : Act α) : Act α :=
  tryCatch a fun e => do
    cleanup
    throw e

/-- Reads a shader file, logging which file failed. -/
def loadLogged (kind : Shader.Kind) (path : String) : Act Shader :=
  tryCatch (Shader.loadFile kind path) fun e => do
    note .error .bench (path ++ " assembler parse failed")
    throw e

/-- Gives an attribute of the program, if it has one, a new buffer of four floats per corner. -/
def attachAttribute (program : Shader.Program) (e : Engine) (name : String)
    (data : List UInt32) : Act Engine := do
  match program.attributeLocation name with
  | none =>
    note .warn .bench ("vertex shader has no \"" ++ name ++ "\" attribute")
    pure e
  | some loc =>
    let v ← guarded e.release (allocateWith {} (Display.Context.wordBytes data))
    let e ← guarded e.release (e.setPointer loc 4 v)
    guarded e.release (Act.ofExcept (e.setAttribEnabled loc true))

/-- Sets the test's vertex and fragment uniforms by name. -/
def applyUniforms (t : Test) (program : Shader.Program) (e : Engine) : Act Engine := do
  let e ← t.vsUniforms.foldlM (fun e u => do
    match program.vertexUniformLocation u.name with
    | some loc =>
      let (a, b, c, d) := u.values
      Act.ofExcept (e.setVertexUniform loc [a, b, c, d])
    | none =>
      note .warn .bench ("unknown vertex uniform \"" ++ u.name ++ "\"")
      pure e) e
  t.fsUniforms.foldlM (fun e u => do
    match program.fragmentUniformLocation u.name with
    | some loc => Act.ofExcept (e.setFragmentUniform loc [u.value])
    | none =>
      note .warn .bench ("unknown fragment uniform \"" ++ u.name ++ "\"")
      pure e) e

variable {β α : Type}

/-- Draws with the prepared engine and reads the outcome from the front surface. -/
def drawAndRead (t : Test) (c : Display.Context β α) (program : Shader.Program) (e : Engine)
    (indices : View) : Act (Outcome × Display.Context β α) := do
  if !t.testOnly then
    note .debug .bench program.rawListing
    note .debug .bench program.listing
  let e ← applyUniforms t program e
  e.draw .triangles indices .half quadIndices.length
  let fb ← c.bound
  let front ← fb.mapData true
  let data := front.view.bytes (← get)
  let result ← match wordAt data 0 with
    | some w => pure w
    | none => do
      front.view.unmap
      throw (.map .framebufferEmpty)
  let passed := match t.expected with
    | some x => x == result
    | none => true
  if !passed then
    note .debug .bench (pixelDump data)
    note .info .bench program.listing
  front.view.unmap
  let outcome : Outcome := { result, expected := t.expected, passed }
  if let some m := t.failureMessage outcome then note .error .bench m
  let c ← if t.testOnly then pure c else do
    let c ← c.swapBuffers
    pure c.waitForKey
  pure (outcome, c)

/-- Runs a test on a display context whose framebuffer is bound. -/
def runBound (t : Test) (c : Display.Context β α) (fb : Framebuffer) :
    Act (Outcome × Display.Context β α) := do
  c.clear
  let vs ← loadLogged .vertex t.vsPath
  let fs ← loadLogged .fragment t.fsPath
  let linker ← loadLogged .linker t.linkerPath
  let program ← Shader.Program.assemble vs fs linker true
  let e : Engine := { program := some program, state := benchState }
  let e ← attachAttribute program e "position" quadVertices
  let e ← attachAttribute program e "color" quadColors
  let target := fb.drawSurface
  target.view.retain
  let (e, _) ← guarded e.release (e.bindTarget 1 target)
  let e ← guarded e.release (Act.ofExcept (e.enableTarget 1))
  let indices ← guarded e.release
    (allocateWith {} (Display.Context.halfBytes quadIndices))
  let cleanup : Act Unit := do
    indices.release
    e.release
  let r ← guarded cleanup (drawAndRead t c program e indices)
  cleanup
  pure r

/-- Runs a test on a display context: a new framebuffer is bound to it, cleared and drawn.  The
context is given back also when the run fails, holding the framebuffer once it was made. -/
def Test.run (t : Test) (c : Display.Context β α) :
    Act (Except Error Outcome × Display.Context β α) := do
  match ← tryCatch (Except.ok <$> Framebuffer.create testSize testSize .rgba8888 .tiled false)
      (fun e => pure (.error e)) with
  | .error e => pure (.error e, c)
  | .ok fb =>
    let c := { c with clearColor := (clearLevel, clearLevel, clearLevel, clearLevel) }
    let (c, previous) := c.bind fb
    if let some p := previous then p.release
    tryCatch (do
        let (o, c') ← runBound t c fb
        pure (.ok o, c'))
      (fun e => pure (.error e, c))

/-- Sets what was given beside a test: an expected pixel replaces the test's, test-only is
added to it, and the uniforms are added in order. -/
def Test.configure (t : Test) (expected : Option UInt32) (testOnly : Bool)
    (vs : List VertexUniform) (fs : List FragmentUniform) : Except Error Test := do
  let t := { t with expected := expected.or t.expected, testOnly := t.testOnly || testOnly }
  let t ← vs.foldlM Test.addVertexUniform t
  fs.foldlM Test.addFragmentUniform t

/-- Runs a test on a new headless context with default options, and gives the outcome with
the context, which still holds the framebuffer. -/
def Test.runHeadless (t : Test) (options : Options := {}) :
    Act (Except Error Outcome × Display.Context β α) := do
  let c ← Display.Context.init options { paths := systemChipPaths }
  t.run c

end TegraGpu.Bench
