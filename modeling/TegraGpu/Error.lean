import TegraGpu.Host.Handle
import TegraGpu.Raster.Primitive
import TegraGpu.Shader.Basic
import TegraGpu.Text.Quoted
/-!
# Errors

Every operation of the stack fails with one `Error`, whose constructor says what went wrong and
whose fields carry what the message shows.  The reasons of the four kinds that come in many
variants are inductive types of their own, so that a statement can say exactly which failure an
operation gives.

* `AllocFailure`, `MapFailure`, `ArgumentFailure`, `DrawFailure` : the reasons.
* `Location` : the four tables whose locations are checked.
* `Error`, `Error.message` : the errors and their messages.
-/

namespace TegraGpu

open Host

/-- Why an allocation failed. -/
inductive AllocFailure where
  /-- A size of zero bytes. -/
  | zeroSized
  /-- A size that overflows when rounded up to the alignment. -/
  | alignOverflow (align : Nat)
  /-- The memory limit would be passed; `inUse` bytes are allocated. -/
  | outOfMemory (inUse limit : Nat)
  /-- The host has no memory of this size. -/
  | hostRefused (aligned : Nat)
  /-- A pixel buffer with no rows or no columns. -/
  | emptySurface (width height : Nat)
  /-- A pixel buffer whose size does not fit a machine word. -/
  | surfaceOverflow (width height : Nat)
  deriving DecidableEq

/-- The text of an allocation failure. -/
def AllocFailure.message : AllocFailure → String
  | .zeroSized => "zero-sized allocation"
  | .alignOverflow align => "size overflows when aligned to " ++ toString align ++ " bytes"
  | .outOfMemory inUse limit =>
    "out of memory (" ++ toString inUse ++ " of " ++ toString limit ++ " bytes in use)"
  | .hostRefused aligned => "host allocator refused " ++ toString aligned ++ " bytes"
  | .emptySurface w h => "invalid pixel buffer size " ++ toString w ++ "x" ++ toString h
  | .surfaceOverflow w h => "pixel buffer size " ++ toString w ++ "x" ++ toString h ++ " overflows"

/-- Why memory could not be mapped or read. -/
inductive MapFailure where
  /-- The device refuses every mapping. -/
  | refused (h : Handle)
  /-- The handle names no allocation. -/
  | notAllocated (h : Handle)
  /-- The backing store is mapped already. -/
  | alreadyMapped (h : Handle)
  /-- A single-buffered framebuffer was asked for its back buffer. -/
  | noBackBuffer
  /-- A framebuffer without a first word. -/
  | framebufferEmpty
  deriving DecidableEq

/-- The text of a mapping failure. -/
def MapFailure.message : MapFailure → String
  | .refused h => "mmap of " ++ h.label ++ " refused"
  | .notAllocated h => h.label ++ " is not allocated"
  | .alreadyMapped h => h.label ++ " is already mapped"
  | .noBackBuffer => "framebuffer has no back buffer"
  | .framebufferEmpty => "framebuffer is empty"

/-- Why a command-line or manifest argument was refused. -/
inductive ArgumentFailure where
  /-- An expected value that is not `0x` and hexadecimal digits. -/
  | badExpected
  /-- A uniform argument of the wrong form. -/
  | badArgument (arg : String)
  /-- More vertex uniforms than the test holds. -/
  | tooManyVertexUniforms
  /-- More fragment uniforms than the test holds. -/
  | tooManyFragmentUniforms
  deriving DecidableEq

/-- The greatest number of vertex uniforms of a test. -/
def maxVertexUniforms : Nat := 256

/-- The greatest number of fragment uniforms of a test. -/
def maxFragmentUniforms : Nat := 64

/-- The text of an argument failure. -/
def ArgumentFailure.message : ArgumentFailure → String
  | .badExpected => "failed to parse \"expected\" argument"
  | .badArgument arg => "failed to parse argument " ++ arg
  | .tooManyVertexUniforms =>
    "too many vertex uniforms (limit " ++ toString maxVertexUniforms ++ ")"
  | .tooManyFragmentUniforms =>
    "too many fragment uniforms (limit " ++ toString maxFragmentUniforms ++ ")"

/-- Why the engine refused a call. -/
inductive DrawFailure where
  /-- An attribute of a size outside one to four components. -/
  | attributeSize (size location : Nat)
  /-- A render target slot without a pixel buffer. -/
  | targetNotBound (slot : Nat)
  /-- A primitive other than triangles. -/
  | unsupported (p : Raster.Primitive)
  /-- A draw without a program. -/
  | noProgram
  /-- An enabled attribute without a buffer. -/
  | noPointer (location : Nat)
  /-- A program without an enabled position attribute. -/
  | noPosition
  /-- An index buffer shorter than the indices. -/
  | shortIndices (count needed size : Nat)
  /-- An index past the positions. -/
  | beyondVertices (index count : Nat)
  /-- An index past the colours. -/
  | beyondColors (index count : Nat)
  deriving DecidableEq

/-- The text of a draw failure. -/
def DrawFailure.message : DrawFailure → String
  | .attributeSize size location =>
    "invalid attribute size " ++ toString size ++ " for location " ++ toString location
  | .targetNotBound slot => "render target " ++ toString slot ++ " is not bound"
  | .unsupported p => "unsupported primitive " ++ p.name
  | .noProgram => "no program bound"
  | .noPointer location => "attribute " ++ toString location ++ " enabled without a pointer"
  | .noPosition => "no enabled \"position\" attribute"
  | .shortIndices count needed size =>
    toString count ++ " indices need " ++ toString needed ++ " bytes, index buffer has " ++
      toString size
  | .beyondVertices index count =>
    "index " ++ toString index ++ " beyond " ++ toString count ++ " vertices"
  | .beyondColors index count =>
    "index " ++ toString index ++ " beyond " ++ toString count ++ " colors"

/-- The tables of the engine whose locations are checked. -/
inductive Location where
  | attribute
  | renderTarget
  | vertexUniform
  | fragmentUniform
  deriving DecidableEq

/-- The name of a table in messages. -/
def Location.name : Location → String
  | .attribute => "attribute"
  | .renderTarget => "render target"
  | .vertexUniform => "vertex uniform"
  | .fragmentUniform => "fragment uniform"

/-- The number of slots of a file's duplicate table. -/
def dupCapacity : Nat := 8

/-- Why an image could not be saved. -/
inductive ImageFailure where
  /-- The file name has no extension to tell the format by. -/
  | unknownFormat
  /-- The file name's extension names no format that can be written. -/
  | unsupportedExtension (ext : String)
  /-- The file could not be written. -/
  | io (failure : IoFailure)
  deriving DecidableEq

/-- The message of an image failure; an extension is shown as a quoted path. -/
def ImageFailure.message : ImageFailure → String
  | .unknownFormat => "The image format could not be determined"
  | .unsupportedExtension ext =>
    "The file extension `." ++ Text.quoted ext ++ "` was not recognized as an image format"
  | .io failure => failure.message

/-- Why an operation failed. -/
inductive Error where
  /-- Memory could not be allocated; `size` is the size asked for. -/
  | allocation (size : Nat) (reason : AllocFailure)
  /-- Memory could not be mapped. -/
  | map (reason : MapFailure)
  /-- An offset at or past the end of a buffer, or a range past it. -/
  | range (offset size : Nat)
  /-- A pixel outside its surface. -/
  | pixelOutOfBounds (x y width height : Nat)
  /-- A location outside its table. -/
  | invalidLocation (table : Location) (location : Nat)
  /-- A file whose duplicate table is full. -/
  | slotExhaustion (path : String)
  /-- A descriptor that no wrapped file has. -/
  | unknownFd (fd : Int)
  /-- A malformed argument. -/
  | argument (reason : ArgumentFailure)
  /-- A shader error. -/
  | shader (e : Shader.ShaderError)
  /-- A refused engine call. -/
  | draw (reason : DrawFailure)
  /-- A display call without a framebuffer. -/
  | noFramebuffer
  /-- A failed file operation. -/
  | io (failure : IoFailure)
  /-- An image that could not be saved. -/
  | image (reason : ImageFailure)
  /-- A malformed option or manifest file, with what is wrong and where. -/
  | config (detail : String)
  /-- A product of sizes past the largest machine word: the operation stops there, as a build
  with overflow checks stops on its multiplication. -/
  | mulOverflow
  deriving DecidableEq

/-- The message of an error. -/
def Error.message : Error → String
  | .allocation size reason =>
    "Failed to allocate " ++ toString size ++ "-byte buffer object: " ++ reason.message
  | .map reason => "Failed to map buffer object: " ++ reason.message
  | .range offset size =>
    "Wrap offset " ++ toString offset ++ " out of range for " ++ toString size ++
      "-byte buffer object"
  | .pixelOutOfBounds x y w h =>
    "Pixel (" ++ toString x ++ ", " ++ toString y ++ ") outside " ++ toString w ++ "x" ++
      toString h ++ " surface"
  | .invalidLocation table location =>
    "Invalid " ++ table.name ++ " location " ++ toString location
  | .slotExhaustion path =>
    "Out of FD slots for `" ++ path ++ "' (capacity " ++ toString dupCapacity ++ ")"
  | .unknownFd fd => "No wrapped file for fd " ++ toString fd
  | .argument reason => "Parse error: " ++ reason.message
  | .shader e => "Shader error: " ++ e.message
  | .draw reason => "Draw error: " ++ reason.message
  | .noFramebuffer => "No framebuffer bound"
  | .io failure => "I/O error: " ++ failure.message
  | .image reason => "Image export error: " ++ reason.message
  | .config detail => "Configuration error: " ++ detail
  | .mulOverflow => "attempt to multiply with overflow"

end TegraGpu
