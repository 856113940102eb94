import TegraGpu.Display.Context
import TegraGpu.Intercept.Loopback
import TegraGpu.Raster.Engine
import TegraGpu.Shader.Program
/-!
# Scripted sessions: commands and replies

A script drives the whole stack through named objects: buffers, mappings, surfaces,
framebuffers and programs are created under names and referred to by them; one file registry,
one 3D engine and at most one display context belong to the session.  A `Command` is one step
of a script and a `Reply` what it answers.

* `Command` : the steps, grouped by the part of the stack they drive.
* `Reply` : the answers, each carrying the domain values that the step reports.
-/

namespace TegraGpu.Script

open Buffer Surface Raster Intercept

/-- A shader given by its kind, the path its errors name, and its text. -/
structure ShaderText where
  /-- The kind of shader. -/
  kind : Shader.Kind
  /-- The path named in its errors. -/
  path : String
  /-- The assembly text. -/
  text : String

/-- Options given as TOML text or as a record. -/
inductive OptionsInput where
  | toml (text : String)
  | record (options : Options)

/-- One surface of a framebuffer: the front, the back, or the one drawn to. -/
inductive Which where
  | front
  | back
  | draw

/-- A step of a script. -/
inductive Command where
  -- the device
  | setMemoryLimit (limit : Option Nat)
  | setMapFailure (fail : Bool)
  | hostStats
  | hostCreate (size align : Nat)
  | hostInvalidate (handle offset size : Nat)
  | hostMap (handle : Nat)
  | hostFree (handle : Nat)
  -- buffers and mappings
  | bufferCreate (name : String) (size : Nat) (flags : Flags)
  | bufferFromData (name : String) (data : ByteArray) (flags : Flags)
  | bufferWrap (buffer : String) (offset : Nat) (name : String)
  | bufferClone (buffer name : String)
  | bufferInfo (buffer : String)
  | bufferShares (a b : String)
  | bufferDebug (buffer : String)
  | bufferFree (buffer : String)
  | bufferInvalidate (buffer : String) (size : Nat)
  | bufferRead (buffer : String)
  | bufferWrite (buffer : String) (offset : Nat) (data : ByteArray)
  | bufferMap (buffer name : String)
  | bufferUnmap (mapping : String)
  | mappingRead (mapping : String)
  | mappingWrite (mapping : String) (offset : Nat) (data : ByteArray)
  | mappingWord (mapping : String) (offset : Nat)
  -- surfaces
  | surfaceCreate (name : String) (width height : Nat) (format : Format) (layout : Layout)
  | surfaceInfo (surface : String)
  | surfaceOffset (surface : String) (x y : Nat)
  | surfaceReadPixel (surface : String) (x y : Nat)
  | surfaceWritePixel (surface : String) (x y : Nat) (raw : UInt32)
  | surfaceClear (surface : String) (rgba : Float32 × Float32 × Float32 × Float32)
  | surfaceRgba8 (surface : String)
  | surfaceBuffer (surface name : String)
  | surfaceClone (surface name : String)
  | surfaceFree (surface : String)
  | surfaceSave (surface path : String)
  | rasterize (surface : String) (clip : Option Clip) (triangles : List (Vertex × Vertex × Vertex))
  -- framebuffers
  | framebufferCreate (name : String) (width height : Nat) (format : Format) (layout : Layout)
      (double : Bool)
  | framebufferInfo (framebuffer : String)
  | framebufferSwap (framebuffer : String)
  | framebufferData (framebuffer : String) (front : Bool)
  | framebufferSurface (framebuffer : String) (which : Which) (name : String)
  | framebufferSave (framebuffer path : String)
  | framebufferFree (framebuffer : String)
  -- wrapped files
  | filesRegister (entries : List (String × Behaviour))
  | filesSetVerbose (verbose : Bool)
  | filesOpen (path : String) (fd : Int)
  | filesLookup (fd : Int)
  | filesFind (path : String)
  | filesDup (fd newFd : Int)
  | fileDuplicate (fd newFd : Int)
  | filesClose (fd : Int)
  | filesRead (fd : Int) (len : Nat)
  | filesWrite (fd : Int) (data : ByteArray)
  | filesControl (fd : Int) (request : Nat) (arg : ByteArray)
  | filesDebug (fd : Int)
  | fileHandlerWrite (fd : Int) (data : ByteArray)
  | filesState (probe : List Int)
  -- programs and the 3D engine
  | programNew (name : String) (vs fs linker : ShaderText) (link : Bool)
  | engineReset
  | engineBindProgram (program : String)
  | engineSet (setting : Setting)
  | engineState
  | engineAttribPointer (location size : Nat) (buffer : String)
  | engineAttribEnable (location : Nat) (on : Bool)
  | engineBindTarget (slot : Nat) (surface : String)
  | engineTargetEnable (slot : Nat) (on : Bool)
  | engineTarget (slot : Nat)
  | engineVertexUniform (location : Nat) (values : List Binary32.Single)
  | engineFragmentUniform (location : Nat) (values : List Binary32.Single)
  | engineUniforms
  | engineDraw (primitive : Primitive) (indices : String) (width : IndexWidth) (count : Nat)
  -- the display context
  | displayInit (options : Option OptionsInput) (presenter : Option Display.Presenter)
      (chipFiles : Option (List (Option String)))
  | displayClearColor (rgba : Float32 × Float32 × Float32 × Float32)
  | displayClear
  | displayBind (framebuffer : String) (previousAs : Option String)
  | displayUnbind (as : Option String)
  | displayFramebuffer
  | displaySurface (which : Which) (name : String)
  | displaySwap
  | displayFlush
  | displaySetOutput (path : String)
  | displaySwapBuffers
  | displayWaitForKey
  | displayFilesOpen (path : String) (behaviour : Behaviour) (fd : Int)
  | displayKeyPressed
  | displayChipId
  | displayUpload (name : String) (data : ByteArray)

/-- What the session reports about a buffer. -/
structure BufferInfo where
  /-- The view. -/
  view : View
  /-- The size of its store. -/
  backing : Nat
  /-- Whether its store is mapped. -/
  mapped : Bool

/-- What the session reports about a display context. -/
structure DisplayInfo where
  /-- The options in force. -/
  options : Options
  /-- Whether a presenter shows the frames. -/
  presenter : Bool
  /-- Whether frames go to an overlay. -/
  overlay : Bool
  /-- Where a headless swap saves. -/
  output : String
  /-- Whether its file registry is verbose. -/
  verbose : Bool

/-- The answer of a step. -/
inductive Reply where
  | nothing
  | flag (b : Bool)
  | number (n : Nat)
  | word (w : UInt32)
  | optWord (w : Option UInt32)
  | text (s : String)
  | blob (data : ByteArray)
  | frame (data : ByteArray) (first : Option UInt32)
  | buffer (info : BufferInfo)
  | mapping (len : Nat)
  | surface (s : Option Surface)
  | framebuffer (fb : Option Framebuffer)
  | stats (live bytes : Nat) (invalidations : Array Host.Invalidation)
  | patterns (n : Nat)
  | file (f : Option (WrappedFile Handler))
  | read (r : Option (Except IoKind ByteArray))
  | wrote (r : Option (Except IoKind Nat))
  | control (r : Option (Except IoKind (Int × ByteArray)))
  | filesState (patterns openFiles : Nat) (probe : List (Int × Option (WrappedFile Handler)))
      (events : Array String)
  | linked (b : Bool)
  | state (s : State) (programBound : Bool)
  | uniforms (vs fs : Array Binary32.Single)
  | rasterized (counts : Array Nat) (clip : Clip)
  | display (info : DisplayInfo)
  | shown (log : Array Display.Shown)
  | displayFile (f : Option (WrappedFile Handler)) (patterns openFiles : Nat)
  | chip (c : Chip)

end TegraGpu.Script
