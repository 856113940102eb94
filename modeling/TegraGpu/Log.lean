/-!
# Log records

Every layer of the stack reports what it does as records of a level, the component that wrote
them and a text.  The records of one computation are kept in the order they were written; the
command line filters them by level, the session answers all of them.

* `Level` : the five levels, most severe first; `Level.label` names them.
* `Origin` : the components, with `Origin.target` the name under which they log.
* `Record` : one record.
-/

namespace TegraGpu

/-- The severity of a record, most severe first. -/
inductive Level where
  | error
  | warn
  | info
  | debug
  | trace
  deriving DecidableEq

/-- The name of a level as records print it. -/
def Level.label : Level → String
  | .error => "ERROR"
  | .warn => "WARN"
  | .info => "INFO"
  | .debug => "DEBUG"
  | .trace => "TRACE"

/-- The rank of a level: a filter at rank `r` lets through the levels of rank at most `r`. -/
def Level.rank : Level → Nat
  | .error => 1
  | .warn => 2
  | .info => 3
  | .debug => 4
  | .trace => 5

/-- The component that writes a record. -/
inductive Origin where
  /-- The software host device. -/
  | host
  /-- Buffer objects and their backing stores. -/
  | buffer
  /-- Pixel buffers. -/
  | surface
  /-- Framebuffers. -/
  | framebuffer
  /-- The 3D engine. -/
  | engine
  /-- The triangle rasterizer. -/
  | rasterizer
  /-- The shader assembler. -/
  | shader
  /-- Programs of three shaders. -/
  | program
  /-- The shader test bench. -/
  | bench
  /-- The chip identification. -/
  | chip
  /-- Option files. -/
  | options
  /-- The file interception registry. -/
  | intercept
  /-- The display context. -/
  | display
  /-- The command line tool. -/
  | tool
  deriving DecidableEq

/-- The target name under which a component logs. -/
def Origin.target : Origin → String
  | .host => "grate::core::host1x::soft"
  | .buffer => "grate::core::bo"
  | .surface => "grate::core::framebuffer::pixelbuffer"
  | .framebuffer => "grate::core::framebuffer"
  | .engine => "grate::core::gr3d"
  | .rasterizer => "grate::core::gr3d::rasterizer"
  | .shader => "grate::core::shader"
  | .program => "grate::core::shader::program"
  | .bench => "grate::core::asm_test"
  | .chip => "grate::core::chip"
  | .options => "grate::core::config"
  | .intercept => "grate::core::wrap"
  | .display => "grate::core::grate"
  | .tool => "vs_asm_test"

/-- One log record. -/
structure Record where
  /-- Its severity. -/
  level : Level
  /-- The component that wrote it. -/
  origin : Origin
  /-- Its text. -/
  text : String

/-- The records of a computation, oldest first. -/
abbrev Journal := Array Record

end TegraGpu
