import TegraGpu.Shader.Parser
import TegraGpu.Shader.Program
import TegraGpu.Machine
/-!
# Loading shaders and programs

The operations of this module read shaders from text or from the working directory and combine
them into programs, writing the debug records of each step.

* `load`, `loadFile` : a shader from text or from a file.
* `Program.assemble` : the kind checks and, if asked, linking.
-/

namespace TegraGpu.Shader

open Act

/-- Reads a shader from text, recording the reading. -/
def load (kind : Kind) (path source : String) : Act Shader := do
  match parse kind path source with
  | .ok s =>
    emit (parsedRecord path s)
    pure s
  | .error e => throw (.shader e)

/-- Reads a shader from a file of the working directory, recording the reading. -/
def loadFile (kind : Kind) (path : String) : Act Shader := do
  match parseFile (← get).folder kind path with
  | .ok s =>
    emit (parsedRecord path s)
    pure s
  | .error e => throw (.shader e)

/-- Combines three shaders into a program and links it when asked, recording the link. -/
def Program.assemble (vs fs linker : Shader) (link : Bool) : Act Program := do
  match Program.make vs fs linker with
  | .error e => throw (.shader e)
  | .ok p =>
    if link then
      let p := p.link
      emit p.linkedRecord
      pure p
    else pure p

end TegraGpu.Shader
