import TegraGpu.Script.Surfaces
import TegraGpu.Options.Read
/-!
# Scripted sessions: the display context

Steps that start and use the session's display context.  Starting one replaces the context
before, whose framebuffer is given back.  Binding moves a named framebuffer into the context;
the one it replaces, like the one unbound, is stored under a name when one is given and given
back otherwise.

* `displayInit`, `displayBind`, `displayUnbind`, `displayFilesOpen` : the main steps.
-/

namespace TegraGpu.Script

open Surface Intercept Session

/-- The files `chip0`, `chip1`, … of the working directory as given; `none` removes one. -/
def placeChipFiles (d : Folder) (files : List (Option String)) : Folder :=
  files.zipIdx.foldl (fun d (f, i) =>
    match f with
    | some text => d.put ("chip" ++ toString i) text
    | none => d.remove ("chip" ++ toString i)) d

/-- What the session reports about a display context. -/
def Context.info (c : Context) : DisplayInfo :=
  { options := c.options, presenter := c.presenter.isSome, overlay := c.overlay,
    output := c.output, verbose := c.files.verbose }

/-- Starts a display context, headless or with a presenter, and gives back the framebuffer of
the one it replaces. -/
def displayInit (options : Option OptionsInput) (presenter : Option Display.Presenter)
    (chipFiles : Option (List (Option String))) : StepM Reply := do
  let options ← match options with
    | some (.toml text) => lift (Act.ofExcept (Options.ofToml text))
    | some (.record o) => pure o
    | none => pure {}
  let paths ← match chipFiles with
    | some files =>
      modify fun s => { s with machine.folder := placeChipFiles s.machine.folder files }
      pure ((List.range files.length).map fun i => "chip" ++ toString i)
    | none => pure []
  let c : Context ← match presenter with
    | some p => lift (Display.Context.withPresenter options { paths } p)
    | none => lift (Display.Context.init options { paths })
  let old := (← get).display
  setContext c
  if let some o := old then
    if let some fb := o.framebuffer then lift fb.release
  pure (.display c.info)

/-- Stores a framebuffer that leaves the context under a name, or gives it back. -/
def keepOrRelease (fb : Option Framebuffer) (as : Option String) : StepM Reply := do
  match fb with
  | some p =>
    match as with
    | some name => putFramebuffer name p
    | none => lift p.release
    pure (.framebuffer (some p))
  | none => pure (.framebuffer none)

/-- Moves a named framebuffer into the context. -/
def displayBind (framebuffer : String) (previousAs : Option String) : StepM Reply := do
  let c ← context
  let fb ← Session.framebuffer framebuffer
  modify fun s => { s with framebuffers := eraseNamed s.framebuffers framebuffer }
  let (c, prev) := c.bind fb
  setContext c
  keepOrRelease prev previousAs

/-- Takes the framebuffer out of the context. -/
def displayUnbind (as : Option String) : StepM Reply := do
  let (c, prev) := (← context).unbind
  setContext c
  keepOrRelease prev as

/-- Swaps the surfaces of the context's framebuffer. -/
def displaySwap : StepM Reply := do
  let c ← context
  let fb := (← lift c.bound).swap
  setContext { c with framebuffer := some fb }
  pure (.framebuffer (some fb))

/-- Shows the context's framebuffer, reporting what the presenter was asked so far. -/
def displaySwapBuffers : StepM Reply := do
  let c ← lift (← context).swapBuffers
  setContext c
  pure (.shown (c.presenter.map (·.shown) |>.getD #[]))

/-- Waits for a key, reporting what the presenter was asked so far. -/
def displayWaitForKey : StepM Reply := do
  let c := (← context).waitForKey
  setContext c
  pure (.shown (c.presenter.map (·.shown) |>.getD #[]))

/-- Registers a path in the context's own registry and opens it. -/
def displayFilesOpen (path : String) (b : Behaviour) (fd : Int) : StepM Reply := do
  let c ← context
  let (r, o) ← lift ((c.files.register path b).openPath path fd Behaviour.start)
  openedEvent path fd o
  setContext { c with files := r }
  let file := match o with
    | .wrapped _ => r.fileAt? (r.files.size - 1)
    | _ => none
  pure (.displayFile file r.patterns r.openFiles)

/-- The chip, looked up once per context. -/
def displayChipId : StepM Reply := do
  let (chip, c) ← lift (← context).chipId
  setContext c
  pure (.chip chip)

/-- Uploads bytes into a new named buffer. -/
def displayUpload (name : String) (data : ByteArray) : StepM Reply := do
  let _ ← context
  let v ← lift (Display.Context.attribData data)
  putBuffer name v
  pure (.buffer (← bufferInfo v))

end TegraGpu.Script
