import Mathlib
import TegraGpu.Proofs.Commands
/-!
# Every library command keeps the accounts of a session

`Proofs.Commands` proves the steps that move views.  Every other command reads the session, runs
an operation of the machine that keeps the ledger, or changes what the accounts do not read: the
registry, the programs, an engine's flags and uniforms, or a display context in a way that keeps
its framebuffer.  Such a command keeps the books (`Session.books`), hence the accounts.  The
display context's own moves (starting a context, binding and unbinding framebuffers) are proved
here with the other steps that move views.

* `triple_lift_keeps` : an operation of the machine that keeps the ledger, lifted, keeps the
  books and leaves the session as it was but for its machine.
* `keeps_books_updateEngine`, `keeps_books_context` : engine updates that keep the slots, and
  replacing the display context by one with the same framebuffer, keep the books.
* `step_displayInit`, `step_displayBind`, `step_displayUnbind`, `step_displayUpload` : the
  display context's moves.
* `perform_step` : every command but the two raw device calls is a `Step`.
-/

namespace TegraGpu

namespace Exec

variable {σ ε : Type} {P : σ → Prop}

/-- What every run satisfies. -/
theorem Triple.trivial {α : Type} (a : ExceptT ε (StateM σ) α) :
    Triple P a (fun _ _ => True) (fun _ => True) := by
  intro s _
  split <;> exact True.intro

end Exec

namespace Display.Context

open Exec

variable {β α : Type}

/-- The framebuffer bound, which `bound` gives. -/
theorem bound_eq (c : Context β α) :
    Triple (fun _ => True) c.bound (fun fb _ => c.framebuffer = some fb) (fun _ => True) := by
  unfold bound
  split
  · next fb h => exact Triple.pure _ fun _ _ => h
  · exact Triple.throw _ fun _ _ => True.intro

theorem init_framebuffer (options : Options) (chip : Resolver) :
    Triple (fun _ => True) (init options chip : Act (Context β α))
      (fun c _ => c.framebuffer = none) (fun _ => True) :=
  Triple.bind (Triple.trivial _) fun _ => Triple.pure _ fun _ _ => rfl

theorem withPresenter_framebuffer (options : Options) (chip : Resolver) (p : Presenter) :
    Triple (fun _ => True) (withPresenter options chip p : Act (Context β α))
      (fun c _ => c.framebuffer = none) (fun _ => True) :=
  Triple.bind (Triple.trivial _) fun _ => Triple.bind (init_framebuffer _ _) fun _ =>
    Triple.pure _ fun _ h => h

/-- Showing a frame keeps the framebuffer bound. -/
theorem swapBuffers_framebuffer (c : Context β α) :
    Triple (fun _ => True) c.swapBuffers (fun c' _ => c'.framebuffer = c.framebuffer)
      (fun _ => True) := by
  unfold swapBuffers
  refine Triple.bind (Triple.trivial _) fun _ => ?_
  split
  · exact Triple.pure _ fun _ _ => rfl
  · exact Triple.bind (Triple.trivial _) fun _ => Triple.pure _ fun _ _ => rfl

theorem chipId_framebuffer (c : Context β α) :
    Triple (fun _ => True) c.chipId (fun x _ => x.2.framebuffer = c.framebuffer)
      (fun _ => True) := by
  unfold chipId
  refine Triple.bind (Triple.trivial _) fun x => ?_
  obtain ⟨chip, r⟩ := x
  exact Triple.pure _ fun _ _ => rfl

theorem waitForKey_framebuffer (c : Context β α) : c.waitForKey.framebuffer = c.framebuffer := by
  unfold waitForKey
  split <;> rfl

end Display.Context

namespace Script

open Buffer Surface Raster Intercept Exec Act Session

variable {B : Machine → Prop} {α : Type}

/-- The commands that call the device directly, below the buffer objects: they allocate and
free without a store. -/
def Command.direct : Command → Bool
  | .hostCreate _ _ => true
  | .hostFree _ => true
  | _ => false

namespace Session

/-! ### Reading the session keeps everything -/

section Reads

variable {γ : Type} {p : Session → γ}

theorem keeps_buffer (name : String) : Keeps p (Session.buffer name) :=
  Keeps.get.bind fun _ => keeps_named _ _ _

theorem keeps_mapping (name : String) : Keeps p (Session.mapping name) :=
  Keeps.get.bind fun _ => keeps_named _ _ _

theorem keeps_surface (name : String) : Keeps p (Session.surface name) :=
  Keeps.get.bind fun _ => keeps_named _ _ _

theorem keeps_framebuffer (name : String) : Keeps p (Session.framebuffer name) :=
  Keeps.get.bind fun _ => keeps_named _ _ _

theorem keeps_context : Keeps p context := by
  refine Keeps.get.bind fun s => ?_
  split
  · exact Keeps.pure _
  · exact Keeps.throw _

theorem keeps_bufferInfo (v : View) : Keeps p (bufferInfo v) :=
  Keeps.get.bind fun _ => Keeps.pure _

end Reads

/-! ### What the books do not read -/

theorem books_engine (s : Session) {e : Engine} (hv : e.views = s.engine.views)
    (hp : e.pointers.size = s.engine.pointers.size) (ht : e.targets.size = s.engine.targets.size) :
    books { s with engine := e } = books s := by
  have hviews : ({ s with engine := e } : Session).views = s.views := by
    simp only [views, hv]
  simp only [books, hviews, hp, ht]
  rfl

theorem books_display (s : Session) {c : Context}
    (h : displayViews (some c) = displayViews s.display) :
    books { s with display := some c } = books s := by
  have hviews : ({ s with display := some c } : Session).views = s.views := by
    simp only [views, h]
  simp only [books, hviews]
  rfl

/-- The value of an operation that cannot change the machine. -/
theorem triple_ofExcept (r : Except Error α) :
    Triple (fun _ => True) (Act.ofExcept r) (fun x _ => r = .ok x) (fun _ => True) := by
  intro m _
  cases r <;> simp only [Act.run_ofExcept]

/-- An operation of the machine that keeps the ledger, lifted and run from `s`: the session
changes in its machine only, and keeps its books. -/
theorem triple_lift_keeps {a : Act α} {s : Session} (h : Keeps Machine.ledger a) {Q : α → Prop}
    (hQ : Triple (fun _ => True) a (fun x _ => Q x) (fun _ => True)) :
    Triple (· = s) (lift a) (fun x t => Frame s t ∧ books t = books s ∧ Q x)
      (fun t => Frame s t ∧ books t = books s) := by
  have ha : Triple (fun m => m.ledger = s.machine.ledger ∧ True) a
      (fun x m => m.ledger = s.machine.ledger ∧ Q x)
      (fun m => m.ledger = s.machine.ledger ∧ True) :=
    (h s.machine.ledger).and hQ
  refine (triple_lift_at ⟨rfl, trivial⟩ ha).mono (fun _ h => h) (fun x t ⟨hf, hl, hq⟩ => ?_)
    fun t ⟨hf, hl, _⟩ => ?_
  · exact ⟨hf, by rw [hf.eq]; exact books_machine s hl, hq⟩
  · exact ⟨hf, by rw [hf.eq]; exact books_machine s hl⟩


/-- What the accounts read is kept: the start accounts hold of the machine. -/
theorem books_good (hB : Kept B) {s₀ s : Session} (h₀ : Good B s₀)
    (hs : books s = books s₀) : Buffer.Good B s₀.views s₀.maps s.machine := by
  simp only [books, Prod.mk.injEq] at hs
  obtain ⟨-, -, hl, -⟩ := hs
  have hst : s.machine.stores = s₀.machine.stores := congrArg Prod.fst hl
  exact ⟨hst ▸ h₀.1.1, hB.frame h₀.1.2 hl⟩

/-- A step that keeps the books, then gives a value whose steps all keep the accounts. -/
theorem Step.bind_keeps (hB : Kept B) {β : Type} {a : StepM α} {f : α → StepM β}
    {R : α → Prop} (ha : Keeps books a)
    (hR : Triple (fun _ => True) a (fun x _ => R x) (fun _ => True))
    (hf : ∀ x, R x → Step B (f x)) : Step B (a >>= f) := by
  intro s₀ h₀
  refine Triple.bind (((ha (books s₀)).and hR).mono (fun _ h => ⟨by rw [h], trivial⟩)
    (fun _ _ h => h) fun _ h => books_good hB h₀ h.1) fun x => ?_
  refine Triple.of_forall fun s ⟨hs, hx⟩ => ?_
  have hg : Good B s := h₀.of_books hB hs
  have hv : s.views = s₀.views ∧ s.maps = s₀.maps := by
    simp only [books, Prod.mk.injEq] at hs
    exact ⟨hs.1, hs.2.1⟩
  exact (hf x hx s hg).mono (fun _ h => h) (fun _ _ h => h) fun _ h => by
    rw [← hv.1, ← hv.2]
    exact h

theorem Frame.display {s₀ s : Session} (h : Frame s₀ s) : s.display = s₀.display := by
  rw [← h]

theorem Frame.engine_eq {s₀ s : Session} (h : Frame s₀ s) : s.engine = s₀.engine := by
  rw [← h]

/-! ### Buffers, surfaces and drawing under mappings of their own -/

theorem keeps_books_bufferRead (buffer : String) : Keeps books (bufferRead buffer) :=
  (keeps_buffer _).bind fun v =>
    (keeps_books_lift (keeps_ledger_withMap v (Keeps.get.bind fun _ => Keeps.pure _))).bind
      fun _ => Keeps.pure _

theorem keeps_books_copyInto (v : View) (offset : Nat) (data : ByteArray) :
    Keeps books (copyInto v offset data) := by
  unfold copyInto
  exact Keeps.ite (Keeps.throw_bind _) (keeps_books_lift (keeps_ledger_writeBytes _ _ _))

theorem keeps_books_rasterize (surface : String) (clip : Option Clip)
    (tris : List (Vertex × Vertex × Vertex)) : Keeps books (rasterize surface clip tris) :=
  (keeps_surface _).bind fun p =>
    (keeps_books_lift (keeps_ledger_rasterizeInto _ p tris)).bind fun _ => Keeps.pure _

theorem keeps_books_engineDraw (prim : Primitive) (indices : String) (width : IndexWidth)
    (count : Nat) : Keeps books (engineDraw prim indices width count) :=
  (keeps_buffer _).bind fun v => Keeps.get.bind fun s =>
    (keeps_books_lift (keeps_ledger_draw s.engine prim v width count)).bind fun _ => Keeps.pure _

/-! ### Engine updates, programs and the registry -/

theorem keeps_books_updateEngine {f : Engine → Except Error Engine} (hf : Engine.Steady f) :
    Keeps books (updateEngine f) := by
  refine Keeps.of_triple fun s₀ => ?_
  unfold updateEngine setEngine
  refine Triple.bind Triple.get fun s => Triple.of_forall fun t ⟨ht, hs⟩ => ?_
  subst ht hs
  refine Triple.bind ((triple_lift_keeps (keeps_ofExcept _) (triple_ofExcept _)).mono
    (fun _ h => h) (fun _ _ h => h) fun _ h => h.2) fun e => ?_
  refine Triple.of_forall fun u ⟨hu, hb, he⟩ => ?_
  -- the new engine holds the views of the old one in as many slots
  obtain ⟨hv, hp, ht⟩ := hf _ _ he
  rw [← hu.engine_eq] at hv hp ht
  refine Triple.bind (Triple.modify (Q := fun _ w => books w = books s) fun _ h => ?_)
    fun _ => Triple.pure _ fun _ h => h
  rw [h, books_engine u hv hp ht, hb]

theorem keeps_books_programNew (name : String) (vs fs linker : ShaderText) (link : Bool) :
    Keeps books (programNew name vs fs linker link) := by
  unfold programNew
  refine (keeps_books_lift ?_).bind fun _ => Keeps.bind ?_ fun _ => Keeps.pure _
  · exact (Shader.keeps_ledger_load _ _ _).bind fun _ => (Shader.keeps_ledger_load _ _ _).bind
      fun _ => (Shader.keeps_ledger_load _ _ _).bind fun _ => Shader.keeps_ledger_assemble _ _ _ _
  · exact Keeps.modify fun _ => rfl

theorem keeps_books_engineBindProgram (program : String) :
    Keeps books (engineBindProgram program) := by
  unfold engineBindProgram
  refine Keeps.get.bind fun _ => (keeps_named _ _ _).bind fun _ => Keeps.bind ?_ fun _ =>
    Keeps.pure _
  exact Keeps.modify fun s => books_engine s rfl rfl rfl

theorem keeps_books_setFiles (r : Registry Behaviour Handler) : Keeps books (setFiles r) :=
  Keeps.modify fun _ => rfl

section Events

variable {γ : Type} {p : Session → γ} (hp : ∀ s ev, p { s with events := ev } = p s)
include hp

theorem keeps_event (e : String) : Keeps p (event e) :=
  Keeps.modify fun s => hp s _

theorem keeps_openedEvent (path : String) (fd : Int) (o : Registry.Opened Behaviour) :
    Keeps p (openedEvent path fd o) := by
  cases o with
  | unmatched => exact Keeps.pure _
  | refused _ _ => exact keeps_event hp _
  | wrapped _ => exact keeps_event hp _

theorem keeps_releaseHandler (f : Option (WrappedFile Handler)) : Keeps p (releaseHandler f) := by
  cases f with
  | none => exact Keeps.pure _
  | some _ => exact keeps_event hp _

end Events

theorem keeps_books_filesRegister (entries : List (String × Behaviour)) :
    Keeps books (filesRegister entries) :=
  Keeps.get.bind fun _ => (keeps_books_setFiles _).bind fun _ => Keeps.pure _

theorem keeps_books_filesCall {β : Type} (fd : Int) (call : Handler → Handler × β) :
    Keeps books (filesCall fd call) :=
  Keeps.get.bind fun _ => (keeps_books_setFiles _).bind fun _ => Keeps.pure _

theorem keeps_books_filesOpen (path : String) (fd : Int) : Keeps books (filesOpen path fd) := by
  unfold filesOpen
  refine Keeps.get.bind fun s => (keeps_books_lift (Registry.keeps_ledger_openPath _ _ _ _)).bind
    fun x => ?_
  obtain ⟨r, o⟩ := x
  refine (keeps_openedEvent (fun _ _ => rfl) path fd o).bind fun _ =>
    (keeps_books_setFiles r).bind fun _ => ?_
  split <;> exact Keeps.pure _

theorem keeps_books_filesDup (fd newFd : Int) : Keeps books (filesDup fd newFd) :=
  Keeps.get.bind fun _ => (keeps_books_lift (Registry.keeps_ledger_dup _ _ _)).bind fun r =>
    (keeps_books_setFiles r).bind fun _ => Keeps.pure _

theorem keeps_books_fileDuplicate (fd newFd : Int) : Keeps books (fileDuplicate fd newFd) := by
  unfold fileDuplicate
  refine Keeps.get.bind fun s => ?_
  dsimp only
  split
  · exact (keeps_books_lift (Registry.keeps_ledger_duplicate _ _ _)).bind fun r =>
      (keeps_books_setFiles r).bind fun _ => Keeps.pure _
  · exact Keeps.pure _

theorem keeps_books_filesClose (fd : Int) : Keeps books (filesClose fd) := by
  unfold filesClose
  refine Keeps.get.bind fun s => (keeps_books_lift (Registry.keeps_ledger_close _ _)).bind
    fun x => ?_
  obtain ⟨r, found, released⟩ := x
  exact (keeps_books_setFiles r).bind fun _ =>
    (keeps_releaseHandler (fun _ _ => rfl) released).bind fun _ => Keeps.pure _

theorem keeps_books_filesWrite (fd : Int) (data : ByteArray) : Keeps books (filesWrite fd data) :=
  Keeps.get.bind fun _ => (keeps_books_lift (Registry.keeps_ledger_noteWrite _ _ _)).bind
    fun _ => (keeps_books_filesCall _ _).bind fun _ => Keeps.pure _

/-! ### The display context -/

theorem displayViews_of_framebuffer {c c' : Context} (h : c'.framebuffer = c.framebuffer) :
    displayViews (some c') = displayViews (some c) := by
  simp only [displayViews, h]

theorem views_display (s : Session) (d : Option Context) :
    ({ s with display := d } : Session).views + displayViews s.display =
      s.views + displayViews d := by
  simp only [views]
  abel

theorem le_views_display (s : Session) : displayViews s.display ≤ s.views :=
  le_add_left le_rfl

/-- Replacing the display context by one whose framebuffer holds the same views. -/
theorem triple_setContext_books {s₀ s : Session} {c c' : Context} (hs : s.display = some c)
    (hb : books s = books s₀) (hv : displayViews (some c') = displayViews (some c))
    {E : Session → Prop} :
    Triple (· = s) (setContext c') (fun _ t => books t = books s₀) E :=
  Triple.modify fun _ h => by
    rw [h, books_display s (by rw [hs, hv]), hb]

/-- Changing the display context in a way that keeps its framebuffer keeps the books. -/
theorem keeps_books_setContext {g : Context → Context}
    (hg : ∀ c, (g c).framebuffer = c.framebuffer) (r : Reply) :
    Keeps books (do setContext (g (← context)); pure r) := by
  refine Keeps.of_triple fun s₀ => Triple.bind (triple_context s₀ rfl) fun c => ?_
  refine Triple.of_forall fun s ⟨hs, hc⟩ => ?_
  subst hs
  exact Triple.bind (triple_setContext_books hc rfl (displayViews_of_framebuffer (hg c))) fun _ =>
    Triple.pure _ fun _ h => h

theorem keeps_books_displaySwap : Keeps books displaySwap := by
  refine Keeps.of_triple fun s₀ => ?_
  unfold displaySwap
  refine Triple.bind (triple_context s₀ rfl) fun c => Triple.of_forall fun s ⟨hs, hc⟩ => ?_
  subst hs
  refine Triple.bind ((triple_lift_keeps (Display.Context.keeps_ledger_bound c)
    (Display.Context.bound_eq c)).mono (fun _ h => h) (fun _ _ h => h) fun _ h => h.2) fun fb => ?_
  refine Triple.of_forall fun t ⟨hf, hb, hfb⟩ => ?_
  -- the swapped framebuffer holds the same views
  have hv : displayViews (some { c with framebuffer := some fb.swap }) = displayViews (some c) := by
    simp only [displayViews, hfb, Option.map_some, Option.getD_some, Framebuffer.views_swap]
  exact Triple.bind (triple_setContext_books (hf.display.trans hc) hb hv) fun _ =>
    Triple.pure _ fun _ h => h

theorem keeps_books_displaySwapBuffers : Keeps books displaySwapBuffers := by
  refine Keeps.of_triple fun s₀ => ?_
  unfold displaySwapBuffers
  refine Triple.bind (triple_context s₀ rfl) fun c => Triple.of_forall fun s ⟨hs, hc⟩ => ?_
  subst hs
  refine Triple.bind ((triple_lift_keeps (Display.Context.keeps_ledger_swapBuffers c)
    (Display.Context.swapBuffers_framebuffer c)).mono (fun _ h => h) (fun _ _ h => h)
    fun _ h => h.2) fun c' => ?_
  refine Triple.of_forall fun t ⟨hf, hb, hc'⟩ => ?_
  exact Triple.bind (triple_setContext_books (hf.display.trans hc) hb
    (displayViews_of_framebuffer hc')) fun _ => Triple.pure _ fun _ h => h

theorem keeps_books_displayWaitForKey : Keeps books displayWaitForKey := by
  refine Keeps.of_triple fun s₀ => ?_
  unfold displayWaitForKey
  refine Triple.bind (triple_context s₀ rfl) fun c => Triple.of_forall fun s ⟨hs, hc⟩ => ?_
  subst hs
  exact Triple.bind (triple_setContext_books hc rfl
    (displayViews_of_framebuffer (Display.Context.waitForKey_framebuffer c))) fun _ =>
    Triple.pure _ fun _ h => h

theorem keeps_books_displayChipId : Keeps books displayChipId := by
  refine Keeps.of_triple fun s₀ => ?_
  unfold displayChipId
  refine Triple.bind (triple_context s₀ rfl) fun c => Triple.of_forall fun s ⟨hs, hc⟩ => ?_
  subst hs
  refine Triple.bind ((triple_lift_keeps (Display.Context.keeps_ledger_chipId c)
    (Display.Context.chipId_framebuffer c)).mono (fun _ h => h) (fun _ _ h => h)
    fun _ h => h.2) fun x => ?_
  obtain ⟨chip, c'⟩ := x
  refine Triple.of_forall fun t ⟨hf, hb, hc'⟩ => ?_
  exact Triple.bind (triple_setContext_books (hf.display.trans hc) hb
    (displayViews_of_framebuffer hc')) fun _ => Triple.pure _ fun _ h => h

theorem keeps_books_displayFilesOpen (path : String) (b : Behaviour) (fd : Int) :
    Keeps books (displayFilesOpen path b fd) := by
  refine Keeps.of_triple fun s₀ => ?_
  unfold displayFilesOpen
  refine Triple.bind (triple_context s₀ rfl) fun c => Triple.of_forall fun s ⟨hs, hc⟩ => ?_
  subst hs
  refine Triple.bind ((triple_lift_keeps (Registry.keeps_ledger_openPath _ _ _ _)
    (Triple.trivial _)).mono (fun _ h => h) (fun _ _ h => h) fun _ h => h.2) fun x => ?_
  obtain ⟨r, o⟩ := x
  refine Triple.of_forall fun t ⟨hf, hb, _⟩ => ?_
  -- recording the open keeps the books and the context
  have hev : Keeps (fun u : Session => (books u, u.display)) (openedEvent path fd o) :=
    keeps_openedEvent (fun _ _ => rfl) path fd o
  refine Triple.bind ((hev (books t, t.display)).mono (fun _ h => by rw [h])
    (fun _ _ h => h) fun _ h => by simp only [Prod.mk.injEq] at h; exact h.1.trans hb) fun _ => ?_
  refine Triple.of_forall fun u hu => ?_
  simp only [Prod.mk.injEq] at hu
  exact Triple.bind (triple_setContext_books (hu.2.trans (hf.display.trans hc)) (hu.1.trans hb)
    (displayViews_of_framebuffer (c := c)
      (rfl : ({ c with files := r } : Context).framebuffer = c.framebuffer))) fun _ =>
    Triple.pure _ fun _ h => h

/-! ### The display context's moves -/

/-- A framebuffer that leaves the display context is stored under a name or given back. -/
theorem keepOrRelease_good (hB : Kept B) (fb : Option Framebuffer) (as : Option String)
    {E : Session → Prop} :
    Triple (fun s => Buffer.Good B ((fb.map Framebuffer.views).getD 0 + s.views) s.maps
      s.machine ∧ s.Shaped) (keepOrRelease fb as) (fun _ => Good B) E := by
  unfold keepOrRelease
  cases fb with
  | none =>
    exact Triple.pure _ fun _ ⟨hg, hsh⟩ => ⟨by simpa using hg, hsh⟩
  | some p =>
    dsimp only
    cases as with
    | some name =>
      exact Triple.bind ((putFramebuffer_good hB name p).mono (fun _ h => h) (fun _ _ h => h)
        fun _ h => h.elim) fun _ => Triple.pure _ fun _ h => h
    | none =>
      refine Triple.of_forall fun s ⟨hg, hsh⟩ => ?_
      exact Triple.bind ((triple_lift_frame s (Framebuffer.release_good hB p)).mono
        (fun _ h => by rw [h]; exact ⟨Frame.refl _, hg⟩) (fun _ _ h => h.1.good h.2 hsh)
        fun _ h => h.2.elim) fun _ => Triple.pure _ fun _ h => h

/-- The value of a lifted operation. -/
theorem triple_lift_value {a : Act α} {Q : α → Prop}
    (h : Triple (fun _ => True) a (fun x _ => Q x) (fun _ => True)) :
    Triple (fun _ => True) (lift a) (fun x _ => Q x) (fun _ => True) :=
  (triple_lift (R := fun _ => True) (fun _ _ _ => True.intro) h).mono
    (fun _ _ => ⟨True.intro, True.intro⟩) (fun _ _ h => h.2) fun _ _ => True.intro

theorem step_displayInit (hB : Kept B) (options : Option OptionsInput)
    (presenter : Option Display.Presenter) (chipFiles : Option (List (Option String))) :
    Step B (displayInit options presenter chipFiles) := by
  unfold displayInit
  -- the steps after each choice are the definition's join points
  extract_lets replace placed
  -- a new context takes the old one's place, whose framebuffer goes back
  have hreplace : ∀ c : Context, c.framebuffer = none → Step B (replace c) := by
    intro c hc s₀ h₀
    dsimp only [replace]
    refine Triple.bind Triple.get fun s => Triple.of_forall fun t ⟨ht, hs⟩ => ?_
    subst ht hs
    let s₁ : Session := { s with display := some c }
    have hviews : displayViews s.display + s₁.views = s.views := by
      have h := views_display s (some c)
      rw [add_comm]
      simpa [displayViews, hc] using h
    have hsh₁ : s₁.Shaped :=
      ⟨h₀.2.buffers, h₀.2.mappings, h₀.2.surfaces, h₀.2.framebuffers, h₀.2.engine⟩
    have hg : Buffer.Good B (displayViews s.display + s₁.views) s₁.maps s₁.machine := by
      rw [hviews]
      exact h₀.1
    refine Triple.bind (Triple.modify (Q := fun _ w => w = s₁) fun _ h => by rw [h]) fun _ => ?_
    refine Triple.of_forall fun w hw => ?_
    subst hw
    rcases hd : s.display with _ | o
    · simp only [hd, displayViews, zero_add] at hg
      exact Triple.pure _ fun _ h => h ▸ ⟨hg, hsh₁⟩
    dsimp only
    rcases hfb : o.framebuffer with _ | fb
    · simp only [hd, displayViews, hfb, Option.map_none, Option.getD_none, zero_add] at hg
      exact Triple.pure _ fun _ h => h ▸ ⟨hg, hsh₁⟩
    simp only [hd, displayViews, hfb, Option.map_some, Option.getD_some] at hg
    dsimp only
    exact Triple.bind ((triple_lift_frame s₁ (Framebuffer.release_good hB fb)).mono
      (fun _ h => by rw [h]; exact ⟨Frame.refl _, hg⟩) (fun _ _ h => h.1.good h.2 hsh₁)
      fun _ h => h.2.elim) fun _ => Triple.pure _ fun _ h => h
  have hplaced : ∀ o, Step B (placed o) := by
    intro o
    dsimp -zeta only [placed]
    extract_lets chosen
    -- the new context, headless or with a presenter, holds no framebuffer
    have hchosen : ∀ paths, Step B (chosen paths) := by
      intro paths
      dsimp only [chosen]
      split
      · exact Step.bind_keeps hB
          (keeps_books_lift (Display.Context.keeps_ledger_withPresenter _ _ _))
          (triple_lift_value (Display.Context.withPresenter_framebuffer _ _ _)) hreplace
      · exact Step.bind_keeps hB (keeps_books_lift (Display.Context.keeps_ledger_init _ _))
          (triple_lift_value (Display.Context.init_framebuffer _ _)) hreplace
    -- placing the chip files changes the working directory only
    split
    · refine Step.bind_keeps hB (R := fun _ => True) ?_ (Triple.trivial _) fun _ _ =>
        Step.bind_keeps hB (R := fun _ => True) (Keeps.pure _) (Triple.trivial _) fun paths _ =>
          hchosen paths
      exact Keeps.modify fun s => books_machine s rfl
    · exact Step.bind_keeps hB (R := fun _ => True) (Keeps.pure _) (Triple.trivial _)
        fun paths _ => hchosen paths
  -- reading the options keeps the books
  split
  · exact Step.bind_keeps hB (R := fun _ => True) (keeps_books_lift (keeps_ofExcept _))
      (Triple.trivial _) fun o _ => hplaced o
  · exact Step.bind_keeps hB (R := fun _ => True) (Keeps.pure _) (Triple.trivial _)
      fun o _ => hplaced o
  · exact Step.bind_keeps hB (R := fun _ => True) (Keeps.pure _) (Triple.trivial _)
      fun o _ => hplaced o

theorem step_displayBind (hB : Kept B) (framebuffer : String) (previousAs : Option String) :
    Step B (displayBind framebuffer previousAs) := by
  intro s₀ h₀
  unfold displayBind
  refine Triple.bind (triple_context s₀ h₀.1) fun c => Triple.of_forall fun s ⟨hs, hc⟩ => ?_
  subst hs
  refine Triple.bind (triple_framebuffer framebuffer s h₀.1) fun fb =>
    Triple.of_forall fun t ⟨ht, k, hk⟩ => ?_
  subst ht
  -- the framebuffer leaves its name for the context, whose old framebuffer is handed on
  let s₁ : Session := { t with framebuffers := eraseNamed t.framebuffers framebuffer }
  let s₂ : Session := { s₁ with display := some { c with framebuffer := some fb } }
  have hviews : displayViews (some c) + s₂.views = t.views := by
    have h := namedViews_eraseNamed (g := Framebuffer.views) h₀.2.framebuffers framebuffer
    rw [hk] at h
    simp only [Option.map_some, Option.getD_some] at h
    simp only [s₂, s₁, views, hc, displayViews, Option.map_some, Option.getD_some, ← h]
    abel
  have hsh₂ : s₂.Shaped := ⟨h₀.2.buffers, h₀.2.mappings, h₀.2.surfaces,
    distinct_eraseNamed h₀.2.framebuffers framebuffer, h₀.2.engine⟩
  refine Triple.bind (Triple.modify (Q := fun _ w => w = s₁) fun _ h => by rw [h]) fun _ => ?_
  refine Triple.of_forall fun w hw => ?_
  subst hw
  dsimp only [Display.Context.bind]
  refine Triple.bind (Triple.modify (Q := fun _ w => w = s₂) fun _ h => by rw [h]) fun _ => ?_
  refine Triple.of_forall fun w hw => ?_
  subst hw
  have hg : Buffer.Good B ((c.framebuffer.map Framebuffer.views).getD 0 + s₂.views) s₂.maps
      s₂.machine := by
    rw [← displayViews, hviews]
    exact h₀.1
  exact (keepOrRelease_good hB c.framebuffer previousAs).mono (fun _ h => h ▸ ⟨hg, hsh₂⟩)
    (fun _ _ h => h) fun _ h => h

theorem step_displayUnbind (hB : Kept B) (as : Option String) : Step B (displayUnbind as) := by
  intro s₀ h₀
  unfold displayUnbind
  refine Triple.bind (triple_context s₀ h₀.1) fun c => Triple.of_forall fun s ⟨hs, hc⟩ => ?_
  subst hs
  dsimp only [Display.Context.unbind]
  -- the context keeps no framebuffer, and its old one is handed on
  let s₁ : Session := { s with display := some { c with framebuffer := none } }
  have hviews : displayViews (some c) + s₁.views = s.views := by
    have h := views_display s (some { c with framebuffer := none })
    rw [hc, add_comm] at h
    simpa [displayViews] using h
  have hsh₁ : s₁.Shaped :=
    ⟨h₀.2.buffers, h₀.2.mappings, h₀.2.surfaces, h₀.2.framebuffers, h₀.2.engine⟩
  refine Triple.bind (Triple.modify (Q := fun _ w => w = s₁) fun _ h => by rw [h]) fun _ => ?_
  refine Triple.of_forall fun w hw => ?_
  subst hw
  have hg : Buffer.Good B ((c.framebuffer.map Framebuffer.views).getD 0 + s₁.views) s₁.maps
      s₁.machine := by
    rw [← displayViews, hviews]
    exact h₀.1
  exact (keepOrRelease_good hB c.framebuffer as).mono (fun _ h => h ▸ ⟨hg, hsh₁⟩)
    (fun _ _ h => h) fun _ h => h

theorem step_displayUpload (hB : Kept B) (name : String) (data : ByteArray) :
    Step B (displayUpload name data) := by
  unfold displayUpload
  refine Step.bind_keeps hB (R := fun _ => True) keeps_context (Triple.trivial _) fun _ _ => ?_
  intro s₀ h₀
  have hnew : Triple (Buffer.Good B s₀.views s₀.maps) (Display.Context.attribData data)
      (fun v => Buffer.Good B (v ::ₘ s₀.views) s₀.maps)
      (Buffer.Good B s₀.views s₀.maps) :=
    allocateWith_good hB {} data
  exact Triple.bind ((triple_lift_at h₀.1 hnew).mono (fun _ h => h) (fun _ _ h => h)
    fun _ h => h.2) fun v => putBuffer_frame hB h₀.2 name v

theorem step_framebufferSurface (hB : Kept B) (framebuffer : String) (which : Which)
    (name : String) : Step B (perform (.framebufferSurface framebuffer which name)) := by
  intro s₀ h₀
  refine Triple.bind (triple_framebuffer framebuffer s₀ h₀.1) fun fb => ?_
  refine Triple.of_forall fun s ⟨hs, k, hk⟩ => ?_
  subst hs
  exact storeSurfaceOf_good hB h₀ (le_views_of_framebuffer hk) which name

theorem step_displaySurface (hB : Kept B) (which : Which) (name : String) :
    Step B (perform (.displaySurface which name)) := by
  intro s₀ h₀
  refine Triple.bind (triple_context s₀ h₀.1) fun c => Triple.of_forall fun s ⟨hs, hc⟩ => ?_
  subst hs
  refine Triple.bind ((triple_lift_keeps (Display.Context.keeps_ledger_bound c)
    (Display.Context.bound_eq c)).mono (fun _ h => h) (fun _ _ h => h)
    fun _ h => books_good hB h₀ h.2) fun fb => ?_
  refine Triple.of_forall fun t ⟨hf, hb, hfb⟩ => ?_
  -- the framebuffer is the context's, whose views the session holds
  have hle : fb.views ≤ t.views := by
    have h := le_views_display s
    rw [hc, displayViews, hfb, Option.map_some, Option.getD_some] at h
    rw [hf.views]
    exact h
  exact storeSurfaceOf_good hB (h₀.of_books hB hb) hle which name

/-! ### Every command -/

/-- **Every library command keeps the accounts of a session.**  The commands that move views
have their own steps; every other one keeps the books.  Only the two raw device calls are left
out: they allocate and free behind the stores' back. -/
theorem perform_step (hB : Kept B) (c : Command) (hc : c.direct = false) : Step B (perform c) := by
  cases c with
  | hostCreate _ _ => simp [Command.direct] at hc
  | hostFree _ => simp [Command.direct] at hc
  -- the device
  | setMemoryLimit limit =>
    refine Step.of_keeps hB (Keeps.bind ?_ fun _ => Keeps.pure _)
    exact Keeps.modify fun s => books_machine s rfl
  | setMapFailure fail =>
    refine Step.of_keeps hB (Keeps.bind ?_ fun _ => Keeps.pure _)
    exact Keeps.modify fun s => books_machine s rfl
  | hostStats => exact Step.of_keeps hB (Keeps.get.bind fun _ => Keeps.pure _)
  | hostInvalidate h offset size =>
    exact Step.of_keeps hB ((keeps_books_lift (keeps_ledger_invalidate _ offset size)).bind
      fun _ => Keeps.pure _)
  | hostMap h =>
    exact Step.of_keeps hB ((keeps_books_lift (keeps_ledger_mmap _)).bind fun _ => Keeps.pure _)
  -- buffers and mappings
  | bufferCreate name size flags => exact step_bufferCreate hB name size flags
  | bufferFromData name data flags => exact step_bufferFromData hB name data flags
  | bufferWrap buffer offset name => exact step_bufferWrap hB buffer offset name
  | bufferClone buffer name => exact step_bufferClone hB buffer name
  | bufferInfo buffer =>
    exact Step.of_keeps hB ((keeps_buffer _).bind fun v => (keeps_bufferInfo v).bind fun _ =>
      Keeps.pure _)
  | bufferShares a b =>
    exact Step.of_keeps hB ((keeps_buffer a).bind fun _ => (keeps_buffer b).bind fun _ =>
      Keeps.pure _)
  | bufferDebug buffer => exact Step.of_keeps hB ((keeps_buffer _).bind fun _ => Keeps.pure _)
  | bufferFree buffer => exact step_bufferFree hB buffer
  | bufferInvalidate buffer size =>
    exact Step.of_keeps hB ((keeps_buffer _).bind fun v =>
      (keeps_books_lift (keeps_ledger_viewInvalidate v size)).bind fun _ => Keeps.pure _)
  | bufferRead buffer => exact Step.of_keeps hB (keeps_books_bufferRead buffer)
  | bufferWrite buffer offset data => exact step_bufferWrite hB buffer offset data
  | bufferMap buffer name => exact step_bufferMap hB buffer name
  | bufferUnmap mapping => exact step_bufferUnmap hB mapping
  | mappingRead mapping =>
    exact Step.of_keeps hB ((keeps_mapping _).bind fun _ => Keeps.get.bind fun _ => Keeps.pure _)
  | mappingWrite mapping offset data =>
    exact Step.of_keeps hB ((keeps_mapping _).bind fun v =>
      (keeps_books_copyInto v offset data).bind fun _ => Keeps.pure _)
  | mappingWord mapping offset =>
    exact Step.of_keeps hB ((keeps_mapping _).bind fun _ => Keeps.get.bind fun _ => Keeps.pure _)
  -- surfaces
  | surfaceCreate name w h format layout => exact step_surfaceCreate hB name w h format layout
  | surfaceInfo surface => exact Step.of_keeps hB ((keeps_surface _).bind fun _ => Keeps.pure _)
  | surfaceOffset surface x y =>
    exact Step.of_keeps hB ((keeps_surface _).bind fun _ => Keeps.pure _)
  | surfaceReadPixel surface x y =>
    exact Step.of_keeps hB ((keeps_surface _).bind fun p =>
      (keeps_books_lift (keeps_ledger_readPixel p x y)).bind fun _ => Keeps.pure _)
  | surfaceWritePixel surface x y raw =>
    exact Step.of_keeps hB ((keeps_surface _).bind fun p =>
      (keeps_books_lift (keeps_ledger_writePixel p x y raw)).bind fun _ => Keeps.pure _)
  | surfaceClear surface rgba =>
    obtain ⟨r, g, b, a⟩ := rgba
    exact Step.of_keeps hB ((keeps_surface _).bind fun p =>
      (keeps_books_lift (Surface.keeps_ledger_clear p r g b a)).bind fun _ => Keeps.pure _)
  | surfaceRgba8 surface =>
    exact Step.of_keeps hB ((keeps_surface _).bind fun p =>
      (keeps_books_lift (keeps_ledger_toRgba8 p)).bind fun _ => Keeps.pure _)
  | surfaceBuffer surface name => exact step_surfaceBuffer hB surface name
  | surfaceClone surface name => exact step_surfaceClone hB surface name
  | surfaceFree surface => exact step_surfaceFree hB surface
  | surfaceSave surface path =>
    exact Step.of_keeps hB ((keeps_surface _).bind fun p =>
      (keeps_books_lift (keeps_ledger_save p path)).bind fun _ => Keeps.pure _)
  | rasterize surface clip tris => exact Step.of_keeps hB (keeps_books_rasterize surface clip tris)
  -- framebuffers
  | framebufferCreate name w h format layout double =>
    exact step_framebufferCreate hB name w h format layout double
  | framebufferInfo fb => exact Step.of_keeps hB ((keeps_framebuffer _).bind fun _ => Keeps.pure _)
  | framebufferSwap fb => exact step_framebufferSwap fb
  | framebufferData fb front => exact step_framebufferData hB fb front
  | framebufferSurface fb which name => exact step_framebufferSurface hB fb which name
  | framebufferSave fb path =>
    exact Step.of_keeps hB ((keeps_framebuffer _).bind fun fb =>
      (keeps_books_lift (keeps_ledger_framebufferSave fb path)).bind fun _ => Keeps.pure _)
  | framebufferFree fb => exact step_framebufferFree hB fb
  -- wrapped files
  | filesRegister entries => exact Step.of_keeps hB (keeps_books_filesRegister entries)
  | filesSetVerbose v =>
    exact Step.of_keeps hB (Keeps.get.bind fun _ => (keeps_books_setFiles _).bind fun _ =>
      Keeps.pure _)
  | filesOpen path fd => exact Step.of_keeps hB (keeps_books_filesOpen path fd)
  | filesLookup fd => exact Step.of_keeps hB (Keeps.get.bind fun _ => Keeps.pure _)
  | filesFind path => exact Step.of_keeps hB (Keeps.get.bind fun _ => Keeps.pure _)
  | filesDup fd newFd => exact Step.of_keeps hB (keeps_books_filesDup fd newFd)
  | fileDuplicate fd newFd => exact Step.of_keeps hB (keeps_books_fileDuplicate fd newFd)
  | filesClose fd => exact Step.of_keeps hB (keeps_books_filesClose fd)
  | filesRead fd len =>
    exact Step.of_keeps hB ((keeps_books_filesCall _ _).bind fun _ => Keeps.pure _)
  | filesWrite fd data => exact Step.of_keeps hB (keeps_books_filesWrite fd data)
  | filesControl fd request arg =>
    exact Step.of_keeps hB ((keeps_books_filesCall _ _).bind fun _ => Keeps.pure _)
  | filesDebug fd => exact Step.of_keeps hB (Keeps.get.bind fun _ => Keeps.pure _)
  | fileHandlerWrite fd data =>
    exact Step.of_keeps hB ((keeps_books_filesCall _ _).bind fun _ => Keeps.pure _)
  | filesState probe => exact Step.of_keeps hB (Keeps.get.bind fun _ => Keeps.pure _)
  -- programs and the 3D engine
  | programNew name vs fs linker link =>
    exact Step.of_keeps hB (keeps_books_programNew name vs fs linker link)
  | engineReset => exact step_engineReset hB
  | engineBindProgram program => exact Step.of_keeps hB (keeps_books_engineBindProgram program)
  | engineSet setting =>
    refine Step.of_keeps hB (Keeps.bind ?_ fun _ => Keeps.pure _)
    exact Keeps.modify fun s => books_engine s rfl rfl rfl
  | engineState => exact Step.of_keeps hB (Keeps.get.bind fun _ => Keeps.pure _)
  | engineAttribPointer location size buffer =>
    exact step_engineAttribPointer hB location size buffer
  | engineAttribEnable location on =>
    have h := keeps_books_updateEngine (Engine.steady_setAttribEnabled location on)
    exact Step.of_keeps hB h
  | engineBindTarget slot surface => exact step_engineBindTarget hB slot surface
  | engineTargetEnable slot on =>
    have h := keeps_books_updateEngine (Engine.steady_setTargetEnabled slot on)
    exact Step.of_keeps hB h
  | engineTarget slot => exact Step.of_keeps hB (Keeps.get.bind fun _ => Keeps.pure _)
  | engineVertexUniform location values =>
    have h := keeps_books_updateEngine (Engine.steady_setVertexUniform location values)
    exact Step.of_keeps hB h
  | engineFragmentUniform location values =>
    have h := keeps_books_updateEngine (Engine.steady_setFragmentUniform location values)
    exact Step.of_keeps hB h
  | engineUniforms => exact Step.of_keeps hB (Keeps.get.bind fun _ => Keeps.pure _)
  | engineDraw prim indices width count =>
    exact Step.of_keeps hB (keeps_books_engineDraw prim indices width count)
  -- the display context
  | displayInit options presenter chipFiles => exact step_displayInit hB options presenter chipFiles
  | displayClearColor rgba =>
    exact Step.of_keeps hB (keeps_books_setContext (g := fun c => { c with clearColor := rgba })
      (fun _ => rfl) _)
  | displayClear =>
    exact Step.of_keeps hB (keeps_context.bind fun c =>
      (keeps_books_lift (Display.Context.keeps_ledger_clear c)).bind fun _ => Keeps.pure _)
  | displayBind fb previousAs => exact step_displayBind hB fb previousAs
  | displayUnbind as => exact step_displayUnbind hB as
  | displayFramebuffer =>
    exact Step.of_keeps hB (keeps_context.bind fun c =>
      (keeps_books_lift (Display.Context.keeps_ledger_bound c)).bind fun _ => Keeps.pure _)
  | displaySurface which name => exact step_displaySurface hB which name
  | displaySwap => exact Step.of_keeps hB keeps_books_displaySwap
  | displayFlush => exact Step.of_keeps hB (keeps_context.bind fun _ => Keeps.pure _)
  | displaySetOutput path =>
    exact Step.of_keeps hB (keeps_books_setContext (g := fun c => { c with output := path })
      (fun _ => rfl) _)
  | displaySwapBuffers => exact Step.of_keeps hB keeps_books_displaySwapBuffers
  | displayWaitForKey => exact Step.of_keeps hB keeps_books_displayWaitForKey
  | displayFilesOpen path b fd => exact Step.of_keeps hB (keeps_books_displayFilesOpen path b fd)
  | displayKeyPressed => exact Step.of_keeps hB (keeps_context.bind fun _ => Keeps.pure _)
  | displayChipId => exact Step.of_keeps hB keeps_books_displayChipId
  | displayUpload name data => exact step_displayUpload hB name data

end Session

end Script

end TegraGpu
