import Mathlib
import TegraGpu.Proofs.Session
/-!
# Every command keeps the accounts of a session

One lemma per kind of step.  A command that only reads, or changes what the accounts do not
read, keeps the books (`Session.books`).  The others move views: a new object's views join its
name, and the object a name held goes back; a buffer put into the engine or a mapping takes a
reference of its own; a framebuffer moves between a name and the display context.  On failure
every one of them leaves the machine with the accounts of the names as they were, which is what
`Session.step` keeps of a failed step.

* `putBuffer_good`, `putMapping_good`, `putSurface_good`, `putFramebuffer_good` : storing under
  a name.
* `step_*` : the steps that move views.
* `perform_step` : every command but the two raw device calls is a `Step`.
-/

namespace TegraGpu

namespace Script

open Buffer Surface Raster Exec Act Session

variable {B : Machine → Prop} {α : Type}

namespace Session

/-! ### Reading the session -/

/-- The session differs from `s₀` in its machine only. -/
def Frame (s₀ s : Session) : Prop :=
  { s with machine := s₀.machine } = s₀

theorem Frame.refl (s₀ : Session) : Frame s₀ s₀ := rfl

theorem Frame.machine {s₀ s : Session} (h : Frame s₀ s) (m : Machine) :
    Frame s₀ { s with machine := m } := h

theorem Frame.views {s₀ s : Session} (h : Frame s₀ s) : s.views = s₀.views := by
  rw [← h]
  rfl

theorem Frame.maps {s₀ s : Session} (h : Frame s₀ s) : s.maps = s₀.maps := by
  rw [← h]
  rfl

theorem Frame.eq {s₀ s : Session} (h : Frame s₀ s) : s = { s₀ with machine := s.machine } := by
  rw [← h]

theorem Frame.shaped {s₀ s : Session} (h : Frame s₀ s) (h₀ : s₀.Shaped) : s.Shaped := by
  rw [h.eq]
  exact ⟨h₀.buffers, h₀.mappings, h₀.surfaces, h₀.framebuffers, h₀.engine⟩

theorem Frame.trans {s t u : Session} (h : Frame s t) (h' : Frame t u) : Frame s u :=
  calc { u with machine := s.machine }
      = { ({ u with machine := t.machine } : Session) with machine := s.machine } := rfl
    _ = s := by rw [h', h]

/-- Replacing the engine of both sessions keeps a frame. -/
theorem Frame.engine {s w : Session} (h : Frame s w) (e : Engine) :
    Frame { s with engine := e } { w with engine := e } := by
  rw [h.eq]
  rfl

/-- An operation of the machine, lifted, from a session that differs from `s₀` in its machine
only. -/
theorem triple_lift_frame {a : Act α} (s₀ : Session) {P : Machine → Prop} {Q : α → Machine → Prop}
    {E : Machine → Prop} (h : Triple P a Q E) :
    Triple (fun s => Frame s₀ s ∧ P s.machine) (lift a) (fun x s => Frame s₀ s ∧ Q x s.machine)
      (fun s => Frame s₀ s ∧ E s.machine) :=
  triple_lift (fun _ _ hs => hs) h

/-- An operation of the machine, lifted and run from `s`. -/
theorem triple_lift_at {a : Act α} {s : Session} {P : Machine → Prop} {Q : α → Machine → Prop}
    {E : Machine → Prop} (hs : P s.machine) (h : Triple P a Q E) :
    Triple (· = s) (lift a) (fun x t => Frame s t ∧ Q x t.machine)
      (fun t => Frame s t ∧ E t.machine) :=
  (triple_lift_frame s h).mono (fun _ h' => by rw [h']; exact ⟨Frame.refl _, hs⟩) (fun _ _ h => h)
    fun _ h => h

/-- A session that differs from a shaped one in its machine only is good when the accounts of
that one hold of its machine. -/
theorem Frame.good {s₀ s : Session} (h : Frame s₀ s) (hg : Buffer.Good B s₀.views s₀.maps s.machine)
    (h₀ : s₀.Shaped) : Good B s :=
  ⟨by rw [h.views, h.maps]; exact hg, h.shaped h₀⟩

theorem keeps_named {γ : Type} {p : Session → γ} (xs : List (String × α)) (kind name : String) :
    Keeps p (named xs kind name) := by
  unfold named
  split
  · exact Keeps.pure _
  · exact Keeps.throw _

/-- The object found under a name, and the session unchanged. -/
theorem triple_named {P : Session → Prop} (xs : List (String × α)) (kind name : String) :
    Triple P (named xs kind name) (fun a s => P s ∧ ∃ k, xs.find? (·.1 == name) = some (k, a))
      P := by
  unfold named
  split
  · next k a h => exact Triple.pure _ fun _ hs => ⟨hs, k, h⟩
  · exact Triple.throw _ fun _ hs => hs

theorem triple_get_named (f : Session → List (String × α)) (kind name : String) (s₀ : Session) :
    Triple (· = s₀) (do named (f (← get)) kind name)
      (fun a s => s = s₀ ∧ ∃ k, (f s₀).find? (·.1 == name) = some (k, a)) (· = s₀) := by
  refine Triple.bind Triple.get fun s => ?_
  refine Triple.of_forall fun s' ⟨hs', hs⟩ => ?_
  subst hs' hs
  exact (triple_named _ _ _).mono (fun _ h => h) (fun _ _ h => h) fun _ h => h

theorem triple_buffer (name : String) (s₀ : Session) {E : Session → Prop} (hE : E s₀) :
    Triple (· = s₀) (Session.buffer name)
      (fun v s => s = s₀ ∧ ∃ k, s₀.buffers.find? (·.1 == name) = some (k, v)) E :=
  (triple_get_named (fun s => s.buffers) "bo" name s₀).mono (fun _ h => h) (fun _ _ h => h)
    fun _ h => h ▸ hE

theorem triple_mapping (name : String) (s₀ : Session) {E : Session → Prop} (hE : E s₀) :
    Triple (· = s₀) (Session.mapping name)
      (fun v s => s = s₀ ∧ ∃ k, s₀.mappings.find? (·.1 == name) = some (k, v)) E :=
  (triple_get_named (fun s => s.mappings) "map" name s₀).mono (fun _ h => h) (fun _ _ h => h)
    fun _ h => h ▸ hE

theorem triple_surface (name : String) (s₀ : Session) {E : Session → Prop} (hE : E s₀) :
    Triple (· = s₀) (Session.surface name)
      (fun p s => s = s₀ ∧ ∃ k, s₀.surfaces.find? (·.1 == name) = some (k, p)) E :=
  (triple_get_named (fun s => s.surfaces) "pb" name s₀).mono (fun _ h => h) (fun _ _ h => h)
    fun _ h => h ▸ hE

theorem triple_framebuffer (name : String) (s₀ : Session) {E : Session → Prop} (hE : E s₀) :
    Triple (· = s₀) (Session.framebuffer name)
      (fun fb s => s = s₀ ∧ ∃ k, s₀.framebuffers.find? (·.1 == name) = some (k, fb)) E :=
  (triple_get_named (fun s => s.framebuffers) "fb" name s₀).mono (fun _ h => h) (fun _ _ h => h)
    fun _ h => h ▸ hE

/-- The display context, and the session unchanged. -/
theorem triple_context (s₀ : Session) {E : Session → Prop} (hE : E s₀) :
    Triple (· = s₀) context (fun c s => s = s₀ ∧ s₀.display = some c) E := by
  unfold context
  refine Triple.bind Triple.get fun s => ?_
  refine Triple.of_forall fun s' ⟨hs', hs⟩ => ?_
  subst hs' hs
  split
  · next c hc => exact Triple.pure _ fun _ h => ⟨h, hc⟩
  · exact Triple.throw _ fun _ h => h ▸ hE

/-- An object found under a name has its views among the named ones. -/
theorem le_namedViews {g : α → Multiset View} {xs : List (String × α)} {name k : String} {a : α}
    (h : xs.find? (·.1 == name) = some (k, a)) : g a ≤ namedViews g xs := by
  have hmem := List.mem_of_find?_eq_some h
  induction xs with
  | nil => cases hmem
  | cons p xs ih =>
    rw [namedViews_cons]
    rcases List.mem_cons.1 hmem with rfl | hp
    · exact Multiset.le_add_right _ _
    · by_cases hk : (p.1 == name) = true
      · simp only [List.find?_cons, hk] at h
        cases h
        exact Multiset.le_add_right _ _
      · simp only [Bool.not_eq_true] at hk
        simp only [List.find?_cons, hk] at h
        exact (ih h hp).trans (Multiset.le_add_left _ _)

/-- What the session reports about a buffer is read off it. -/
theorem triple_bufferInfo {P : Session → Prop} {E : Session → Prop} (v : View) :
    Triple P (bufferInfo v) (fun _ => P) E :=
  Triple.bind Triple.get fun _ => Triple.pure _ fun _ h => h.1

theorem le_views_buffers (s : Session) : namedViews (fun v => {v}) s.buffers ≤ s.views :=
  le_add_right (le_add_right (le_add_right (le_add_right le_rfl)))

theorem le_views_surfaces (s : Session) : namedViews (fun p => {p.view}) s.surfaces ≤ s.views :=
  le_add_right (le_add_right (le_add_right (le_add_left le_rfl)))

theorem le_views_framebuffers (s : Session) : namedViews Framebuffer.views s.framebuffers ≤ s.views :=
  le_add_right (le_add_right (le_add_left le_rfl))

theorem mem_views_of_buffer {s : Session} {name k : String} {v : View}
    (h : s.buffers.find? (·.1 == name) = some (k, v)) : v ∈ s.views :=
  Multiset.singleton_le.1 ((le_namedViews (g := fun v => ({v} : Multiset View)) h).trans
    (le_views_buffers s))

theorem mem_views_of_surface {s : Session} {name k : String} {p : Surface}
    (h : s.surfaces.find? (·.1 == name) = some (k, p)) : p.view ∈ s.views :=
  Multiset.singleton_le.1 ((le_namedViews (g := fun p : Surface => ({p.view} : Multiset View)) h).trans
    (le_views_surfaces s))

theorem le_views_of_framebuffer {s : Session} {name k : String} {fb : Framebuffer}
    (h : s.framebuffers.find? (·.1 == name) = some (k, fb)) : fb.views ≤ s.views :=
  (le_namedViews h).trans (le_views_framebuffers s)

/-- A view the session holds is a live view of its store. -/
theorem Good.has {s : Session} (h : Good B s) {v : View} (hv : v ∈ s.views) :
    s.machine.stores.Has v :=
  h.1.1.live v (Multiset.mem_add.2 (Or.inl hv))

/-- When a name's list trades `A` for `X`, and `X` lacks exactly `O` from `A`, the session
lacks exactly `O`. -/
theorem views_drop {V V₁ A X O : Multiset View} (h : X + O = A) (hv : V₁ + A = V + X) :
    O + V₁ = V := by
  refine add_right_cancel (b := X) ?_
  calc O + V₁ + X = V₁ + (X + O) := by abel
    _ = V + X := by rw [h, hv]

/-! ### Storing under a name -/

/-- Replacing the buffers' list trades their views. -/
theorem views_buffers (s : Session) (xs : List (String × View)) :
    ({ s with buffers := xs } : Session).views + namedViews (fun v => {v}) s.buffers =
      s.views + namedViews (fun v => {v}) xs := by
  simp only [views]
  abel

theorem views_surfaces (s : Session) (xs : List (String × Surface)) :
    ({ s with surfaces := xs } : Session).views + namedViews (fun p => {p.view}) s.surfaces =
      s.views + namedViews (fun p => {p.view}) xs := by
  simp only [views]
  abel

theorem views_framebuffers (s : Session) (xs : List (String × Framebuffer)) :
    ({ s with framebuffers := xs } : Session).views + namedViews Framebuffer.views s.framebuffers =
      s.views + namedViews Framebuffer.views xs := by
  simp only [views]
  abel

/-- When a name's list trades `A` for `X` and `X` holds the new object's views `G` and hands
back `O`, the session holds `G` more and hands back `O`. -/
theorem views_trade {V V₁ A X O G : Multiset View} (h : X + O = G + A) (hv : V₁ + A = V + X) :
    G + V = O + V₁ := by
  refine add_right_cancel (b := A) ?_
  calc G + V + A = V + (G + A) := by abel
    _ = V + (X + O) := by rw [h]
    _ = O + (V₁ + A) := by rw [hv]; abel
    _ = O + V₁ + A := by abel


theorem putBuffer_good (hB : Kept B) (name : String) (v : View) :
    Triple (fun s => Buffer.Good B (v ::ₘ s.views) s.maps s.machine ∧ s.Shaped) (putBuffer name v)
      (fun _ => Good B) (fun _ => False) := by
  unfold putBuffer
  refine Triple.bind Triple.get fun s₀ => ?_
  split
  next xs old hins =>
  refine Triple.of_forall fun s ⟨⟨hg, hsh⟩, hs⟩ => ?_
  subst hs
  -- the buffer joins its name; the one the name held, if any, is handed back
  let s₁ : Session := { s₀ with buffers := xs }
  have hviews : v ::ₘ s₀.views = ((old.map fun o => ({o} : Multiset View)).getD 0) + s₁.views := by
    have h := namedViews_insertNamed (g := fun v => ({v} : Multiset View)) hsh.buffers name v
    rw [hins] at h
    rw [← Multiset.singleton_add]
    exact views_trade h (views_buffers s₀ xs)
  have hsh₁ : s₁.Shaped :=
    ⟨by simpa [hins] using distinct_insertNamed hsh.buffers name v, hsh.mappings, hsh.surfaces,
      hsh.framebuffers, hsh.engine⟩
  refine Triple.bind (Triple.modify (Q := fun _ s => s = s₁) fun _ h => by rw [h]) fun _ => ?_
  refine Triple.of_forall fun s hs => ?_
  subst hs
  rw [hviews] at hg
  cases old with
  | none =>
    simp only [Option.map_none, Option.getD_none, zero_add] at hg
    exact Triple.pure _ fun _ h => by rw [h]; exact ⟨hg, hsh₁⟩
  | some o =>
    simp only [Option.map_some, Option.getD_some, Multiset.singleton_add] at hg
    have hrel : Triple (Buffer.Good B (o ::ₘ s₁.views) s₁.maps) o.release
        (fun _ => Buffer.Good B s₁.views s₁.maps) (fun _ => False) :=
      release_good hB o
    refine ((triple_lift_frame s₁ hrel).mono (fun _ h => ?_) (fun _ s h => ?_) fun _ h => h.2.elim)
    · rw [h]
      exact ⟨Frame.refl _, hg⟩
    · exact ⟨by rw [h.1.views, h.1.maps]; exact h.2, h.1.shaped hsh₁⟩

theorem putSurface_good (hB : Kept B) (name : String) (p : Surface) :
    Triple (fun s => Buffer.Good B (p.view ::ₘ s.views) s.maps s.machine ∧ s.Shaped)
      (putSurface name p) (fun _ => Good B) (fun _ => False) := by
  unfold putSurface
  refine Triple.bind Triple.get fun s₀ => ?_
  split
  next xs old hins =>
  refine Triple.of_forall fun s ⟨⟨hg, hsh⟩, hs⟩ => ?_
  subst hs
  -- the surface joins its name; the one the name held, if any, is handed back
  let s₁ : Session := { s₀ with surfaces := xs }
  have hviews : p.view ::ₘ s₀.views =
      ((old.map fun o => ({o.view} : Multiset View)).getD 0) + s₁.views := by
    have h := namedViews_insertNamed (g := fun p : Surface => ({p.view} : Multiset View))
      hsh.surfaces name p
    rw [hins] at h
    rw [← Multiset.singleton_add]
    exact views_trade h (views_surfaces s₀ xs)
  have hsh₁ : s₁.Shaped :=
    ⟨hsh.buffers, hsh.mappings, by simpa [hins] using distinct_insertNamed hsh.surfaces name p,
      hsh.framebuffers, hsh.engine⟩
  refine Triple.bind (Triple.modify (Q := fun _ s => s = s₁) fun _ h => by rw [h]) fun _ => ?_
  refine Triple.of_forall fun s hs => ?_
  subst hs
  rw [hviews] at hg
  cases old with
  | none =>
    simp only [Option.map_none, Option.getD_none, zero_add] at hg
    exact Triple.pure _ fun _ h => by rw [h]; exact ⟨hg, hsh₁⟩
  | some o =>
    simp only [Option.map_some, Option.getD_some, Multiset.singleton_add] at hg
    have hrel : Triple (Buffer.Good B (o.view ::ₘ s₁.views) s₁.maps) o.view.release
        (fun _ => Buffer.Good B s₁.views s₁.maps) (fun _ => False) :=
      release_good hB o.view
    refine ((triple_lift_frame s₁ hrel).mono (fun _ h => ?_) (fun _ s h => ?_) fun _ h => h.2.elim)
    · rw [h]
      exact ⟨Frame.refl _, hg⟩
    · exact ⟨by rw [h.1.views, h.1.maps]; exact h.2, h.1.shaped hsh₁⟩

theorem putFramebuffer_good (hB : Kept B) (name : String) (fb : Framebuffer) :
    Triple (fun s => Buffer.Good B (fb.views + s.views) s.maps s.machine ∧ s.Shaped)
      (putFramebuffer name fb) (fun _ => Good B) (fun _ => False) := by
  unfold putFramebuffer
  refine Triple.bind Triple.get fun s₀ => ?_
  split
  next xs old hins =>
  refine Triple.of_forall fun s ⟨⟨hg, hsh⟩, hs⟩ => ?_
  subst hs
  -- the framebuffer joins its name; the one the name held, if any, is handed back
  let s₁ : Session := { s₀ with framebuffers := xs }
  have hviews : fb.views + s₀.views = ((old.map Framebuffer.views).getD 0) + s₁.views := by
    have h := namedViews_insertNamed (g := Framebuffer.views) hsh.framebuffers name fb
    rw [hins] at h
    exact views_trade h (views_framebuffers s₀ xs)
  have hsh₁ : s₁.Shaped :=
    ⟨hsh.buffers, hsh.mappings, hsh.surfaces,
      by simpa [hins] using distinct_insertNamed hsh.framebuffers name fb, hsh.engine⟩
  refine Triple.bind (Triple.modify (Q := fun _ s => s = s₁) fun _ h => by rw [h]) fun _ => ?_
  refine Triple.of_forall fun s hs => ?_
  subst hs
  rw [hviews] at hg
  cases old with
  | none =>
    simp only [Option.map_none, Option.getD_none, zero_add] at hg
    exact Triple.pure _ fun _ h => by rw [h]; exact ⟨hg, hsh₁⟩
  | some o =>
    simp only [Option.map_some, Option.getD_some] at hg
    have hrel : Triple (Buffer.Good B (o.views + s₁.views) s₁.maps) o.release
        (fun _ => Buffer.Good B s₁.views s₁.maps) (fun _ => False) :=
      Framebuffer.release_good hB o
    refine ((triple_lift_frame s₁ hrel).mono (fun _ h => ?_) (fun _ s h => ?_) fun _ h => h.2.elim)
    · rw [h]
      exact ⟨Frame.refl _, hg⟩
    · exact ⟨by rw [h.1.views, h.1.maps]; exact h.2, h.1.shaped hsh₁⟩

/-- Ending a mapping gives its view back to the views, then gives it back to its store. -/
theorem unmapRelease_good (hB : Kept B) (v : View) {vs ms : Multiset View} :
    Triple (Buffer.Good B vs (v ::ₘ ms)) (unmapRelease v) (fun _ => Buffer.Good B vs ms)
      (fun _ => False) :=
  Triple.bind (unmap_good hB v) fun _ => release_good hB v

theorem putMapping_good (hB : Kept B) (name : String) (v : View) :
    Triple (fun s => Buffer.Good B s.views (v ::ₘ s.maps) s.machine ∧ s.Shaped)
      (putMapping name v) (fun _ => Good B) (fun _ => False) := by
  unfold putMapping
  refine Triple.bind Triple.get fun s₀ => ?_
  split
  next xs old hins =>
  refine Triple.of_forall fun s ⟨⟨hg, hsh⟩, hs⟩ => ?_
  subst hs
  -- the mapping joins its name; the one the name held, if any, ends
  let s₁ : Session := { s₀ with mappings := xs }
  have hmaps : v ::ₘ s₀.maps = ((old.map fun o => ({o} : Multiset View)).getD 0) + s₁.maps := by
    have h := namedViews_insertNamed (g := fun v => ({v} : Multiset View)) hsh.mappings name v
    rw [hins] at h
    rw [← Multiset.singleton_add]
    exact views_trade h (add_comm _ _)
  have hsh₁ : s₁.Shaped :=
    ⟨hsh.buffers, by simpa [hins] using distinct_insertNamed hsh.mappings name v, hsh.surfaces,
      hsh.framebuffers, hsh.engine⟩
  refine Triple.bind (Triple.modify (Q := fun _ s => s = s₁) fun _ h => by rw [h]) fun _ => ?_
  refine Triple.of_forall fun s hs => ?_
  subst hs
  rw [hmaps] at hg
  cases old with
  | none =>
    simp only [Option.map_none, Option.getD_none, zero_add] at hg
    exact Triple.pure _ fun _ h => by rw [h]; exact ⟨hg, hsh₁⟩
  | some o =>
    simp only [Option.map_some, Option.getD_some, Multiset.singleton_add] at hg
    have hrel : Triple (Buffer.Good B s₁.views (o ::ₘ s₁.maps)) (unmapRelease o)
        (fun _ => Buffer.Good B s₁.views s₁.maps) (fun _ => False) :=
      unmapRelease_good hB o
    refine ((triple_lift_frame s₁ hrel).mono (fun _ h => ?_) (fun _ s h => ?_) fun _ h => h.2.elim)
    · rw [h]
      exact ⟨Frame.refl _, hg⟩
    · exact ⟨by rw [h.1.views, h.1.maps]; exact h.2, h.1.shaped hsh₁⟩

/-- Storing a new buffer after operations of the machine only. -/
theorem putBuffer_frame (hB : Kept B) {s₀ : Session} (h₀ : s₀.Shaped) (name : String) (v : View)
    {E : Session → Prop} :
    Triple (fun s => Frame s₀ s ∧ Buffer.Good B (v ::ₘ s₀.views) s₀.maps s.machine)
      (do putBuffer name v; pure (Reply.buffer (← bufferInfo v))) (fun _ => Good B) E :=
  Triple.bind ((putBuffer_good hB name v).mono
    (fun _ h => ⟨by rw [h.1.views, h.1.maps]; exact h.2, h.1.shaped h₀⟩) (fun _ _ h => h)
    fun _ h => h.elim) fun _ => Triple.bind (triple_bufferInfo v) fun _ => Triple.pure _ fun _ h => h

/-- Storing a new surface after operations of the machine only. -/
theorem putSurface_frame (hB : Kept B) {s₀ : Session} (h₀ : s₀.Shaped) (name : String) (p : Surface)
    (r : Reply) {E : Session → Prop} :
    Triple (fun s => Frame s₀ s ∧ Buffer.Good B (p.view ::ₘ s₀.views) s₀.maps s.machine)
      (do putSurface name p; pure r) (fun _ => Good B) E :=
  Triple.bind ((putSurface_good hB name p).mono
    (fun _ h => ⟨by rw [h.1.views, h.1.maps]; exact h.2, h.1.shaped h₀⟩) (fun _ _ h => h)
    fun _ h => h.elim) fun _ => Triple.pure _ fun _ h => h

/-- Storing a new framebuffer after operations of the machine only. -/
theorem putFramebuffer_frame (hB : Kept B) {s₀ : Session} (h₀ : s₀.Shaped) (name : String)
    (fb : Framebuffer) (r : Reply) {E : Session → Prop} :
    Triple (fun s => Frame s₀ s ∧ Buffer.Good B (fb.views + s₀.views) s₀.maps s.machine)
      (do putFramebuffer name fb; pure r) (fun _ => Good B) E :=
  Triple.bind ((putFramebuffer_good hB name fb).mono
    (fun _ h => ⟨by rw [h.1.views, h.1.maps]; exact h.2, h.1.shaped h₀⟩) (fun _ _ h => h)
    fun _ h => h.elim) fun _ => Triple.pure _ fun _ h => h

/-- Taking a new reference to a view the session holds. -/
theorem triple_retain (hB : Kept B) {s : Session} (h : Good B s) {v : View} (hv : v ∈ s.views)
    {E : Session → Prop} :
    Triple (· = s) (lift v.retain)
      (fun _ t => Frame s t ∧ Buffer.Good B (v ::ₘ s.views) s.maps t.machine) E :=
  (triple_lift_at (P := fun m => Buffer.Good B s.views s.maps m ∧ m.stores.Has v) ⟨h.1, h.has hv⟩
    (retain_good hB v)).mono (fun _ h => h) (fun _ _ h => h) fun _ h => h.2.elim

/-- Dropping names, then giving back on the machine what they held. -/
theorem triple_forget {s : Session} {f : Session → Session} {rel : Act Unit} {r : Reply}
    {E : Session → Prop} (h : Good B s) (hsh : (f s).Shaped) (hm : (f s).machine = s.machine)
    (hrel : Triple (Buffer.Good B s.views s.maps) rel
      (fun _ => Buffer.Good B (f s).views (f s).maps) (fun _ => False)) :
    Triple (· = s) (do modify f; lift rel; pure r) (fun _ => Good B) E := by
  refine Triple.bind (Triple.modify (Q := fun _ t => t = f s) fun _ h => by rw [h]) fun _ => ?_
  have hs : Buffer.Good B s.views s.maps (f s).machine := by
    rw [hm]
    exact h.1
  exact Triple.bind ((triple_lift_at hs hrel).mono (fun _ h => h) (fun _ _ h => h)
    fun _ h => h.2.elim) fun _ => Triple.pure _ fun _ h => h.1.good h.2 hsh

/-! ### Buffers and mappings -/

theorem step_bufferCreate (hB : Kept B) (name : String) (size : Nat) (flags : Flags) :
    Step B (bufferCreate name size flags) := by
  intro s₀ h₀
  have hnew : Triple (Buffer.Good B s₀.views s₀.maps) (allocate size flags)
      (fun v => Buffer.Good B (v ::ₘ s₀.views) s₀.maps) (Buffer.Good B s₀.views s₀.maps) :=
    allocate_good hB size flags
  exact Triple.bind ((triple_lift_frame s₀ hnew).mono
    (fun _ h => by rw [h]; exact ⟨Frame.refl _, h₀.1⟩) (fun _ _ h => h) fun _ h => h.2)
    fun v => putBuffer_frame hB h₀.2 name v

theorem step_bufferFromData (hB : Kept B) (name : String) (data : ByteArray) (flags : Flags) :
    Step B (bufferFromData name data flags) := by
  intro s₀ h₀
  have hnew : Triple (Buffer.Good B s₀.views s₀.maps) (allocateWith flags data)
      (fun v => Buffer.Good B (v ::ₘ s₀.views) s₀.maps) (Buffer.Good B s₀.views s₀.maps) :=
    allocateWith_good hB flags data
  exact Triple.bind ((triple_lift_frame s₀ hnew).mono
    (fun _ h => by rw [h]; exact ⟨Frame.refl _, h₀.1⟩) (fun _ _ h => h) fun _ h => h.2)
    fun v => putBuffer_frame hB h₀.2 name v

theorem step_bufferWrap (hB : Kept B) (buffer : String) (offset : Nat) (name : String) :
    Step B (bufferWrap buffer offset name) := by
  intro s₀ h₀
  unfold bufferWrap
  refine Triple.bind (triple_buffer buffer s₀ h₀.1) fun v => ?_
  refine Triple.of_forall fun s ⟨hs, k, hk⟩ => ?_
  subst hs
  -- the wrap shares the store of a view the session holds
  have hw : Triple (fun m => Buffer.Good B s.views s.maps m ∧ m.stores.Has v) (v.wrap offset)
      (fun w => Buffer.Good B (w ::ₘ s.views) s.maps) (Buffer.Good B s.views s.maps) :=
    wrap_good hB v offset
  exact Triple.bind ((triple_lift_frame s hw).mono
    (fun _ h => by rw [h]; exact ⟨Frame.refl _, h₀.1, h₀.has (mem_views_of_buffer hk)⟩)
    (fun _ _ h => h) fun _ h => h.2) fun w => putBuffer_frame hB h₀.2 name w

theorem step_bufferClone (hB : Kept B) (buffer name : String) :
    Step B (bufferClone buffer name) := by
  intro s₀ h₀
  unfold bufferClone
  refine Triple.bind (triple_buffer buffer s₀ h₀.1) fun v => ?_
  refine Triple.of_forall fun s ⟨hs, k, hk⟩ => ?_
  subst hs
  exact Triple.bind (triple_retain hB h₀ (mem_views_of_buffer hk)) fun _ =>
    putBuffer_frame hB h₀.2 name v

theorem step_bufferFree (hB : Kept B) (buffer : String) : Step B (bufferFree buffer) := by
  intro s₀ h₀
  unfold bufferFree
  refine Triple.bind (triple_buffer buffer s₀ h₀.1) fun v => ?_
  refine Triple.of_forall fun s ⟨hs, k, hk⟩ => ?_
  subst hs
  -- the name goes, and with it the view, which goes back to its store
  have hviews : v ::ₘ ({ s with buffers := eraseNamed s.buffers buffer } : Session).views =
      s.views := by
    have h := namedViews_eraseNamed (g := fun v => ({v} : Multiset View)) h₀.2.buffers buffer
    rw [hk] at h
    rw [← Multiset.singleton_add]
    exact views_drop h (views_buffers s _)
  exact triple_forget h₀ ⟨distinct_eraseNamed h₀.2.buffers buffer, h₀.2.mappings, h₀.2.surfaces,
    h₀.2.framebuffers, h₀.2.engine⟩ rfl
    ((release_good hB v).mono (fun _ h => by rwa [hviews]) (fun _ _ h => h) fun _ h => h)

theorem step_bufferMap (hB : Kept B) (buffer name : String) : Step B (bufferMap buffer name) := by
  intro s₀ h₀
  unfold bufferMap
  refine Triple.bind (triple_buffer buffer s₀ h₀.1) fun v => ?_
  refine Triple.of_forall fun s ⟨hs, k, hk⟩ => ?_
  subst hs
  -- the mapping holds a reference of its own, which a refused mapping gives back
  have hm : Triple (Buffer.Good B (v ::ₘ s.views) s.maps)
      (tryCatch v.map fun e => do v.release; throw e)
      (fun _ => Buffer.Good B s.views (v ::ₘ s.maps)) (Buffer.Good B s.views s.maps) :=
    Triple.tryCatch (map_good hB v) fun e => Triple.bind ((release_good hB v).mono
      (fun _ h => h) (fun _ _ h => h) fun _ h => h.elim) fun _ => Triple.throw e fun _ h => h
  refine Triple.bind (triple_retain hB h₀ (mem_views_of_buffer hk)) fun _ => ?_
  refine Triple.bind ((triple_lift_frame s hm).mono (fun _ h => h) (fun _ _ h => h)
    fun _ h => h.2) fun _ => ?_
  exact Triple.bind ((putMapping_good hB name v).mono
    (fun _ h => ⟨by rw [h.1.views, h.1.maps]; exact h.2, h.1.shaped h₀.2⟩) (fun _ _ h => h)
    fun _ h => h.elim) fun _ => Triple.pure _ fun _ h => h

theorem step_bufferUnmap (hB : Kept B) (mapping : String) : Step B (bufferUnmap mapping) := by
  intro s₀ h₀
  unfold bufferUnmap
  refine Triple.bind (triple_mapping mapping s₀ h₀.1) fun v => ?_
  refine Triple.of_forall fun s ⟨hs, k, hk⟩ => ?_
  subst hs
  -- the name goes, and the mapping ends
  have hmaps : v ::ₘ ({ s with mappings := eraseNamed s.mappings mapping } : Session).maps =
      s.maps := by
    have h := namedViews_eraseNamed (g := fun v => ({v} : Multiset View)) h₀.2.mappings mapping
    rw [hk] at h
    rw [← Multiset.singleton_add, add_comm]
    exact h
  exact triple_forget h₀ ⟨h₀.2.buffers, distinct_eraseNamed h₀.2.mappings mapping, h₀.2.surfaces,
    h₀.2.framebuffers, h₀.2.engine⟩ rfl
    ((unmapRelease_good hB v).mono (fun _ h => by rwa [hmaps]) (fun _ _ h => h) fun _ h => h)

theorem step_bufferWrite (hB : Kept B) (buffer : String) (offset : Nat) (data : ByteArray) :
    Step B (bufferWrite buffer offset data) := by
  intro s₀ h₀
  unfold bufferWrite
  refine Triple.bind (triple_buffer buffer s₀ h₀.1) fun v => ?_
  refine Triple.of_forall fun s ⟨hs, k, hk⟩ => ?_
  subst hs
  -- the buffer is mapped for the time of the write, and on the early failure
  have hsplit : s.views = v ::ₘ s.views.erase v := (Multiset.cons_erase (mem_views_of_buffer hk)).symm
  have hmap : Triple (Buffer.Good B (v ::ₘ s.views.erase v) s.maps) v.map
      (fun _ => Buffer.Good B (s.views.erase v) (v ::ₘ s.maps))
      (Buffer.Good B (v ::ₘ s.views.erase v) s.maps) :=
    map_good hB v
  have hunmap : Triple (Buffer.Good B (s.views.erase v) (v ::ₘ s.maps)) v.unmap
      (fun _ => Buffer.Good B (v ::ₘ s.views.erase v) s.maps) (fun _ => False) :=
    unmap_good hB v
  have hwrite : Triple (Buffer.Good B (s.views.erase v) (v ::ₘ s.maps)) (v.writeBytes offset data)
      (fun _ => Buffer.Good B (s.views.erase v) (v ::ₘ s.maps)) (fun _ => False) :=
    writeBytes_good hB v offset data
  rw [← hsplit] at hmap hunmap
  refine Triple.bind ((triple_lift_frame s hmap).mono (fun _ h => by rw [h]; exact ⟨Frame.refl _, h₀.1⟩)
    (fun _ _ h => h) fun _ h => h.2) fun _ => ?_
  dsimp only
  refine Triple.ite (fun _ => ?_) fun _ => ?_
  · exact Triple.bind ((triple_lift_frame s hunmap).mono (fun _ h => h) (fun _ _ h => h)
      fun _ h => h.2.elim) fun _ => Triple.throw_bind _ fun _ h => h.2
  · refine Triple.bind ((triple_lift_frame s hwrite).mono (fun _ h => h) (fun _ _ h => h)
      fun _ h => h.2.elim) fun _ => ?_
    exact Triple.bind ((triple_lift_frame s hunmap).mono (fun _ h => h) (fun _ _ h => h)
      fun _ h => h.2.elim) fun _ => Triple.pure _ fun _ h =>
        ⟨by rw [h.1.views, h.1.maps]; exact h.2, h.1.shaped h₀.2⟩

/-! ### Surfaces and framebuffers -/

theorem step_surfaceCreate (hB : Kept B) (name : String) (width height : Nat) (format : Format)
    (layout : Layout) : Step B (surfaceCreate name width height format layout) := by
  intro s₀ h₀
  have hnew : Triple (Buffer.Good B s₀.views s₀.maps) (Surface.create width height format layout)
      (fun p => Buffer.Good B (p.view ::ₘ s₀.views) s₀.maps) (Buffer.Good B s₀.views s₀.maps) :=
    create_good hB width height format layout
  exact Triple.bind ((triple_lift_at h₀.1 hnew).mono (fun _ h => h) (fun _ _ h => h)
    fun _ h => h.2) fun p => putSurface_frame hB h₀.2 name p _

theorem step_surfaceBuffer (hB : Kept B) (surface name : String) :
    Step B (surfaceBuffer surface name) := by
  intro s₀ h₀
  unfold surfaceBuffer
  refine Triple.bind (triple_surface surface s₀ h₀.1) fun p => ?_
  refine Triple.of_forall fun s ⟨hs, k, hk⟩ => ?_
  subst hs
  exact Triple.bind (triple_retain hB h₀ (mem_views_of_surface hk)) fun _ =>
    putBuffer_frame hB h₀.2 name p.view

theorem step_surfaceClone (hB : Kept B) (surface name : String) :
    Step B (surfaceClone surface name) := by
  intro s₀ h₀
  unfold surfaceClone
  refine Triple.bind (triple_surface surface s₀ h₀.1) fun p => ?_
  refine Triple.of_forall fun s ⟨hs, k, hk⟩ => ?_
  subst hs
  exact Triple.bind (triple_retain hB h₀ (mem_views_of_surface hk)) fun _ =>
    putSurface_frame hB h₀.2 name p _

theorem step_surfaceFree (hB : Kept B) (surface : String) : Step B (surfaceFree surface) := by
  intro s₀ h₀
  unfold surfaceFree
  refine Triple.bind (triple_surface surface s₀ h₀.1) fun p => ?_
  refine Triple.of_forall fun s ⟨hs, k, hk⟩ => ?_
  subst hs
  -- the name goes, and with it the surface's view
  have hviews : p.view ::ₘ ({ s with surfaces := eraseNamed s.surfaces surface } : Session).views =
      s.views := by
    have h := namedViews_eraseNamed (g := fun p : Surface => ({p.view} : Multiset View))
      h₀.2.surfaces surface
    rw [hk] at h
    rw [← Multiset.singleton_add]
    exact views_drop h (views_surfaces s _)
  exact triple_forget h₀ ⟨h₀.2.buffers, h₀.2.mappings, distinct_eraseNamed h₀.2.surfaces surface,
    h₀.2.framebuffers, h₀.2.engine⟩ rfl
    ((release_good hB p.view).mono (fun _ h => by rwa [hviews]) (fun _ _ h => h) fun _ h => h)

theorem step_framebufferCreate (hB : Kept B) (name : String) (width height : Nat) (format : Format)
    (layout : Layout) (double : Bool) :
    Step B (framebufferCreate name width height format layout double) := by
  intro s₀ h₀
  have hnew : Triple (Buffer.Good B s₀.views s₀.maps)
      (Framebuffer.create width height format layout double)
      (fun fb => Buffer.Good B (fb.views + s₀.views) s₀.maps) (Buffer.Good B s₀.views s₀.maps) :=
    Framebuffer.create_good hB width height format layout double
  exact Triple.bind ((triple_lift_at h₀.1 hnew).mono (fun _ h => h) (fun _ _ h => h)
    fun _ h => h.2) fun fb => putFramebuffer_frame hB h₀.2 name fb _

theorem step_framebufferSwap (framebuffer : String) :
    Step B (framebufferSwap framebuffer) := by
  intro s₀ h₀
  unfold framebufferSwap
  refine Triple.bind (triple_framebuffer framebuffer s₀ h₀.1) fun fb => ?_
  refine Triple.of_forall fun s ⟨hs, k, hk⟩ => ?_
  subst hs
  dsimp only
  -- the swapped framebuffer holds the same views under the same name
  let xs := (insertNamed s.framebuffers framebuffer fb.swap).1
  have hxs : namedViews Framebuffer.views xs = namedViews Framebuffer.views s.framebuffers := by
    have h := namedViews_insertNamed (g := Framebuffer.views) h₀.2.framebuffers framebuffer fb.swap
    simp only [insertNamed_snd, hk, Option.map_some, Option.getD_some,
      Framebuffer.views_swap] at h
    exact add_right_cancel (h.trans (add_comm _ _))
  have hviews : ({ s with framebuffers := xs } : Session).views = s.views := by
    have h := views_framebuffers s xs
    rw [hxs] at h
    exact add_right_cancel h
  refine Triple.bind (Triple.modify (Q := fun _ t => t = { s with framebuffers := xs })
    fun _ h => by rw [h]) fun _ => Triple.pure _ fun t h => ?_
  rw [h]
  exact ⟨by rw [hviews]; exact h₀.1, ⟨h₀.2.buffers, h₀.2.mappings, h₀.2.surfaces,
    distinct_insertNamed h₀.2.framebuffers _ _, h₀.2.engine⟩⟩

theorem step_framebufferData (hB : Kept B) (framebuffer : String) (front : Bool) :
    Step B (framebufferData framebuffer front) := by
  intro s₀ h₀
  unfold framebufferData
  refine Triple.bind (triple_framebuffer framebuffer s₀ h₀.1) fun fb => ?_
  refine Triple.of_forall fun s ⟨hs, k, hk⟩ => ?_
  subst hs
  -- the views besides the framebuffer's stand by while one of its surfaces is mapped
  obtain ⟨R, hR⟩ := le_iff_exists_add.1 (le_views_of_framebuffer hk)
  have hmap : Triple (Buffer.Good B s.views s.maps) (fb.mapData front)
      (fun p m => p.view ∈ fb.views ∧
        Buffer.Good B (fb.views.erase p.view + R) (p.view ::ₘ s.maps) m)
      (Buffer.Good B s.views s.maps) := by
    rw [hR]
    exact Framebuffer.mapData_good hB fb front
  refine Triple.bind ((triple_lift_at h₀.1 hmap).mono (fun _ h => h) (fun _ _ h => h)
    fun _ h => h.2) fun p => ?_
  refine Triple.of_forall fun t ⟨hf, hp, hg⟩ => ?_
  have hback : p.view ::ₘ (fb.views.erase p.view + R) = s.views := by
    rw [hR, ← Multiset.cons_add, Multiset.cons_erase hp]
  have hunmap : Triple (Buffer.Good B (fb.views.erase p.view + R) (p.view ::ₘ s.maps)) p.view.unmap
      (fun _ => Buffer.Good B s.views s.maps) (fun _ => False) := by
    rw [← hback]
    exact unmap_good hB p.view
  refine Triple.bind Triple.get fun x => ?_
  dsimp only
  refine Triple.bind ((triple_lift_frame s hunmap).mono (fun u h => ?_) (fun _ _ h => h)
    fun _ h => h.2.elim) fun _ => Triple.pure _ fun u h => h.1.good h.2 h₀.2
  obtain ⟨rfl, -⟩ := h
  exact ⟨hf, hg⟩

/-- The surface that `which` picks holds one of the framebuffer's views. -/
theorem Which.view_mem_of_pick {which : Which} {fb : Framebuffer} {p : Surface}
    (h : which.pick fb = some p) : p.view ∈ fb.views := by
  cases which <;> simp only [Which.pick, Option.some.injEq] at h
  · rw [← h]
    simp [Framebuffer.views]
  · simp [Framebuffer.views, h]
  · rw [← h]
    exact fb.drawSurface_mem

/-- Storing a surface of a framebuffer whose views the session holds. -/
theorem storeSurfaceOf_good (hB : Kept B) {s : Session} (h : Good B s) {fb : Framebuffer}
    (hfb : fb.views ≤ s.views) (which : Which) (name : String) {E : Session → Prop} :
    Triple (· = s) (storeSurfaceOf fb which name) (fun _ => Good B) E := by
  unfold storeSurfaceOf
  split
  · next p hp =>
    exact Triple.bind (triple_retain hB h (Multiset.mem_of_le hfb (Which.view_mem_of_pick hp)))
      fun _ => putSurface_frame hB h.2 name p _
  · exact Triple.pure _ fun _ h' => h' ▸ h

theorem step_framebufferFree (hB : Kept B) (framebuffer : String) :
    Step B (framebufferFree framebuffer) := by
  intro s₀ h₀
  unfold framebufferFree
  refine Triple.bind (triple_framebuffer framebuffer s₀ h₀.1) fun fb => ?_
  refine Triple.of_forall fun s ⟨hs, k, hk⟩ => ?_
  subst hs
  -- the name goes, and with it the framebuffer's views
  have hviews : fb.views +
      ({ s with framebuffers := eraseNamed s.framebuffers framebuffer } : Session).views =
      s.views := by
    have h := namedViews_eraseNamed (g := Framebuffer.views) h₀.2.framebuffers framebuffer
    rw [hk] at h
    exact views_drop h (views_framebuffers s _)
  exact triple_forget h₀ ⟨h₀.2.buffers, h₀.2.mappings, h₀.2.surfaces,
    distinct_eraseNamed h₀.2.framebuffers framebuffer, h₀.2.engine⟩ rfl
    ((Framebuffer.release_good hB fb).mono (fun _ h => by rwa [hviews]) (fun _ _ h => h)
      fun _ h => h)

/-! ### The engine -/

/-- The views of a session are its engine's and the rest, which a new engine keeps. -/
theorem exists_views_engine (s : Session) : ∃ R, s.views = s.engine.views + R ∧
    ∀ e : Engine, ({ s with engine := e } : Session).views = e.views + R :=
  ⟨namedViews (fun v => {v}) s.buffers + namedViews (fun p => {p.view}) s.surfaces +
      namedViews Framebuffer.views s.framebuffers + displayViews s.display,
    by simp only [views]; abel, fun e => by simp only [views]; abel⟩

theorem step_engineReset (hB : Kept B) : Step B engineReset := by
  intro s₀ h₀
  unfold engineReset setEngine
  refine Triple.bind Triple.get fun s => ?_
  refine Triple.of_forall fun t ⟨ht, hs⟩ => ?_
  subst ht
  subst hs
  dsimp only
  -- the new engine holds no views; the old one's go back
  obtain ⟨R, hR, hset⟩ := exists_views_engine s
  have hrel : Triple (Buffer.Good B s.views s.maps) s.engine.release
      (fun _ => Buffer.Good B ({ s with engine := {} } : Session).views s.maps)
      (fun _ => False) := by
    rw [hset {}, Engine.views_initial, zero_add, hR]
    exact Engine.release_good hB s.engine
  exact triple_forget h₀ ⟨h₀.2.buffers, h₀.2.mappings, h₀.2.surfaces, h₀.2.framebuffers,
    Engine.shaped_initial⟩ rfl hrel

theorem step_engineAttribPointer (hB : Kept B) (location size : Nat) (buffer : String) :
    Step B (engineAttribPointer location size buffer) := by
  intro s₀ h₀
  unfold engineAttribPointer setEngine
  refine Triple.bind (triple_buffer buffer s₀ h₀.1) fun v => ?_
  refine Triple.of_forall fun s ⟨hs, k, hk⟩ => ?_
  subst hs
  -- the engine takes the reference the step takes, or gives it back on failure
  obtain ⟨R, hR, hset⟩ := exists_views_engine s
  have hpoint : Triple (Buffer.Good B (v ::ₘ s.views) s.maps) (s.engine.setPointer location size v)
      (fun e m => e.Shaped ∧ Buffer.Good B (e.views + R) s.maps m)
      (Buffer.Good B s.views s.maps) := by
    rw [hR]
    exact Engine.setPointer_good hB h₀.2.engine location size v
  refine Triple.bind (triple_retain hB h₀ (mem_views_of_buffer hk)) fun _ => ?_
  refine Triple.bind Triple.get fun t => ?_
  refine Triple.of_forall fun u ⟨⟨hf, hg⟩, ht⟩ => ?_
  subst ht
  have he : t.engine = s.engine := by rw [hf.eq]
  rw [he]
  refine Triple.bind ((triple_lift_at hg hpoint).mono (fun _ h => h) (fun _ _ h => h)
    fun _ h => h.2) fun e => ?_
  refine Triple.of_forall fun w ⟨hf', hsh, hg'⟩ => ?_
  refine Triple.bind (Triple.modify (Q := fun _ z => z = { w with engine := e })
    fun _ h => by rw [h]) fun _ => Triple.pure _ fun z hz => ?_
  rw [hz]
  refine ((hf.trans hf').engine e).good (by rw [hset]; exact hg') ?_
  exact ⟨h₀.2.buffers, h₀.2.mappings, h₀.2.surfaces, h₀.2.framebuffers, hsh⟩

theorem step_engineBindTarget (hB : Kept B) (slot : Nat) (surface : String) :
    Step B (engineBindTarget slot surface) := by
  intro s₀ h₀
  unfold engineBindTarget setEngine
  refine Triple.bind (triple_surface surface s₀ h₀.1) fun p => ?_
  refine Triple.of_forall fun s ⟨hs, k, hk⟩ => ?_
  subst hs
  -- the engine takes the new reference, and the target it replaces goes back after the swap
  obtain ⟨R, hR, hset⟩ := exists_views_engine s
  have hbind : Triple (Buffer.Good B (p.view ::ₘ s.views) s.maps) (s.engine.bindTarget slot p)
      (fun r m => r.1.Shaped ∧
        Buffer.Good B (((r.2.map Surface.view).toList : Multiset View) + (r.1.views + R)) s.maps m)
      (Buffer.Good B s.views s.maps) := by
    rw [hR]
    exact Engine.bindTarget_good hB h₀.2.engine slot p
  refine Triple.bind (triple_retain hB h₀ (mem_views_of_surface hk)) fun _ => ?_
  refine Triple.bind Triple.get fun t => ?_
  refine Triple.of_forall fun u ⟨⟨hf, hg⟩, ht⟩ => ?_
  subst ht
  have he : t.engine = s.engine := by rw [hf.eq]
  rw [he]
  refine Triple.bind ((triple_lift_at hg hbind).mono (fun _ h => h) (fun _ _ h => h)
    fun _ h => h.2) fun r => ?_
  refine Triple.of_forall fun w ⟨hf', hsh, hg'⟩ => ?_
  obtain ⟨e, old⟩ := r
  dsimp only at hsh hg' ⊢
  have hsh₁ : ({ s with engine := e } : Session).Shaped :=
    ⟨h₀.2.buffers, h₀.2.mappings, h₀.2.surfaces, h₀.2.framebuffers, hsh⟩
  have hw := (hf.trans hf').engine e
  refine Triple.bind (Triple.modify (Q := fun _ z => z = { w with engine := e })
    fun _ h => by rw [h]) fun _ => ?_
  refine Triple.of_forall fun z hz => ?_
  subst hz
  cases old with
  | none =>
    rw [Option.map_none, Option.toList_none, Multiset.coe_nil, zero_add, ← hset] at hg'
    exact Triple.pure _ fun _ h => h ▸ hw.good hg' hsh₁
  | some o =>
    rw [Option.map_some, Option.toList_some, ← Multiset.cons_coe, Multiset.coe_nil,
      ← Multiset.singleton_add, ← hset, Multiset.singleton_add] at hg'
    have hrel : Triple (Buffer.Good B (o.view ::ₘ ({ s with engine := e } : Session).views) s.maps)
        o.view.release (fun _ => Buffer.Good B ({ s with engine := e } : Session).views s.maps)
        (fun _ => False) :=
      release_good hB o.view
    refine Triple.bind ((triple_lift_frame _ hrel).mono (fun _ h => ?_) (fun _ _ h => h)
      fun _ h => h.2.elim) fun _ => Triple.pure _ fun _ h => (hw.trans h.1).good h.2 hsh₁
    rw [h]
    exact ⟨Frame.refl _, hg'⟩

end Session

end Script

end TegraGpu
