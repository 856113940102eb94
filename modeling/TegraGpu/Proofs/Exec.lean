import Mathlib
import TegraGpu.Machine
/-!
# Operations that keep a state and may fail

The operations of the stack (`Act`, on the machine) and the steps of a session (on the session)
are both of the form `ExceptT ε (StateM σ)`: they run on a state and end with a value or an error,
and in both cases with the state as they left it.  This module reasons about such operations
without unfolding the monad.

* `Exec.run` and its `@[simp]` equations : running an operation step by step.
* `Exec.Triple P a Q E` : from a state where `P` holds, `a` ends with a value `x` in a state where
  `Q x` holds, or fails in a state where `E` holds.  Its rules follow the program: `bind`,
  `tryCatch`, `if`, loops over lists and arrays, `mapM` and `foldlM`.
* `Exec.Keeps p a` : the frame of `a`; `p` of the state is the same after `a` as before, on
  success and on failure alike.  It is the triple whose three conditions are `p = c`, so its
  rules are the rules of triples.
* `Exec.Preserves I a` : `a` keeps the invariant `I`, on success and on failure alike.
* `Exec.Spares err a` : `a` never fails with the error `err`, with the same rules.
* `Act.run'` is `Exec.run`; writing records keeps everything but the journal.
-/

namespace TegraGpu

namespace Exec

variable {σ ε α β γ : Type}

/-- Runs an operation on a state. -/
def run (a : ExceptT ε (StateM σ) α) (s : σ) : Except ε α × σ :=
  (ExceptT.run a).run s

/-! ### Equations of `run` -/

@[simp] theorem run_pure (x : α) (s : σ) :
    run (pure x : ExceptT ε (StateM σ) α) s = (.ok x, s) := rfl

@[simp] theorem run_throw (e : ε) (s : σ) :
    run (throw e : ExceptT ε (StateM σ) α) s = (.error e, s) := rfl

@[simp] theorem run_get (s : σ) : run (get : ExceptT ε (StateM σ) σ) s = (.ok s, s) := rfl

@[simp] theorem run_set (s s' : σ) :
    run (set s' : ExceptT ε (StateM σ) PUnit) s = (.ok ⟨⟩, s') := rfl

@[simp] theorem run_modify (f : σ → σ) (s : σ) :
    run (modify f : ExceptT ε (StateM σ) PUnit) s = (.ok ⟨⟩, f s) := rfl

@[simp] theorem run_modifyGet (f : σ → α × σ) (s : σ) :
    run (modifyGet f : ExceptT ε (StateM σ) α) s = (.ok (f s).1, (f s).2) := rfl

theorem run_bind (a : ExceptT ε (StateM σ) α) (f : α → ExceptT ε (StateM σ) β) (s : σ) :
    run (a >>= f) s = match run a s with
      | (.ok x, s') => run (f x) s'
      | (.error e, s') => (.error e, s') := by
  unfold run
  simp only [ExceptT.run, StateT.run]
  rcases hr : a s with ⟨e | x, s'⟩ <;>
    simp only [bind, ExceptT.bind, ExceptT.mk, StateT.bind, hr] <;> rfl

theorem run_tryCatch (a : ExceptT ε (StateM σ) α) (h : ε → ExceptT ε (StateM σ) α) (s : σ) :
    run (tryCatch a h) s = match run a s with
      | (.ok x, s') => (.ok x, s')
      | (.error e, s') => run (h e) s' := by
  unfold run
  simp only [ExceptT.run, StateT.run]
  show ExceptT.tryCatch a h s = _
  rcases hr : a s with ⟨e | x, s'⟩ <;>
    simp only [ExceptT.tryCatch, ExceptT.mk, bind, StateT.bind, hr]
  rfl

theorem run_bind_error {a : ExceptT ε (StateM σ) α} {s s' : σ} {e : ε}
    (h : run a s = (.error e, s')) (f : α → ExceptT ε (StateM σ) β) :
    run (a >>= f) s = (.error e, s') := by
  rw [run_bind, h]

/-! ### Triples -/

/-- From a state where `P` holds, `a` ends with a value `x` in a state where `Q x` holds, or
fails in a state where `E` holds. -/
def Triple (P : σ → Prop) (a : ExceptT ε (StateM σ) α) (Q : α → σ → Prop) (E : σ → Prop) :
    Prop :=
  ∀ s, P s → match run a s with
    | (.ok x, s') => Q x s'
    | (.error _, s') => E s'

namespace Triple

variable {P P' : σ → Prop} {Q Q' : α → σ → Prop} {E E' : σ → Prop}

/-- A triple read at one state. -/
theorem apply {a : ExceptT ε (StateM σ) α} (h : Triple P a Q E) {s : σ} (hs : P s) :
    (∀ x s', run a s = (.ok x, s') → Q x s') ∧ (∀ e s', run a s = (.error e, s') → E s') := by
  have hr := h s hs
  constructor
  · intro x s' he
    rw [he] at hr
    exact hr
  · intro e s' he
    rw [he] at hr
    exact hr

/-- What holds after every success, whatever holds after a failure. -/
theorem of_ok {a : ExceptT ε (StateM σ) α} (h : ∀ s s' x, P s → run a s = (.ok x, s') → Q x s') :
    Triple P a Q fun _ => True := by
  intro s hs
  rcases hrun : run a s with ⟨e | x, s'⟩
  · trivial
  · exact h s s' x hs hrun

/-- An operation that cannot fail, run where its precondition holds, ends with a value. -/
theorem exists_ok {a : ExceptT ε (StateM σ) α} (h : Triple P a Q fun _ => False) {s : σ}
    (hs : P s) : ∃ x s', run a s = (.ok x, s') ∧ Q x s' := by
  have hr := h s hs
  rcases hrun : run a s with ⟨e | x, s'⟩
  · rw [hrun] at hr
    exact hr.elim
  · rw [hrun] at hr
    exact ⟨x, s', rfl, hr⟩

theorem mono {a : ExceptT ε (StateM σ) α} (h : Triple P a Q E) (hP : ∀ s, P' s → P s)
    (hQ : ∀ x s, Q x s → Q' x s) (hE : ∀ s, E s → E' s) : Triple P' a Q' E' := by
  intro s hs
  have hr := h s (hP s hs)
  rcases hrun : run a s with ⟨e | x, s'⟩
  · rw [hrun] at hr
    exact hE _ hr
  · rw [hrun] at hr
    exact hQ _ _ hr

/-- An operation that never fails meets every failure condition. -/
theorem never_fails {a : ExceptT ε (StateM σ) α} (h : Triple P a Q fun _ => False) :
    Triple P a Q E :=
  h.mono (fun _ hs => hs) (fun _ _ hq => hq) fun _ hf => hf.elim

/-- Two triples of one operation hold together. -/
theorem and {a : ExceptT ε (StateM σ) α} {R : σ → Prop} {S : α → σ → Prop} {F : σ → Prop}
    (h : Triple P a Q E) (h' : Triple R a S F) :
    Triple (fun s => P s ∧ R s) a (fun x s => Q x s ∧ S x s) (fun s => E s ∧ F s) := by
  rintro s ⟨hs, hs'⟩
  have hr := h s hs
  have hr' := h' s hs'
  rcases hrun : run a s with ⟨e | x, s'⟩ <;> rw [hrun] at hr hr' <;> exact ⟨hr, hr'⟩

/-- A fact of the precondition that does not read the state. -/
theorem of_prop {c : Prop} {a : ExceptT ε (StateM σ) α} (h : c → Triple P a Q E) :
    Triple (fun s => c ∧ P s) a Q E := fun s hs => h hs.1 s hs.2

/-- A precondition that fixes the start state. -/
theorem of_forall {a : ExceptT ε (StateM σ) α} (h : ∀ s₀, P s₀ → Triple (· = s₀) a Q E) :
    Triple P a Q E := fun s hs => h s hs s rfl

theorem pure (x : α) (h : ∀ s, P s → Q x s) :
    Triple P (Pure.pure x : ExceptT ε (StateM σ) α) Q E := h

theorem throw (e : ε) (h : ∀ s, P s → E s) :
    Triple P (MonadExcept.throw e : ExceptT ε (StateM σ) α) Q E := h

/-- A failure ends the program: what follows it never runs. -/
theorem throw_bind {f : α → ExceptT ε (StateM σ) β} {Q : β → σ → Prop} (e : ε)
    (h : ∀ s, P s → E s) : Triple P (MonadExcept.throw e >>= f) Q E := h

theorem get : Triple P (get : ExceptT ε (StateM σ) σ) (fun x s => P s ∧ x = s) E :=
  fun _ hs => ⟨hs, rfl⟩

theorem set {Q : PUnit → σ → Prop} (x : σ) (h : ∀ s, P s → Q ⟨⟩ x) :
    Triple P (set x : ExceptT ε (StateM σ) PUnit) Q E := h

theorem modify {f : σ → σ} {Q : PUnit → σ → Prop} (h : ∀ s, P s → Q ⟨⟩ (f s)) :
    Triple P (modify f : ExceptT ε (StateM σ) PUnit) Q E := h

theorem modifyGet {f : σ → α × σ} (h : ∀ s, P s → Q (f s).1 (f s).2) :
    Triple P (modifyGet f : ExceptT ε (StateM σ) α) Q E := h

theorem bind {a : ExceptT ε (StateM σ) α} {f : α → ExceptT ε (StateM σ) β} {R : α → σ → Prop}
    {Q : β → σ → Prop} (ha : Triple P a R E) (hf : ∀ x, Triple (R x) (f x) Q E) :
    Triple P (a >>= f) Q E := by
  intro s hs
  have hr := ha s hs
  rw [run_bind]
  rcases hrun : run a s with ⟨e | x, s'⟩
  · rw [hrun] at hr
    exact hr
  · rw [hrun] at hr
    exact hf x s' hr

theorem tryCatch {a : ExceptT ε (StateM σ) α} {h : ε → ExceptT ε (StateM σ) α} {R : σ → Prop}
    (ha : Triple P a Q R) (hh : ∀ e, Triple R (h e) Q E) : Triple P (tryCatch a h) Q E := by
  intro s hs
  have hr := ha s hs
  rw [run_tryCatch]
  rcases hrun : run a s with ⟨e | x, s'⟩
  · rw [hrun] at hr
    exact hh e s' hr
  · rw [hrun] at hr
    exact hr

theorem ite {c : Prop} [Decidable c] {a b : ExceptT ε (StateM σ) α}
    (ha : c → Triple P a Q E) (hb : ¬c → Triple P b Q E) :
    Triple P (if c then a else b) Q E := by
  split
  · next hc => exact ha hc
  · next hc => exact hb hc

/-- A loop over a list keeps an invariant of the loop state when the step keeps it for each
member of the list. -/
theorem forIn_list_mem {δ : Type} (xs : List δ) (init : β)
    {f : δ → β → ExceptT ε (StateM σ) (ForInStep β)} {I : β → σ → Prop}
    (hf : ∀ x ∈ xs, ∀ b, Triple (I b) (f x b) (fun r => I r.value) E) :
    Triple (I init) (forIn xs init f) I E := by
  induction xs generalizing init with
  | nil => exact pure init fun _ h => h
  | cons x xs ih =>
    rw [List.forIn_cons]
    refine bind (hf x List.mem_cons_self init) fun r => ?_
    cases r with
    | done b => exact pure b fun _ h => h
    | yield b => exact ih b fun y hy => hf y (List.mem_cons_of_mem _ hy)

/-- A loop over a list keeps an invariant of the loop state, step by step. -/
theorem forIn_list {δ : Type} (xs : List δ) (init : β) {f : δ → β → ExceptT ε (StateM σ) (ForInStep β)}
    {I : β → σ → Prop} (hf : ∀ x b, Triple (I b) (f x b) (fun r => I r.value) E) :
    Triple (I init) (forIn xs init f) I E :=
  forIn_list_mem xs init fun x _ => hf x

theorem forIn_array {δ : Type} (xs : Array δ) (init : β)
    {f : δ → β → ExceptT ε (StateM σ) (ForInStep β)} {I : β → σ → Prop}
    (hf : ∀ x b, Triple (I b) (f x b) (fun r => I r.value) E) :
    Triple (I init) (forIn xs init f) I E := by
  rw [← Array.forIn_toList]
  exact forIn_list xs.toList init hf

theorem foldlM_list {δ : Type} (xs : List δ) (init : β) {f : β → δ → ExceptT ε (StateM σ) β}
    {I : β → σ → Prop} (hf : ∀ b x, Triple (I b) (f b x) I E) :
    Triple (I init) (xs.foldlM f init) I E := by
  induction xs generalizing init with
  | nil => exact pure init fun _ h => h
  | cons x xs ih =>
    rw [List.foldlM_cons]
    exact bind (hf init x) ih

end Triple

/-! ### Frames -/

/-- `a` keeps `p`: from a state where `p` is `c`, `a` ends in a state where `p` is `c`, after a
success or a failure. -/
def Keeps (p : σ → γ) (a : ExceptT ε (StateM σ) α) : Prop :=
  ∀ c, Triple (fun s => p s = c) a (fun _ s => p s = c) (fun s => p s = c)

namespace Keeps

variable {p : σ → γ}

theorem of_run_eq {a : ExceptT ε (StateM σ) α} (h : ∀ s, p (run a s).2 = p s) : Keeps p a := by
  intro c s hs
  have := h s
  rcases hrun : run a s with ⟨e | x, s'⟩ <;> rw [hrun] at this <;> exact this.trans hs

/-- What each run leaves as it found it is kept. -/
theorem of_triple {a : ExceptT ε (StateM σ) α}
    (h : ∀ s₀, Triple (· = s₀) a (fun _ s => p s = p s₀) (fun s => p s = p s₀)) : Keeps p a := by
  intro c s hs
  subst hs
  exact h s s rfl

theorem run_eq {a : ExceptT ε (StateM σ) α} (h : Keeps p a) (s : σ) : p (run a s).2 = p s := by
  have hr := h (p s) s rfl
  rcases hrun : run a s with ⟨e | x, s'⟩ <;> rw [hrun] at hr <;> exact hr

/-- What depends on `p` only holds after `a` when it held before. -/
theorem triple {a : ExceptT ε (StateM σ) α} (h : Keeps p a) (R : γ → Prop) :
    Triple (fun s => R (p s)) a (fun _ s => R (p s)) (fun s => R (p s)) := by
  intro s hs
  have hr := h (p s) s rfl
  rcases hrun : run a s with ⟨e | x, s'⟩ <;> rw [hrun] at hr <;> dsimp only <;> rw [hr] <;> exact hs

theorem pure (x : α) : Keeps p (Pure.pure x : ExceptT ε (StateM σ) α) :=
  fun _ => Triple.pure x fun _ h => h

theorem throw (e : ε) : Keeps p (MonadExcept.throw e : ExceptT ε (StateM σ) α) :=
  fun _ => Triple.throw e fun _ h => h

theorem throw_bind {f : α → ExceptT ε (StateM σ) β} (e : ε) :
    Keeps p (MonadExcept.throw e >>= f) :=
  fun _ => Triple.throw_bind e fun _ h => h

theorem get : Keeps p (get : ExceptT ε (StateM σ) σ) :=
  fun _ => Triple.get.mono (fun _ h => h) (fun _ _ h => h.1) fun _ h => h

theorem modify {f : σ → σ} (hf : ∀ s, p (f s) = p s) :
    Keeps p (modify f : ExceptT ε (StateM σ) PUnit) :=
  fun _ => Triple.modify fun s h => (hf s).trans h

theorem bind {a : ExceptT ε (StateM σ) α} {f : α → ExceptT ε (StateM σ) β} (ha : Keeps p a)
    (hf : ∀ x, Keeps p (f x)) : Keeps p (a >>= f) :=
  fun c => Triple.bind (ha c) fun x => hf x c

theorem tryCatch {a : ExceptT ε (StateM σ) α} {h : ε → ExceptT ε (StateM σ) α} (ha : Keeps p a)
    (hh : ∀ e, Keeps p (h e)) : Keeps p (tryCatch a h) :=
  fun c => Triple.tryCatch (ha c) fun e => hh e c

theorem ite {c : Prop} [Decidable c] {a b : ExceptT ε (StateM σ) α} (ha : Keeps p a)
    (hb : Keeps p b) : Keeps p (if c then a else b) :=
  fun k => Triple.ite (fun _ => ha k) fun _ => hb k

theorem forIn_list {δ : Type} (xs : List δ) (init : β)
    {f : δ → β → ExceptT ε (StateM σ) (ForInStep β)} (hf : ∀ x b, Keeps p (f x b)) :
    Keeps p (forIn xs init f) :=
  fun c => Triple.forIn_list (I := fun _ s => p s = c) xs init fun x b => hf x b c

theorem forIn_array {δ : Type} (xs : Array δ) (init : β)
    {f : δ → β → ExceptT ε (StateM σ) (ForInStep β)} (hf : ∀ x b, Keeps p (f x b)) :
    Keeps p (forIn xs init f) :=
  fun c => Triple.forIn_array (I := fun _ s => p s = c) xs init fun x b => hf x b c

theorem foldlM_list {δ : Type} (xs : List δ) (init : β) {f : β → δ → ExceptT ε (StateM σ) β}
    (hf : ∀ b x, Keeps p (f b x)) : Keeps p (xs.foldlM f init) :=
  fun c => Triple.foldlM_list (I := fun _ s => p s = c) xs init fun b x => hf b x c

theorem mapM_list {δ : Type} (xs : List δ) {f : δ → ExceptT ε (StateM σ) α}
    (hf : ∀ x, Keeps p (f x)) : Keeps p (xs.mapM f) := by
  induction xs with
  | nil => exact pure []
  | cons x xs ih =>
    rw [List.mapM_cons]
    exact bind (hf x) fun y => bind ih fun ys => pure (y :: ys)

end Keeps

/-- `a` preserves the invariant `I`: from a state where `I` holds, it ends in one where `I`
holds, after a success or a failure. -/
def Preserves (I : σ → Prop) (a : ExceptT ε (StateM σ) α) : Prop :=
  Triple I a (fun _ => I) I

/-- An invariant that reads only what `a` keeps is preserved by `a`. -/
theorem Keeps.preserves {p : σ → γ} {I : σ → Prop} {a : ExceptT ε (StateM σ) α} (h : Keeps p a)
    (hI : ∀ s s', p s' = p s → I s → I s') : Preserves I a := by
  intro s hs
  have hr := h (p s) s rfl
  rcases hrun : run a s with ⟨e | x, s'⟩ <;> rw [hrun] at hr <;> exact hI s s' hr hs

/-! ### Errors an operation never gives -/

/-- `a` never fails with the error `err`, from any state. -/
def Spares (err : ε) (a : ExceptT ε (StateM σ) α) : Prop :=
  ∀ s, (run a s).1 ≠ .error err

namespace Spares

variable {err : ε}

theorem pure (x : α) : Spares err (Pure.pure x : ExceptT ε (StateM σ) α) :=
  fun _ => by simp

theorem throw {e : ε} (h : e ≠ err) : Spares err (MonadExcept.throw e : ExceptT ε (StateM σ) α) :=
  fun _ he => h (Except.error.inj he)

theorem throw_bind {f : α → ExceptT ε (StateM σ) β} {e : ε} (h : e ≠ err) :
    Spares err (MonadExcept.throw e >>= f) :=
  fun _ he => h (Except.error.inj he)

theorem get : Spares err (get : ExceptT ε (StateM σ) σ) :=
  fun _ => by simp

theorem set (x : σ) : Spares err (set x : ExceptT ε (StateM σ) PUnit) :=
  fun _ => by simp

theorem modify (f : σ → σ) : Spares err (modify f : ExceptT ε (StateM σ) PUnit) :=
  fun _ => by simp

theorem modifyGet (f : σ → α × σ) : Spares err (modifyGet f : ExceptT ε (StateM σ) α) :=
  fun _ => by simp

theorem bind {a : ExceptT ε (StateM σ) α} {f : α → ExceptT ε (StateM σ) β} (ha : Spares err a)
    (hf : ∀ x, Spares err (f x)) : Spares err (a >>= f) := by
  intro s
  have hs := ha s
  rw [run_bind]
  rcases hrun : run a s with ⟨e | x, s'⟩
  · rw [hrun] at hs
    simpa using hs
  · exact hf x s'

/-- A handler that passes other errors on spares `err` when only other errors reach it. -/
theorem tryCatch {a : ExceptT ε (StateM σ) α} {h : ε → ExceptT ε (StateM σ) α}
    (ha : Spares err a) (hh : ∀ e, e ≠ err → Spares err (h e)) : Spares err (tryCatch a h) := by
  intro s
  have hs := ha s
  rw [run_tryCatch]
  rcases hrun : run a s with ⟨e | x, s'⟩
  · rw [hrun] at hs
    exact hh e (fun he => hs (congrArg Except.error he)) s'
  · simp

theorem ite {c : Prop} [Decidable c] {a b : ExceptT ε (StateM σ) α} (ha : Spares err a)
    (hb : Spares err b) : Spares err (if c then a else b) := by
  split
  · exact ha
  · exact hb

theorem forIn_list {δ : Type} (xs : List δ) (init : β)
    {f : δ → β → ExceptT ε (StateM σ) (ForInStep β)} (hf : ∀ x b, Spares err (f x b)) :
    Spares err (forIn xs init f) := by
  induction xs generalizing init with
  | nil => exact pure init
  | cons x xs ih =>
    rw [List.forIn_cons]
    refine bind (hf x init) fun r => ?_
    cases r with
    | done b => exact pure b
    | yield b => exact ih b

theorem forIn_array {δ : Type} (xs : Array δ) (init : β)
    {f : δ → β → ExceptT ε (StateM σ) (ForInStep β)} (hf : ∀ x b, Spares err (f x b)) :
    Spares err (forIn xs init f) := by
  rw [← Array.forIn_toList]
  exact forIn_list xs.toList init hf

theorem mapM_list {δ : Type} (xs : List δ) {f : δ → ExceptT ε (StateM σ) α}
    (hf : ∀ x, Spares err (f x)) : Spares err (xs.mapM f) := by
  induction xs with
  | nil => exact pure []
  | cons x xs ih =>
    rw [List.mapM_cons]
    exact bind (hf x) fun y => bind ih fun ys => pure (y :: ys)

end Spares

end Exec

namespace Act

open Exec

variable {α : Type}

theorem run'_eq_run (a : Act α) (m : Machine) : a.run' m = Exec.run a m := rfl

@[simp] theorem run_emit (r : Record) (m : Machine) :
    Exec.run (emit r) m = (.ok (), { m with journal := m.journal.push r }) := rfl

@[simp] theorem run_note (level : Level) (origin : Origin) (text : String) (m : Machine) :
    Exec.run (note level origin text) m =
      (.ok (), { m with journal := m.journal.push { level, origin, text } }) := rfl

@[simp] theorem run_ofExcept (r : Except Error α) (m : Machine) :
    Exec.run (ofExcept r) m = (r, m) := by
  cases r <;> rfl

theorem keeps_ofExcept {γ : Type} {p : Machine → γ} (r : Except Error α) : Keeps p (ofExcept r) := by
  cases r with
  | ok x => exact Keeps.pure x
  | error e => exact Keeps.throw e

/-- Writing a record keeps what does not read the journal. -/
theorem keeps_emit {γ : Type} {p : Machine → γ} (hp : ∀ m j, p { m with journal := j } = p m)
    (r : Record) : Keeps p (emit r) :=
  Keeps.modify fun m => hp m _

theorem keeps_note {γ : Type} {p : Machine → γ} (hp : ∀ m j, p { m with journal := j } = p m)
    (level : Level) (origin : Origin) (text : String) : Keeps p (note level origin text) :=
  keeps_emit hp _

theorem spares_ofExcept {err : Error} {r : Except Error α} (h : r ≠ .error err) :
    Spares err (ofExcept r) :=
  fun m => by rwa [run_ofExcept]

theorem spares_emit (err : Error) (r : Record) : Spares err (emit r) :=
  Spares.modify _

theorem spares_note (err : Error) (level : Level) (origin : Origin) (text : String) :
    Spares err (note level origin text) :=
  spares_emit err _

end Act

end TegraGpu
