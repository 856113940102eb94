import Mathlib
import TegraGpu.Script.Run
import TegraGpu.Proofs.Engine
/-!
# Sessions: the views they hold

A session holds views under its names (buffers, surfaces, framebuffers), in its mappings, in its
engine's slots and in its display context's framebuffer.  Its accounts are good when these views
account for the stores of the machine and the machine invariant holds; its names are kept
distinct, which is what lets a stored object replace the one of the same name exactly.

* `keeps_ledger_resolve`, `Display.Context.keeps_ledger_*`, `Shader.keeps_ledger_*`,
  `Intercept.Registry.keeps_ledger_*` : the other operations of the stack keep the ledger.
* `Session.views`, `Session.maps`, `Session.Shaped`, `Session.Good` : the accounts.
* `namedViews_insertNamed`, `namedViews_eraseNamed` : storing under a name adds the object's
  views and hands back those of the object it replaces; forgetting a name removes its views.
* `Session.books` : what the accounts read, so that a step that keeps it keeps them.
* `Session.Step` : a step keeps the accounts good, and when it fails the accounts of the names as
  they were hold of the machine as it is left.  `Step.lift` and its companions build it up.
-/

namespace TegraGpu

open Buffer Surface Raster Exec Act

/-! ### The other operations keep the ledger -/

theorem keeps_ledger_chipOfFiles (folder : Folder) (paths : List String) :
    Keeps Machine.ledger (chipOfFiles folder paths) := by
  induction paths with
  | nil => exact Keeps.pure _
  | cons path rest ih =>
    unfold chipOfFiles
    split
    · exact ih
    · split
      · exact Keeps.pure _
      · exact (keeps_ledger_note _ _ _).bind fun _ => Keeps.pure _

theorem keeps_ledger_resolve (r : Resolver) : Keeps Machine.ledger r.resolve := by
  unfold Resolver.resolve
  split
  · exact Keeps.pure _
  · refine Keeps.get.bind fun m => (keeps_ledger_chipOfFiles _ _).bind fun found => ?_
    dsimp only
    split
    · exact (Keeps.pure _).bind fun c => (keeps_ledger_note _ _ _).bind fun _ => Keeps.pure _
    · exact (keeps_ledger_note _ _ _).bind fun _ => (Keeps.pure _).bind fun c =>
        (keeps_ledger_note _ _ _).bind fun _ => Keeps.pure _

namespace Display.Context

variable {β α : Type}

theorem keeps_ledger_init (options : Options) (chip : Resolver) :
    Keeps Machine.ledger (init options chip : Act (Context β α)) :=
  (keeps_ledger_note _ _ _).bind fun _ => Keeps.pure _

theorem keeps_ledger_withPresenter (options : Options) (chip : Resolver) (p : Presenter) :
    Keeps Machine.ledger (withPresenter options chip p : Act (Context β α)) :=
  (keeps_ledger_note _ _ _).bind fun _ => (keeps_ledger_init _ _).bind fun _ => Keeps.pure _

theorem keeps_ledger_bound (c : Context β α) : Keeps Machine.ledger c.bound := by
  unfold bound
  split
  · exact Keeps.pure _
  · exact Keeps.throw _

theorem keeps_ledger_clear (c : Context β α) : Keeps Machine.ledger c.clear := by
  refine (keeps_ledger_bound c).bind fun fb => ?_
  split
  · exact Surface.keeps_ledger_clear _ _ _ _ _

theorem keeps_ledger_swapBuffers (c : Context β α) : Keeps Machine.ledger c.swapBuffers := by
  refine (keeps_ledger_bound c).bind fun fb => ?_
  split
  · exact Keeps.pure _
  · exact (keeps_ledger_framebufferSave _ _).bind fun _ => Keeps.pure _

theorem keeps_ledger_chipId (c : Context β α) : Keeps Machine.ledger c.chipId := by
  refine (keeps_ledger_resolve c.chip).bind fun r => ?_
  split
  · exact Keeps.pure _

end Display.Context

namespace Shader

theorem keeps_ledger_load (kind : Kind) (path source : String) :
    Keeps Machine.ledger (load kind path source) := by
  unfold load
  split
  · exact (keeps_ledger_emit _).bind fun _ => Keeps.pure _
  · exact Keeps.throw _

theorem keeps_ledger_assemble (vs fs linker : Shader) (link : Bool) :
    Keeps Machine.ledger (Program.assemble vs fs linker link) := by
  unfold Program.assemble
  split
  · exact Keeps.throw _
  · exact Keeps.ite ((keeps_ledger_emit _).bind fun _ => Keeps.pure _) (Keeps.pure _)

end Shader

namespace Intercept.Registry

variable {β α : Type}

theorem keeps_ledger_openPath (r : Registry β α) (path : String) (fd : Int)
    (run : β → String → Int → Except String α) :
    Keeps Machine.ledger (r.openPath path fd run) := by
  unfold openPath
  split
  · exact Keeps.ite ((keeps_ledger_note _ _ _).bind fun _ => Keeps.pure _) (Keeps.pure _)
  · split
    · exact (keeps_ledger_note _ _ _).bind fun _ => Keeps.pure _
    · exact (keeps_ledger_note _ _ _).bind fun _ => Keeps.pure _

theorem keeps_ledger_duplicate (r : Registry β α) (i : Nat) (newFd : Int) :
    Keeps Machine.ledger (r.duplicate i newFd) := by
  unfold duplicate
  split
  · exact Keeps.pure _
  · split
    · exact (keeps_ledger_note _ _ _).bind fun _ => Keeps.pure _
    · exact (keeps_ledger_note _ _ _).bind fun _ => Keeps.throw _

theorem keeps_ledger_dup (r : Registry β α) (fd newFd : Int) :
    Keeps Machine.ledger (r.dup fd newFd) := by
  unfold dup
  split
  · exact keeps_ledger_duplicate r _ newFd
  · exact Keeps.throw _

theorem keeps_ledger_close (r : Registry β α) (fd : Int) : Keeps Machine.ledger (r.close fd) := by
  unfold close
  split
  · exact Keeps.pure _
  · split
    · exact Keeps.pure _
    · exact Keeps.ite ((keeps_ledger_note _ _ _).bind fun _ => Keeps.pure _) (Keeps.pure _)

theorem keeps_ledger_noteWrite (r : Registry β α) (fd : Int) (data : ByteArray) :
    Keeps Machine.ledger (r.noteWrite fd data) := by
  unfold noteWrite
  split
  · exact Keeps.pure _
  · dsimp only
    refine Keeps.ite ?_ (Keeps.pure _)
    split
    · exact (keeps_ledger_note _ _ _).bind fun _ => Keeps.pure _
    · exact Keeps.pure _

end Intercept.Registry

namespace Script

open Session

variable {α : Type}

/-! ### Named objects -/

/-- The views of a list of named objects, `g` giving the views of each object. -/
def namedViews (g : α → Multiset View) (xs : List (String × α)) : Multiset View :=
  (xs.map fun p => g p.2).sum

/-- The names of a list are distinct. -/
def Distinct (xs : List (String × α)) : Prop :=
  (xs.map Prod.fst).Nodup

section Named

variable {g : α → Multiset View} {xs : List (String × α)}

@[simp] theorem namedViews_nil : namedViews g ([] : List (String × α)) = 0 := rfl

@[simp] theorem namedViews_cons (p : String × α) (xs : List (String × α)) :
    namedViews g (p :: xs) = g p.2 + namedViews g xs := by
  simp [namedViews]

@[simp] theorem namedViews_append (xs ys : List (String × α)) :
    namedViews g (xs ++ ys) = namedViews g xs + namedViews g ys := by
  simp [namedViews]

theorem filter_ne_of_not_mem {name : String} (h : name ∉ xs.map Prod.fst) :
    xs.filter (·.1 != name) = xs := by
  refine List.filter_eq_self.2 fun p hp => ?_
  have : p.1 ≠ name := fun he => h (he ▸ List.mem_map_of_mem hp)
  simpa using this

/-- Removing a name removes the views of the object found under it, and of no other. -/
theorem namedViews_filter (hnd : Distinct xs) (name : String) :
    namedViews g (xs.filter (·.1 != name)) + ((xs.find? (·.1 == name)).map fun p => g p.2).getD 0 =
      namedViews g xs := by
  induction xs with
  | nil => rfl
  | cons p xs ih =>
    obtain ⟨hp, hnd⟩ := List.nodup_cons.1 hnd
    by_cases hk : p.1 = name
    · -- the head holds the name, which no later entry has
      have hrest : xs.filter (·.1 != name) = xs := filter_ne_of_not_mem (hk ▸ hp)
      simp [hk, hrest, add_comm]
    · have hne : (p.1 == name) = false := beq_eq_false_iff_ne.2 hk
      have hne' : (p.1 != name) = true := bne_iff_ne.2 hk
      simp only [List.filter_cons, List.find?_cons, hne, hne', ↓reduceIte, namedViews_cons]
      rw [add_assoc, ih hnd]

theorem distinct_filter (hnd : Distinct xs) (p : String × α → Bool) : Distinct (xs.filter p) :=
  (List.Nodup.sublist (List.Sublist.map _ (List.filter_sublist)) hnd)

theorem namedViews_eraseNamed (hnd : Distinct xs) (name : String) :
    namedViews g (eraseNamed xs name) + ((xs.find? (·.1 == name)).map fun p => g p.2).getD 0 =
      namedViews g xs :=
  namedViews_filter hnd name

theorem distinct_eraseNamed (hnd : Distinct xs) (name : String) : Distinct (eraseNamed xs name) :=
  distinct_filter hnd _

/-- Storing under a name hands back the object found under it. -/
@[simp] theorem insertNamed_snd (xs : List (String × α)) (name : String) (a : α) :
    (insertNamed xs name a).2 = (xs.find? (·.1 == name)).map Prod.snd := rfl

/-- Storing under a name adds the object's views, and hands back those of the object it
replaces. -/
theorem namedViews_insertNamed (hnd : Distinct xs) (name : String) (a : α) :
    namedViews g (insertNamed xs name a).1 + (((insertNamed xs name a).2).map g).getD 0 =
      g a + namedViews g xs := by
  -- the entries kept are split in two around the new one, in their order
  have hkept : ∀ ys : List (String × α),
      namedViews g (ys.filter fun p => decide (p.1 < name)) +
        namedViews g (ys.filter fun p => !decide (p.1 < name)) = namedViews g ys := by
    intro ys
    rw [← namedViews_append]
    exact ((List.filter_append_perm _ ys).map _).sum_eq
  unfold insertNamed
  simp only [List.partition_eq_filter_filter, namedViews_append, namedViews_cons, namedViews_nil,
    add_zero, Option.map_map, Function.comp_def]
  rw [← namedViews_filter hnd name, ← hkept (xs.filter (·.1 != name))]
  abel

theorem distinct_insertNamed (hnd : Distinct xs) (name : String) (a : α) :
    Distinct (insertNamed xs name a).1 := by
  have hF := distinct_filter hnd (·.1 != name)
  -- the new name is none of the names kept
  have hnot : name ∉ (xs.filter (·.1 != name)).map Prod.fst := by
    simp
  unfold insertNamed
  simp only [Distinct, List.partition_eq_filter_filter, List.map_append, List.map_cons,
    List.append_assoc, List.singleton_append]
  rw [List.nodup_middle, List.nodup_cons, ← List.map_append]
  refine ⟨fun h => hnot ?_, ?_⟩
  · exact ((List.filter_append_perm _ _).map Prod.fst).subset h
  · exact ((List.filter_append_perm _ _).map Prod.fst).nodup_iff.2 hF

end Named

/-! ### The accounts of a session -/

namespace Session

/-- The views of a display context: those of its framebuffer, if it has one. -/
def displayViews : Option Context → Multiset View
  | some c => (c.framebuffer.map Framebuffer.views).getD 0
  | none => 0

/-- The views the session holds, mappings apart: its buffers, surfaces and framebuffers by name,
its engine's, and its display context's. -/
def views (s : Session) : Multiset View :=
  namedViews (fun v => {v}) s.buffers + namedViews (fun p => {p.view}) s.surfaces +
    namedViews Framebuffer.views s.framebuffers + s.engine.views + displayViews s.display

/-- The views the session's mappings hold. -/
def maps (s : Session) : Multiset View :=
  namedViews (fun v => {v}) s.mappings

/-- The names of each kind are distinct, and the engine has all its slots. -/
structure Shaped (s : Session) : Prop where
  /-- The buffers' names. -/
  buffers : Distinct s.buffers
  /-- The mappings' names. -/
  mappings : Distinct s.mappings
  /-- The surfaces' names. -/
  surfaces : Distinct s.surfaces
  /-- The framebuffers' names. -/
  framebuffers : Distinct s.framebuffers
  /-- The engine's slots. -/
  engine : s.engine.Shaped

/-- The accounts of a session are good: its views and its mappings account for the stores, the
machine invariant `B` holds, and the session is shaped. -/
def Good (B : Machine → Prop) (s : Session) : Prop :=
  Buffer.Good B s.views s.maps s.machine ∧ s.Shaped

/-- What the accounts of a session read: its views and mappings, the ledger of its machine, its
names, and the number of its engine's slots of each kind. -/
def books (s : Session) :=
  (s.views, s.maps, s.machine.ledger,
    (s.buffers.map Prod.fst, s.mappings.map Prod.fst, s.surfaces.map Prod.fst,
      s.framebuffers.map Prod.fst),
    s.engine.pointers.size, s.engine.targets.size)

variable {B : Machine → Prop} {α : Type}

theorem Good.of_books (hB : Kept B) {s s' : Session} (h : Good B s) (hk : s'.books = s.books) :
    Good B s' := by
  simp only [books, Prod.mk.injEq] at hk
  obtain ⟨hv, hm, hl, ⟨hb, hmp, hsf, hfb⟩, hp, ht⟩ := hk
  refine ⟨⟨?_, hB.frame h.1.2 hl⟩, ⟨?_, ?_, ?_, ?_, ⟨?_, ?_⟩⟩⟩
  · have hst : s'.machine.stores = s.machine.stores := congrArg Prod.fst hl
    rw [hv, hm, hst]
    exact h.1.1
  · unfold Distinct
    rw [hb]
    exact h.2.buffers
  · unfold Distinct
    rw [hmp]
    exact h.2.mappings
  · unfold Distinct
    rw [hsf]
    exact h.2.surfaces
  · unfold Distinct
    rw [hfb]
    exact h.2.framebuffers
  · exact hp.trans h.2.engine.pointers
  · exact ht.trans h.2.engine.targets

/-- A step keeps the accounts good; when it fails, the accounts of the names as they were hold
of the machine it leaves. -/
def Step (B : Machine → Prop) (a : StepM α) : Prop :=
  ∀ s₀, Good B s₀ →
    Triple (· = s₀) a (fun _ => Good B) (fun s => Buffer.Good B s₀.views s₀.maps s.machine)

/-- A step that keeps what the accounts read keeps them. -/
theorem Step.of_keeps (hB : Kept B) {a : StepM α} (h : Keeps books a) : Step B a := by
  intro s₀ h₀
  refine (h s₀.books).mono (fun _ hs => by rw [hs]) (fun _ _ hs => h₀.of_books hB hs) fun s hs => ?_
  simp only [books, Prod.mk.injEq] at hs
  obtain ⟨-, -, hl, -⟩ := hs
  have hst : s.machine.stores = s₀.machine.stores := congrArg Prod.fst hl
  exact ⟨hst ▸ h₀.1.1, hB.frame h₀.1.2 hl⟩

/-! ### Lifting the operations of the machine -/

theorem run_lift (a : Act α) (s : Session) : Exec.run (lift a) s =
    match Exec.run a s.machine with
    | (.ok x, m) => (.ok x, { s with machine := m })
    | (.error e, m) => (.error (.failed e), { s with machine := m }) := by
  rcases h : Exec.run a s.machine with ⟨e | x, m⟩ <;>
    simp only [lift, Exec.run_bind, Exec.run_get, Act.run'_eq_run, h] <;> rfl

/-- A lifted operation runs on the machine, leaving the rest of the session as it is. -/
theorem triple_lift {a : Act α} {R : Session → Prop} (hR : ∀ s m, R s → R { s with machine := m })
    {P : Machine → Prop} {Q : α → Machine → Prop} {E : Machine → Prop} (h : Triple P a Q E) :
    Triple (fun s => R s ∧ P s.machine) (lift a) (fun x s => R s ∧ Q x s.machine)
      (fun s => R s ∧ E s.machine) := by
  intro s ⟨hr, hp⟩
  have ha := h s.machine hp
  rw [run_lift]
  rcases hrun : Exec.run a s.machine with ⟨e | x, m⟩ <;> rw [hrun] at ha
  · exact ⟨hR s m hr, ha⟩
  · exact ⟨hR s m hr, ha⟩

/-- The books read the machine through its ledger only. -/
theorem books_machine (s : Session) {m : Machine} (h : m.ledger = s.machine.ledger) :
    books { s with machine := m } = books s := by
  simp only [books, h]
  rfl

theorem keeps_books_lift {a : Act α} (h : Keeps Machine.ledger a) : Keeps books (lift a) :=
  Keeps.of_run_eq fun s => by
    have hl := h.run_eq s.machine
    rw [run_lift]
    rcases hrun : Exec.run a s.machine with ⟨e | x, m⟩ <;> rw [hrun] at hl <;>
      exact books_machine s hl

end Session

end Script

end TegraGpu
