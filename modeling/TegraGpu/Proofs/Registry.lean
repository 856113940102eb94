import Mathlib
import TegraGpu.Intercept.Registry
import TegraGpu.Proofs.Exec
/-!
# The registry of wrapped files: references and releases

A wrapped file is referred to by its own descriptor, until that is closed, and by each occupied
duplicate slot; `WrappedFile.refs` counts them.  The registry keeps every file it holds sound:
eight slots and at least one reference, so between one and nine references
(`WrappedFile.Sound`).  Each call of its interface does one thing to the references:

* opening appends one file with one reference when the first matching entry's opener succeeds,
  and changes nothing otherwise (`Registry.openPath_cases`);
* duplicating fills the first empty slot of the first matching file, one reference more, or
  fails because no file matches or no slot is free (`Registry.duplicate_cases`, `Registry.run_dup`);
* closing removes one reference from the first matching file and no other, and removes and
  hands back that file exactly when it has none left (`Registry.close_cases`).

A run of calls (`runOps`) goes on past a call that fails, with the registry as it was.  What one
call can do to the files is said once (`Moved`, `exec_moved`), and the invariants of runs follow
from it: every run keeps the registry sound (`runOps_refs`), and when each opened handler carries
the number of the call that opened it (`tagFrom`), every run releases each opened file at most
once, only without references, and the files opened are exactly those released and those still
open (`runOps_released_once`).  `registry_contract` gathers all of it.
-/

namespace TegraGpu.Intercept

open Exec Act

variable {β α : Type}

/-! ### References of a file -/

/-- The descriptors a file answers to: its own until closed, and each occupied slot. -/
def WrappedFile.refs (f : WrappedFile α) : Nat :=
  (if f.fd.isSome then 1 else 0) + f.dups.toList.countP Option.isSome

/-- A file as the registry keeps it: eight duplicate slots and at least one reference. -/
structure WrappedFile.Sound (f : WrappedFile α) : Prop where
  /-- The duplicate slots. -/
  slots : f.dups.size = dupCapacity
  /-- A file without references is no longer kept. -/
  referenced : 0 < f.refs

/-- Every file of the registry is sound. -/
def Registry.Sound (r : Registry β α) : Prop :=
  ∀ f ∈ r.files.toList, f.Sound

namespace WrappedFile

variable {f : WrappedFile α}

/-- A sound file has between one and nine references. -/
theorem Sound.refs_le (h : f.Sound) : f.refs ≤ 1 + dupCapacity := by
  have hc : f.dups.toList.countP Option.isSome ≤ dupCapacity := by
    rw [← h.slots, ← Array.length_toList]
    exact List.countP_le_length
  unfold refs
  split <;> omega

/-- A file has no reference left exactly when its own descriptor is closed and every slot is
empty, which is the test the registry makes. -/
theorem refs_eq_zero_iff : f.refs = 0 ↔ f.isUnreferenced = true := by
  unfold refs isUnreferenced
  simp only [Bool.and_eq_true, Array.all_eq_true, Option.isNone_iff_eq_none]
  constructor
  · intro h
    refine ⟨?_, fun i hi => ?_⟩
    · cases hfd : f.fd with
      | none => rfl
      | some _ => simp [hfd] at h
    · have hz : f.dups.toList.countP Option.isSome = 0 := by omega
      rw [List.countP_eq_zero] at hz
      have := hz f.dups[i] (by simp)
      simpa using this
  · rintro ⟨hfd, hall⟩
    rw [hfd]
    simp only [Option.isSome_none, Bool.false_eq_true, if_false, zero_add]
    rw [List.countP_eq_zero]
    intro x hx
    obtain ⟨i, hi, rfl⟩ := List.getElem_of_mem hx
    simpa using hall i (by simpa using hi)

/-- Filling an empty slot adds one reference. -/
theorem refs_fill {slot : Nat} (hslot : f.dups.findIdx? (·.isNone) = some slot) (x : Int) :
    ({ f with dups := f.dups.set! slot (some x) } : WrappedFile α).refs = f.refs + 1 := by
  obtain ⟨hlt, hnone, -⟩ := Array.findIdx?_eq_some_iff_getElem.1 hslot
  unfold refs
  simp only [Array.set!_eq_setIfInBounds, Array.toList_setIfInBounds]
  rw [List.countP_set (by simpa using hlt)]
  simp only [Option.isNone_iff_eq_none] at hnone
  simp only [Array.getElem_toList, hnone, Option.isSome_none, Option.isSome_some,
    Bool.false_eq_true, if_false, if_true, Nat.sub_zero]
  omega

/-- Closing a descriptor that a file answers to removes exactly one of its references. -/
theorem refs_clear {fd : Int} (h : f.matches fd = true) : (f.clear fd).refs + 1 = f.refs := by
  unfold clear
  split
  · next hfd =>
    simp only [beq_iff_eq] at hfd
    simp [refs, hfd, Nat.add_comm]
  · next hfd =>
    simp only [WrappedFile.matches, Bool.or_eq_true, hfd, Bool.false_eq_true, false_or,
      Array.contains_iff_mem] at h
    split
    · next slot hslot =>
      obtain ⟨hlt, hsome, -⟩ := Array.findIdx?_eq_some_iff_getElem.1 hslot
      simp only [beq_iff_eq] at hsome
      unfold refs
      simp only [Array.set!_eq_setIfInBounds, Array.toList_setIfInBounds]
      rw [List.countP_set (by simpa using hlt)]
      simp only [Array.getElem_toList, hsome, Option.isSome_some, if_true, Option.isSome_none,
        Bool.false_eq_true, if_false, Nat.add_zero]
      have hpos : 0 < f.dups.toList.countP Option.isSome :=
        List.countP_pos_iff.2 ⟨_, List.getElem_mem (by simpa using hlt), by simp [hsome]⟩
      omega
    · next hnone =>
      rw [Array.findIdx?_eq_none_iff] at hnone
      simpa using hnone _ h

/-- Closing keeps the slots. -/
theorem size_clear (f : WrappedFile α) (fd : Int) : (f.clear fd).dups.size = f.dups.size := by
  unfold clear
  split
  · rfl
  · split
    · simp
    · rfl

/-- Closing keeps the handler. -/
theorem handler_clear (f : WrappedFile α) (fd : Int) : (f.clear fd).handler = f.handler := by
  unfold clear
  split
  · rfl
  · split <;> rfl

end WrappedFile

/-! ### What each call does -/

namespace Registry

/-- The file a descriptor finds is the first that answers to it. -/
theorem lookup_eq_some {r : Registry β α} {fd : Int} {i : Nat} (h : r.lookup fd = some i) :
    ∃ f, r.files[i]? = some f ∧ f.matches fd = true ∧
      ∀ j < i, ∀ g, r.files[j]? = some g → g.matches fd = false := by
  obtain ⟨hlt, hm, hfirst⟩ := Array.findIdx?_eq_some_iff_getElem.1 h
  refine ⟨r.files[i], by simp [hlt], hm, fun j hj g hg => ?_⟩
  rw [Array.getElem?_eq_getElem (hj.trans hlt), Option.some.injEq] at hg
  subst hg
  simpa using hfirst j hj

/-- No file answers to a descriptor that finds none. -/
theorem lookup_eq_none {r : Registry β α} {fd : Int} (h : r.lookup fd = none) :
    ∀ f ∈ r.files.toList, f.matches fd = false := by
  intro f hf
  exact Array.findIdx?_eq_none_iff.1 h f (Array.mem_def.2 hf)

/-- A new file has its own descriptor as its one reference, and eight empty slots. -/
theorem sound_opened (path : String) (fd : Int) (h : α) :
    ({ path, fd := some fd, handler := h } : WrappedFile α).Sound ∧
      ({ path, fd := some fd, handler := h } : WrappedFile α).refs = 1 := by
  refine ⟨⟨by simp, ?_⟩, ?_⟩ <;> simp [WrappedFile.refs, dupCapacity]

/-- Opening does one of three things: with no entry for the path, or with an entry whose opener
fails, the registry stays; when the first entry's opener gives a handler, the file is appended. -/
theorem openPath_cases (r : Registry β α) (path : String) (fd : Int)
    (run : β → String → Int → Except String α) (m : Machine) :
    ∃ m', (r.table.find? (·.1 == path) = none ∧
        Exec.run (r.openPath path fd run) m = (.ok (r, .unmatched), m')) ∨
      (∃ p b reason, r.table.find? (·.1 == path) = some (p, b) ∧ run b path fd = .error reason ∧
        Exec.run (r.openPath path fd run) m = (.ok (r, .refused b reason), m')) ∨
      (∃ p b h, r.table.find? (·.1 == path) = some (p, b) ∧ run b path fd = .ok h ∧
        ({ path, fd := some fd, handler := h } : WrappedFile α).refs = 1 ∧
        Exec.run (r.openPath path fd run) m =
          (.ok ({ r with files := r.files.push { path, fd := some fd, handler := h } }, .wrapped b),
            m')) := by
  unfold openPath
  split
  · next hfind =>
    by_cases hv : r.verbose = true
    · rw [if_pos hv]
      exact ⟨_, .inl ⟨hfind, rfl⟩⟩
    · rw [if_neg hv]
      exact ⟨_, .inl ⟨hfind, rfl⟩⟩
  · next p b hfind =>
    split
    · next reason hs => exact ⟨_, .inr (.inl ⟨p, b, reason, hfind, hs, rfl⟩)⟩
    · next h hs => exact ⟨_, .inr (.inr ⟨p, b, h, hfind, hs, (sound_opened path fd h).2, rfl⟩)⟩

/-- Duplicating into a file: there is no file at the position and nothing changes; or its first
empty slot takes the descriptor; or no slot is free and the call fails with the file's path. -/
theorem duplicate_cases (r : Registry β α) (i : Nat) (newFd : Int) (m : Machine) :
    ∃ m', (r.files[i]? = none ∧ Exec.run (r.duplicate i newFd) m = (.ok r, m')) ∨
      (∃ f slot, r.files[i]? = some f ∧ f.dups.findIdx? (·.isNone) = some slot ∧
        ({ f with dups := f.dups.set! slot (some newFd) } : WrappedFile α).refs = f.refs + 1 ∧
        Exec.run (r.duplicate i newFd) m =
          (.ok { r with files := r.files.set! i { f with dups := f.dups.set! slot (some newFd) } },
            m')) ∨
      (∃ f, r.files[i]? = some f ∧ f.dups.findIdx? (·.isNone) = none ∧
        Exec.run (r.duplicate i newFd) m = (.error (.slotExhaustion f.path), m')) := by
  unfold duplicate
  split
  · next hf => exact ⟨_, .inl ⟨hf, rfl⟩⟩
  · next f hf =>
    split
    · next slot hs =>
      exact ⟨_, .inr (.inl ⟨f, slot, hf, hs, WrappedFile.refs_fill hs newFd, rfl⟩)⟩
    · next hs => exact ⟨_, .inr (.inr ⟨f, hf, hs, rfl⟩)⟩

/-- Duplicating a descriptor: the first file that answers to it takes the new one, as
`duplicate` does; with no file answering, the call fails. -/
theorem run_dup (r : Registry β α) (fd newFd : Int) (m : Machine) :
    (r.lookup fd = none ∧ Exec.run (r.dup fd newFd) m = (.error (.unknownFd fd), m)) ∨
      ∃ i, r.lookup fd = some i ∧ Exec.run (r.dup fd newFd) m = Exec.run (r.duplicate i newFd) m := by
  unfold dup
  split
  · next i hi => exact .inr ⟨i, hi, rfl⟩
  · next hi => exact .inl ⟨hi, rfl⟩

/-- Closing a descriptor: when no file answers to it the registry stays; otherwise the first file
that answers loses that reference, and it is removed and handed back for release exactly when it
has none left. -/
theorem close_cases (r : Registry β α) (fd : Int) (m : Machine) :
    ∃ m', (r.lookup fd = none ∧ Exec.run (r.close fd) m = (.ok (r, false, none), m')) ∨
      (∃ i f, r.lookup fd = some i ∧ r.files[i]? = some f ∧ (f.clear fd).refs + 1 = f.refs ∧
        (f.clear fd).refs = 0 ∧ Exec.run (r.close fd) m =
          (.ok ({ r with files := r.files.eraseIdx! i }, true, some (f.clear fd)), m')) ∨
      (∃ i f, r.lookup fd = some i ∧ r.files[i]? = some f ∧ (f.clear fd).refs + 1 = f.refs ∧
        (f.clear fd).refs ≠ 0 ∧ Exec.run (r.close fd) m =
          (.ok ({ r with files := r.files.set! i (f.clear fd) }, true, none), m')) := by
  unfold close
  split
  · next hl => exact ⟨_, .inl ⟨hl, rfl⟩⟩
  · next i hl =>
    -- the position a lookup gives holds a file
    obtain ⟨f, hf, hm, -⟩ := lookup_eq_some hl
    have hrefs := WrappedFile.refs_clear hm
    rw [hf]
    dsimp only
    -- the registry's test of an unreferenced file is `refs = 0`
    by_cases hu : (f.clear fd).refs = 0
    · rw [if_pos (WrappedFile.refs_eq_zero_iff.1 hu)]
      exact ⟨_, .inr (.inl ⟨i, f, hl, hf, hrefs, hu, rfl⟩)⟩
    · rw [if_neg (mt WrappedFile.refs_eq_zero_iff.2 hu)]
      exact ⟨_, .inr (.inr ⟨i, f, hl, hf, hrefs, hu, rfl⟩)⟩

end Registry

/-! ### Runs of calls -/

/-- What a call reports about files: one it opened or one it released. -/
inductive Event (α : Type) where
  | opened (f : WrappedFile α)
  | released (f : WrappedFile α)

/-- The file an event opened. -/
@[simp] def Event.opened? : Event α → Option (WrappedFile α)
  | .opened f => some f
  | .released _ => none

/-- The file an event released. -/
@[simp] def Event.released? : Event α → Option (WrappedFile α)
  | .opened _ => none
  | .released f => some f

/-- A call of the registry's interface.  An open carries how the table's openers run; `call` is
a read, a write or a control, given by what it does to the handler; `duplicate` puts a
descriptor into the file a lookup finds, and does nothing when none is found. -/
inductive Op (β α : Type) where
  | register (path : String) (opener : β)
  | registerTable (entries : List (String × β))
  | setVerbose (verbose : Bool)
  | openPath (path : String) (fd : Int) (run : β → String → Int → Except String α)
  | dup (fd newFd : Int)
  | duplicate (fd newFd : Int)
  | close (fd : Int)
  | call (fd : Int) (f : α → α)
  | noteWrite (fd : Int) (data : ByteArray)

namespace Op

/-- One call on a registry: the registry after it, and the files it opened or released. -/
def exec (r : Registry β α) : Op β α → Act (Registry β α × List (Event α))
  | .register path b => pure (r.register path b, [])
  | .registerTable entries => pure (r.registerTable entries, [])
  | .setVerbose v => pure ({ r with verbose := v }, [])
  | .openPath path fd run => do
    let opened ← r.openPath path fd run
    match opened.2 with
    | .wrapped _ => pure (opened.1, (opened.1.files.back?.map .opened).toList)
    | _ => pure (opened.1, [])
  | .dup fd newFd => do
    let r' ← r.dup fd newFd
    pure (r', [])
  | .duplicate fd newFd =>
    match r.lookup fd with
    | some i => do
      let r' ← r.duplicate i newFd
      pure (r', [])
    | none => pure (r, [])
  | .close fd => do
    let closed ← r.close fd
    pure (closed.1, (closed.2.2.map .released).toList)
  | .call fd f => pure ((r.call fd fun h => (f h, ())).1, [])
  | .noteWrite fd data => do
    let _ ← r.noteWrite fd data
    pure (r, [])

/-- The call with the handler it opens tagged by `k`, and the handler changes of a call keeping
the tag. -/
def tag (k : Nat) : Op β α → Op β (Nat × α)
  | .register path b => .register path b
  | .registerTable entries => .registerTable entries
  | .setVerbose v => .setVerbose v
  | .openPath path fd run => .openPath path fd fun b p n => (run b p n).map fun h => (k, h)
  | .dup fd newFd => .dup fd newFd
  | .duplicate fd newFd => .duplicate fd newFd
  | .close fd => .close fd
  | .call fd f => .call fd (Prod.map id f)
  | .noteWrite fd data => .noteWrite fd data

end Op

/-- A run of calls: a call that fails leaves the registry as it was, and the run goes on. -/
def runOps (r : Registry β α) : List (Op β α) → Act (Registry β α × List (Event α))
  | [] => pure (r, [])
  | op :: ops => do
    let step ← tryCatch (op.exec r) fun _ => pure (r, [])
    let rest ← runOps step.1 ops
    pure (rest.1, step.2 ++ rest.2)

/-- The calls from the `k`-th on, each opened handler tagged by the number of its call. -/
def tagFrom : Nat → List (Op β α) → List (Op β (Nat × α))
  | _, [] => []
  | k, op :: ops => op.tag k :: tagFrom (k + 1) ops

/-! ### What one call does to the files -/

/-- What one call can do to the files of a registry, with what it reports. -/
inductive Moved (op : Op β α) (fs : Array (WrappedFile α)) :
    Array (WrappedFile α) → List (Event α) → Prop
  /-- The files stay. -/
  | stay : Moved op fs fs []
  /-- The call's opener gave a handler, and the new file is appended. -/
  | opened {path : String} {fd : Int} {run : β → String → Int → Except String α} {b : β} {h : α} :
      op = .openPath path fd run → run b path fd = .ok h →
      Moved op fs (fs.push { path, fd := some fd, handler := h })
        [.opened { path, fd := some fd, handler := h }]
  /-- One file is replaced by one with the same slots and a reference left, and the same handler
  or the one the call gives it. -/
  | touched {i : Nat} {f g : WrappedFile α} : fs[i]? = some f → g.dups.size = f.dups.size →
      (0 < f.refs → 0 < g.refs) →
      (g.handler = f.handler ∨ ∃ fd c, op = .call fd c ∧ g.handler = c f.handler) →
      Moved op fs (fs.set! i g) []
  /-- One file loses its last reference and is removed and released. -/
  | released {i : Nat} {f : WrappedFile α} {fd : Int} : fs[i]? = some f →
      (f.clear fd).refs = 0 → Moved op fs (fs.eraseIdx! i) [.released (f.clear fd)]

namespace Registry

theorem files_registerTable (r : Registry β α) (entries : List (String × β)) :
    (r.registerTable entries).files = r.files := by
  induction entries generalizing r with
  | nil => rfl
  | cons e entries ih => exact ih _

/-- A call routed to a handler changes that handler only. -/
theorem call_moved (r : Registry β α) (fd : Int) (c : α → α) :
    Moved (.call fd c : Op β α) r.files (r.call fd fun h => (c h, ())).1.files [] := by
  unfold call
  split
  · exact .stay
  · next i _ =>
    split
    · exact .stay
    · next f hf =>
      unfold setHandler
      rw [show r.files[i]? = some f from hf]
      exact .touched hf rfl id (.inr ⟨fd, c, rfl, rfl⟩)

/-- Duplicating into a file fills one of its slots, or fails. -/
theorem duplicate_moved (op : Op β α) (r : Registry β α) (i : Nat) (newFd : Int) :
    Triple (fun _ => True) (r.duplicate i newFd) (fun r' _ => Moved op r.files r'.files [])
      (fun _ => True) := by
  intro m _
  obtain ⟨m', ⟨-, h⟩ | ⟨f, slot, hf, -, hrefs, h⟩ | ⟨f, -, -, h⟩⟩ := duplicate_cases r i newFd m <;>
    rw [h]
  · exact .stay
  · refine .touched hf (by simp) (fun _ => ?_) (.inl rfl)
    rw [hrefs]
    omega
  · trivial

/-- Duplicating a descriptor fills one slot of a file, or fails. -/
theorem dup_moved (op : Op β α) (r : Registry β α) (fd newFd : Int) :
    Triple (fun _ => True) (r.dup fd newFd) (fun r' _ => Moved op r.files r'.files [])
      (fun _ => True) := by
  unfold dup
  split
  · next i _ => exact duplicate_moved op r i newFd
  · exact Triple.throw _ fun _ _ => trivial

end Registry

/-- Every call moves the files in one of the four ways. -/
theorem exec_moved (r : Registry β α) (op : Op β α) :
    Triple (fun _ => True) (op.exec r) (fun x _ => Moved op r.files x.1.files x.2)
      (fun _ => True) := by
  cases op with
  | register path b => exact Triple.pure _ fun _ _ => .stay
  | registerTable entries =>
    exact Triple.pure _ fun _ _ => by
      rw [Registry.files_registerTable]
      exact .stay
  | setVerbose v => exact Triple.pure _ fun _ _ => .stay
  | openPath path fd run =>
    intro m _
    obtain ⟨m', ⟨-, h⟩ | ⟨_, _, _, -, -, h⟩ | ⟨_, b, handler, -, hrun, -, h⟩⟩ :=
      Registry.openPath_cases r path fd run m <;> simp only [Op.exec, run_bind, h, run_pure]
    · exact .stay
    · exact .stay
    · simp only [Array.back?_push, Option.map_some, Option.toList_some]
      exact .opened rfl hrun
  | dup fd newFd =>
    exact Triple.bind (Registry.dup_moved _ r fd newFd) fun _ => Triple.pure _ fun _ h => h
  | duplicate fd newFd =>
    simp only [Op.exec]
    split
    · next i _ =>
      exact Triple.bind (Registry.duplicate_moved _ r i newFd) fun _ => Triple.pure _ fun _ h => h
    · exact Triple.pure _ fun _ _ => .stay
  | close fd =>
    intro m _
    obtain ⟨m', ⟨-, h⟩ | ⟨i, f, -, hf, -, hz, h⟩ | ⟨i, f, -, hf, -, hz, h⟩⟩ :=
      Registry.close_cases r fd m <;>
      simp only [Op.exec, run_bind, h, run_pure]
    · exact .stay
    · exact .released hf hz
    · exact .touched hf (WrappedFile.size_clear f fd) (fun _ => Nat.pos_of_ne_zero hz)
        (.inl (WrappedFile.handler_clear f fd))
  | call fd c => exact Triple.pure _ fun _ _ => Registry.call_moved r fd c
  | noteWrite fd data =>
    exact Triple.bind (R := fun _ _ => True) (fun _ _ => by split <;> trivial)
      fun _ => Triple.pure _ fun _ _ => .stay

/-! ### Sound files along a run -/

namespace Moved

variable {op : Op β α} {fs fs' : Array (WrappedFile α)} {es : List (Event α)}

theorem toList_eraseIdx! {γ : Type} {xs : Array γ} {i : Nat} {x : γ} (h : xs[i]? = some x) :
    (xs.eraseIdx! i).toList = xs.toList.eraseIdx i := by
  obtain ⟨hi, -⟩ := Array.getElem?_eq_some_iff.1 h
  unfold Array.eraseIdx!
  simp [hi]

/-- Every move keeps the files sound. -/
theorem sound (h : Moved op fs fs' es) (hs : ∀ f ∈ fs.toList, f.Sound) :
    ∀ f ∈ fs'.toList, f.Sound := by
  cases h with
  | stay => exact hs
  | opened _ _ =>
    intro f hf
    simp only [Array.toList_push, List.mem_append, List.mem_singleton] at hf
    rcases hf with hf | rfl
    · exact hs f hf
    · exact (Registry.sound_opened _ _ _).1
  | touched hi hsize hrefs _ =>
    have hf₀ := hs _ (Array.mem_toList_iff.2 (Array.mem_of_getElem? hi))
    intro f hf
    rw [Array.set!_eq_setIfInBounds, Array.toList_setIfInBounds] at hf
    rcases List.mem_or_eq_of_mem_set hf with hf | rfl
    · exact hs f hf
    · exact ⟨hsize.trans hf₀.slots, hrefs hf₀.referenced⟩
  | released hi _ =>
    intro f hf
    rw [toList_eraseIdx! hi] at hf
    exact hs f (List.mem_of_mem_eraseIdx hf)

end Moved

/-- A call that cannot fail ends with a value. -/
theorem triple_total {γ : Type} {a : Act γ} {Q : γ → Machine → Prop}
    (h : Triple (fun _ => True) a Q (fun _ => False)) (m : Machine) :
    ∃ x m', Exec.run a m = (.ok x, m') ∧ Q x m' := by
  have hr := h m trivial
  rcases hrun : Exec.run a m with ⟨e | x, m'⟩ <;> rw [hrun] at hr
  · exact hr.elim
  · exact ⟨x, m', rfl, hr⟩

/-- A run of calls never fails, and keeps a sound registry sound. -/
theorem runOps_sound (ops : List (Op β α)) :
    ∀ r : Registry β α, r.Sound →
      Triple (fun _ => True) (runOps r ops) (fun x _ => x.1.Sound) (fun _ => False) := by
  induction ops with
  | nil => exact fun r hr => Triple.pure _ fun _ _ => hr
  | cons op ops ih =>
    intro r hr
    -- a failed call hands the registry on as it was
    have hstep : Triple (fun _ => True) (tryCatch (op.exec r) fun _ => pure (r, []))
        (fun x _ => x.1.Sound) (fun _ => False) :=
      Triple.tryCatch ((exec_moved r op).mono (fun _ h => h) (fun x _ h => h.sound hr)
        fun _ _ => trivial) fun _ => Triple.pure _ fun _ _ => hr
    refine Triple.bind hstep fun step => Triple.of_forall fun _ hs => ?_
    exact Triple.bind ((ih step.1 hs).mono (fun _ _ => trivial) (fun _ _ h => h) fun _ h => h)
      fun _ => Triple.pure _ fun _ h => h

/-! ### Each opened file is released once

A run of calls does not know which of its files is which: two opens of one path with one
descriptor give equal files.  To follow each file, the handler opened by the `k`-th call is
tagged by `k` (`tagFrom`), and the registry, which never reads handlers, runs the same way. -/

namespace Op

theorem tag_openPath {k : Nat} {op : Op β α} {path : String} {fd : Int}
    {run : β → String → Int → Except String (Nat × α)} (h : op.tag k = .openPath path fd run)
    {b : β} {p : String} {n : Int} {x : Nat × α} (hx : run b p n = .ok x) : x.1 = k := by
  cases op with
  | openPath path' fd' run' =>
    simp only [tag, Op.openPath.injEq] at h
    obtain ⟨-, -, rfl⟩ := h
    cases hr : run' b p n with
    | error e => simp [hr, Except.map] at hx
    | ok y =>
      simp only [hr, Except.map, Except.ok.injEq] at hx
      rw [← hx]
  | _ => simp [tag] at h

theorem tag_call {k : Nat} {op : Op β α} {fd : Int} {c : Nat × α → Nat × α}
    (h : op.tag k = .call fd c) (x : Nat × α) : (c x).1 = x.1 := by
  cases op with
  | call fd' f =>
    simp only [tag, Op.call.injEq] at h
    rw [← h.2]
    rfl
  | _ => simp [tag] at h

end Op

/-- The tags of some files, in order. -/
def tags (fs : Array (WrappedFile (Nat × α))) : List Nat :=
  fs.toList.map (·.handler.1)

/-- The tags of the files some events opened. -/
def openedTags (es : List (Event (Nat × α))) : List Nat :=
  (es.filterMap Event.opened?).map (·.handler.1)

/-- The tags of the files some events released. -/
def releasedTags (es : List (Event (Nat × α))) : List Nat :=
  (es.filterMap Event.released?).map (·.handler.1)

@[simp] theorem openedTags_append (es es' : List (Event (Nat × α))) :
    openedTags (es ++ es') = openedTags es ++ openedTags es' := by
  simp [openedTags]

@[simp] theorem releasedTags_append (es es' : List (Event (Nat × α))) :
    releasedTags (es ++ es') = releasedTags es ++ releasedTags es' := by
  simp [releasedTags]

/-- The files before the `k`-th call of a tagged run: sound, with distinct tags below `k`. -/
structure Tagged (k : Nat) (fs : Array (WrappedFile (Nat × α))) : Prop where
  /-- Every file is sound. -/
  sound : ∀ f ∈ fs.toList, f.Sound
  /-- No two files share a tag. -/
  nodup : (tags fs).Nodup
  /-- Every file was opened by an earlier call. -/
  lt : ∀ t ∈ tags fs, t < k

theorem Tagged.succ {k : Nat} {fs : Array (WrappedFile (Nat × α))} (h : Tagged k fs) :
    Tagged (k + 1) fs :=
  ⟨h.sound, h.nodup, fun t ht => Nat.lt_succ_of_lt (h.lt t ht)⟩

theorem tags_set {fs : Array (WrappedFile (Nat × α))} {i : Nat} {f g : WrappedFile (Nat × α)}
    (hi : fs[i]? = some f) (hg : g.handler.1 = f.handler.1) : tags (fs.set! i g) = tags fs := by
  have ht : (tags fs)[i]? = some g.handler.1 := by
    simp [tags, hi, hg]
  obtain ⟨hlt, hget⟩ := List.getElem?_eq_some_iff.1 ht
  have hset : tags (fs.set! i g) = (tags fs).set i g.handler.1 := by
    simp only [tags, Array.set!_eq_setIfInBounds, Array.toList_setIfInBounds, List.map_set]
  rw [hset, ← hget, List.set_getElem_self]

theorem tags_eraseIdx {fs : Array (WrappedFile (Nat × α))} {i : Nat} {f : WrappedFile (Nat × α)}
    (hi : fs[i]? = some f) : (f.handler.1 :: tags (fs.eraseIdx! i)).Perm (tags fs) := by
  have ht : (tags fs)[i]? = some f.handler.1 := by
    simp [tags, hi]
  obtain ⟨hlt, hget⟩ := List.getElem?_eq_some_iff.1 ht
  have herase : tags (fs.eraseIdx! i) = (tags fs).eraseIdx i := by
    simp only [tags, Moved.toList_eraseIdx! hi, List.eraseIdx_eq_take_drop_succ, List.map_append,
      List.map_take, List.map_drop]
  rw [herase, ← hget]
  exact List.getElem_cons_eraseIdx_perm hlt

/-- One tagged call: the files stay tagged, a file opened carries the call's own tag, a file
released has no reference left, and the files before and the files opened are the files released
and the files after. -/
theorem Moved.tagged {k : Nat} {op : Op β α} {fs fs' : Array (WrappedFile (Nat × α))}
    {es : List (Event (Nat × α))} (h : Moved (op.tag k) fs fs' es) (ht : Tagged k fs) :
    Tagged (k + 1) fs' ∧ (tags fs ++ openedTags es).Perm (releasedTags es ++ tags fs') ∧
      (openedTags es).Sublist [k] ∧ ∀ f ∈ es.filterMap Event.released?, f.refs = 0 := by
  have hsound := h.sound ht.sound
  cases h with
  | stay => simpa [openedTags, releasedTags] using ht.succ
  | opened hop hrun =>
    have hk := Op.tag_openPath hop hrun
    have hnew : k ∉ tags fs := fun hk' => Nat.lt_irrefl k (ht.lt k hk')
    refine ⟨⟨hsound, ?_, ?_⟩, ?_, ?_, ?_⟩
    · rw [tags, Array.toList_push, List.map_append, List.nodup_append]
      refine ⟨ht.nodup, List.nodup_singleton _, fun a ha b hb hab => hnew ?_⟩
      simp only [List.map_cons, List.map_nil, List.mem_singleton] at hb
      rw [hb, hk] at hab
      rw [← hab]
      exact ha
    · intro t htag
      simp only [tags, Array.toList_push, List.map_append, List.mem_append, List.map_cons,
        List.map_nil, List.mem_singleton] at htag
      rcases htag with htag | rfl
      · exact Nat.lt_succ_of_lt (ht.lt t htag)
      · rw [hk]; exact Nat.lt_succ_self k
    · simp [tags, openedTags, releasedTags, List.filterMap_cons]
    · simp [openedTags, hk]
    · simp [List.filterMap_cons]
  | @touched i f g hi _ _ hhandler =>
    -- a call's handler change keeps the tag
    have hg : g.handler.1 = f.handler.1 := by
      rcases hhandler with hh | ⟨fd, c, hc, hh⟩
      · exact congrArg Prod.fst hh
      · rw [hh]; exact Op.tag_call hc _
    have hts := tags_set hi hg
    refine ⟨⟨hsound, hts ▸ ht.nodup, fun t htag => Nat.lt_succ_of_lt (ht.lt t (hts ▸ htag))⟩,
      ?_, ?_, ?_⟩
    · rw [hts]
      simp [openedTags, releasedTags]
    · simp [openedTags]
    · simp
  | released hi hz =>
    have hperm := tags_eraseIdx hi
    refine ⟨⟨hsound, ?_, ?_⟩, ?_, ?_, ?_⟩
    · exact (List.nodup_cons.1 (hperm.nodup_iff.2 ht.nodup)).2
    · intro t htag
      exact Nat.lt_succ_of_lt (ht.lt t (hperm.subset (List.mem_cons_of_mem _ htag)))
    · simpa [openedTags, releasedTags, List.filterMap_cons, WrappedFile.handler_clear] using
        hperm.symm
    · simp [openedTags, List.filterMap_cons]
    · simpa [List.filterMap_cons] using hz

/-- A tagged run from its `k`-th call never fails.  The files stay tagged; the files before and
the files opened are the files released and the files after; the files opened carry distinct
tags from `k` on; and every file released has no reference left. -/
theorem runOps_tagged (ops : List (Op β α)) :
    ∀ (k : Nat) (r : Registry β (Nat × α)), Tagged k r.files →
      Triple (fun _ => True) (runOps r (tagFrom k ops))
        (fun x _ => Tagged (k + ops.length) x.1.files ∧
          (tags r.files ++ openedTags x.2).Perm (releasedTags x.2 ++ tags x.1.files) ∧
          (openedTags x.2).Nodup ∧ (∀ t ∈ openedTags x.2, k ≤ t) ∧
          ∀ f ∈ x.2.filterMap Event.released?, f.refs = 0)
        (fun _ => False) := by
  induction ops with
  | nil =>
    intro k r ht
    exact Triple.pure _ fun _ _ =>
      ⟨ht, by simp [openedTags, releasedTags], by simp [openedTags], by simp [openedTags], by simp⟩
  | cons op ops ih =>
    intro k r ht
    -- the `k`-th call, a failure handing the registry on as it was
    have hstep : Triple (fun _ => True) (tryCatch ((op.tag k).exec r) fun _ => pure (r, []))
        (fun x _ => Tagged (k + 1) x.1.files ∧
          (tags r.files ++ openedTags x.2).Perm (releasedTags x.2 ++ tags x.1.files) ∧
          (openedTags x.2).Sublist [k] ∧ ∀ f ∈ x.2.filterMap Event.released?, f.refs = 0)
        (fun _ => False) :=
      Triple.tryCatch ((exec_moved r (op.tag k)).mono (fun _ h => h) (fun _ _ h => h.tagged ht)
        fun _ _ => trivial) fun _ => Triple.pure _ fun _ _ =>
        (Moved.stay : Moved (op.tag k) r.files r.files []).tagged ht
    refine Triple.bind hstep fun step => Triple.of_forall fun _ ⟨ht₁, hp₁, hs₁, hz₁⟩ => ?_
    refine Triple.bind ((ih (k + 1) step.1 ht₁).mono (fun _ _ => trivial) (fun _ _ h => h)
      fun _ h => h) fun rest => Triple.pure _ fun _ ⟨ht₂, hp₂, hn₂, hge₂, hz₂⟩ => ?_
    -- the call opened at most the tag `k`, and the rest of the run only later tags
    have hk₁ : ∀ t ∈ openedTags step.2, t = k := fun t ht =>
      List.mem_singleton.1 (hs₁.subset ht)
    refine ⟨?_, ?_, ?_, ?_, ?_⟩
    · rw [List.length_cons, ← Nat.add_assoc, Nat.add_right_comm]
      exact ht₂
    · calc List.Perm (tags r.files ++ openedTags (step.2 ++ rest.2))
            (releasedTags step.2 ++ tags step.1.files ++ openedTags rest.2) := by
            rw [openedTags_append, ← List.append_assoc]
            exact hp₁.append_right _
        _ = releasedTags step.2 ++ (tags step.1.files ++ openedTags rest.2) :=
            List.append_assoc _ _ _
        List.Perm _ (releasedTags step.2 ++ (releasedTags rest.2 ++ tags rest.1.files)) :=
            hp₂.append_left _
        _ = releasedTags (step.2 ++ rest.2) ++ tags rest.1.files := by
            rw [releasedTags_append, List.append_assoc]
    · rw [openedTags_append, List.nodup_append]
      refine ⟨hs₁.nodup (List.nodup_singleton k), hn₂, fun a ha b hb hab => ?_⟩
      have := hge₂ b hb
      rw [← hab, hk₁ a ha] at this
      omega
    · intro t ht
      rw [openedTags_append, List.mem_append] at ht
      rcases ht with ht | ht
      · exact (hk₁ t ht).ge
      · exact Nat.le_of_succ_le (hge₂ t ht)
    · intro f hf
      rw [List.filterMap_append, List.mem_append] at hf
      rcases hf with hf | hf
      · exact hz₁ f hf
      · exact hz₂ f hf

/-- Along every run from a sound registry, every file has between one and nine references. -/
theorem runOps_refs (r : Registry β α) (ops : List (Op β α)) (hr : r.Sound) (m : Machine) :
    ∃ r' es m', Exec.run (runOps r ops) m = (.ok (r', es), m') ∧
      ∀ f ∈ r'.files.toList, 1 ≤ f.refs ∧ f.refs ≤ 1 + dupCapacity := by
  obtain ⟨⟨r', es⟩, m', hrun, hs⟩ := triple_total (runOps_sound ops r hr) m
  exact ⟨r', es, m', hrun, fun f hf => ⟨(hs f hf).referenced, (hs f hf).refs_le⟩⟩

/-- Each opened file is released once.  In a run of calls from a registry with no files, with
each opened handler tagged by the number of its call, the files opened are the files released and
the files still open, none twice; a file is released only when it has no reference left. -/
theorem runOps_released_once (r : Registry β (Nat × α)) (ops : List (Op β α)) (m : Machine) :
    ∃ r' es m', Exec.run (runOps { r with files := #[] } (tagFrom 0 ops)) m = (.ok (r', es), m') ∧
      (openedTags es).Nodup ∧ (releasedTags es).Nodup ∧
      (openedTags es).Perm (releasedTags es ++ tags r'.files) ∧
      ∀ f ∈ es.filterMap Event.released?, f.refs = 0 := by
  have ht : Tagged 0 ({ r with files := #[] } : Registry β (Nat × α)).files :=
    ⟨by simp, by simp [tags], by simp [tags]⟩
  obtain ⟨⟨r', es⟩, m', hrun, -, hp, hn, -, hz⟩ := triple_total (runOps_tagged ops 0 _ ht) m
  have hp' : (openedTags es).Perm (releasedTags es ++ tags r'.files) := by
    simpa [tags] using hp
  -- the files released and the files open are the distinct files opened
  have hd := (List.nodup_append.1 (hp'.nodup_iff.1 hn)).1
  exact ⟨r', es, m', hrun, hn, hd, hp', hz⟩

/-! ### The contract of the registry -/

/-- The registry's contract: a lookup finds the first file answering to a descriptor; each call
does one thing to the references; every run keeps every file between one and nine references;
and each opened file is released once, without references. -/
structure Contract (β α : Type) : Prop where
  /-- A lookup gives the first file that answers to the descriptor. -/
  lookup_some : ∀ (r : Registry β α) (fd : Int) (i : Nat), r.lookup fd = some i →
    ∃ f, r.files[i]? = some f ∧ f.matches fd = true ∧
      ∀ j < i, ∀ g, r.files[j]? = some g → g.matches fd = false
  /-- A lookup finds nothing only when no file answers to the descriptor. -/
  lookup_none : ∀ (r : Registry β α) (fd : Int), r.lookup fd = none →
    ∀ f ∈ r.files.toList, f.matches fd = false
  /-- Opening leaves the registry unless the first entry's opener succeeds; then one file is
  appended, with one reference. -/
  openPath : ∀ (r : Registry β α) (path : String) (fd : Int)
    (run : β → String → Int → Except String α) (m : Machine),
    ∃ m', (r.table.find? (·.1 == path) = none ∧
        Exec.run (r.openPath path fd run) m = (.ok (r, .unmatched), m')) ∨
      (∃ p b reason, r.table.find? (·.1 == path) = some (p, b) ∧ run b path fd = .error reason ∧
        Exec.run (r.openPath path fd run) m = (.ok (r, .refused b reason), m')) ∨
      (∃ p b h, r.table.find? (·.1 == path) = some (p, b) ∧ run b path fd = .ok h ∧
        ({ path, fd := some fd, handler := h } : WrappedFile α).refs = 1 ∧
        Exec.run (r.openPath path fd run) m =
          (.ok ({ r with files := r.files.push { path, fd := some fd, handler := h } }, .wrapped b),
            m'))
  /-- Duplicating into a file fills its first empty slot, one reference more, or fails for want
  of a slot. -/
  duplicate : ∀ (r : Registry β α) (i : Nat) (newFd : Int) (m : Machine),
    ∃ m', (r.files[i]? = none ∧ Exec.run (r.duplicate i newFd) m = (.ok r, m')) ∨
      (∃ f slot, r.files[i]? = some f ∧ f.dups.findIdx? (·.isNone) = some slot ∧
        ({ f with dups := f.dups.set! slot (some newFd) } : WrappedFile α).refs = f.refs + 1 ∧
        Exec.run (r.duplicate i newFd) m =
          (.ok { r with files := r.files.set! i { f with dups := f.dups.set! slot (some newFd) } },
            m')) ∨
      (∃ f, r.files[i]? = some f ∧ f.dups.findIdx? (·.isNone) = none ∧
        Exec.run (r.duplicate i newFd) m = (.error (.slotExhaustion f.path), m'))
  /-- Duplicating a descriptor duplicates into the file a lookup finds, or fails when there is
  none. -/
  dup : ∀ (r : Registry β α) (fd newFd : Int) (m : Machine),
    (r.lookup fd = none ∧ Exec.run (r.dup fd newFd) m = (.error (.unknownFd fd), m)) ∨
      ∃ i, r.lookup fd = some i ∧ Exec.run (r.dup fd newFd) m = Exec.run (r.duplicate i newFd) m
  /-- Closing takes one reference from the file a lookup finds and from no other, and removes
  and hands back that file exactly when it has none left; it reports whether a file was found. -/
  close : ∀ (r : Registry β α) (fd : Int) (m : Machine),
    ∃ m', (r.lookup fd = none ∧ Exec.run (r.close fd) m = (.ok (r, false, none), m')) ∨
      (∃ i f, r.lookup fd = some i ∧ r.files[i]? = some f ∧ (f.clear fd).refs + 1 = f.refs ∧
        (f.clear fd).refs = 0 ∧ Exec.run (r.close fd) m =
          (.ok ({ r with files := r.files.eraseIdx! i }, true, some (f.clear fd)), m')) ∨
      (∃ i f, r.lookup fd = some i ∧ r.files[i]? = some f ∧ (f.clear fd).refs + 1 = f.refs ∧
        (f.clear fd).refs ≠ 0 ∧ Exec.run (r.close fd) m =
          (.ok ({ r with files := r.files.set! i (f.clear fd) }, true, none), m'))
  /-- Every run from a sound registry succeeds, and leaves every file between one and nine
  references. -/
  refs : ∀ (r : Registry β α) (ops : List (Op β α)), r.Sound → ∀ m : Machine,
    ∃ r' es m', Exec.run (runOps r ops) m = (.ok (r', es), m') ∧
      ∀ f ∈ r'.files.toList, 1 ≤ f.refs ∧ f.refs ≤ 1 + dupCapacity
  /-- Every run from no files, its opened files tagged, opens each file once and releases it at
  most once, without references; the files opened are those released and those still open. -/
  released_once : ∀ (r : Registry β (Nat × α)) (ops : List (Op β α)) (m : Machine),
    ∃ r' es m', Exec.run (runOps { r with files := #[] } (tagFrom 0 ops)) m = (.ok (r', es), m') ∧
      (openedTags es).Nodup ∧ (releasedTags es).Nodup ∧
      (openedTags es).Perm (releasedTags es ++ tags r'.files) ∧
      ∀ f ∈ es.filterMap Event.released?, f.refs = 0

/-- The registry keeps its contract, for all openers and handlers. -/
theorem registry_contract : Contract β α where
  lookup_some _ _ _ h := Registry.lookup_eq_some h
  lookup_none _ _ h := Registry.lookup_eq_none h
  openPath := Registry.openPath_cases
  duplicate := Registry.duplicate_cases
  dup := Registry.run_dup
  close := Registry.close_cases
  refs := runOps_refs
  released_once := runOps_released_once

end TegraGpu.Intercept
