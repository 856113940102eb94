import Mathlib
import TegraGpu.Proofs.Perform
/-!
# The lifecycle of buffer objects over whole sessions

A session reached from a new one by any script of library commands holds its views under names,
in mappings, in its engine's slots and in its display context.  The accounts of
`Proofs.Commands` hold of every such session (`Reachable.good`): each step keeps them
(`step_good`), whether the command answers or fails, since a failed step keeps the session's
names and the machine as the command left it.

Read back as facts about the device (`reachable_accounted`): while the device has given out fewer
than `2 ^ 32` handles,

* a store is live exactly when a view of it is held, and it counts the views held of it: its
  allocation goes back when the last view does, and never while one is held;
* the device's allocations are the live stores', one under each store's handle, of the store's
  size rounded up to two bytes, and no handle is held twice;
* the bytes the device counts as allocated are the sum of those sizes.

The raw device calls are left out of the scripts: they allocate and free with no store.
-/

namespace TegraGpu

open Buffer Host Exec Raster

namespace Buffer

/-- A table with no store is accounted for by no views. -/
theorem Stores.holds_empty : Stores.Holds 0 0 Stores.empty where
  live v hv := by simp at hv
  refs k st h := by simp at h
  refs_pos k st h := by simp at h
  mapped k st h := by simp at h
  single k := by simp

/-- A store is live exactly when a view of it is held. -/
theorem Stores.Holds.live_iff {vs ms : Multiset View} {ss : Stores} (h : Stores.Holds vs ms ss)
    (k : Nat) : (∃ st, ss.find? k = some st) ↔ ∃ v ∈ vs + ms, v.store = k := by
  constructor
  · rintro ⟨st, hst⟩
    exact Multiset.countP_pos.1 (h.countP_pos hst)
  · rintro ⟨v, hv, rfl⟩
    obtain ⟨st, hst, -⟩ := h.live v hv
    exact ⟨st, hst⟩

/-- The bytes the device counts are the live stores' sizes, rounded up to two bytes. -/
theorem Backed.allocated_eq {m : Machine} (h : Backed m) :
    m.device.allocated = (m.stores.entries.map fun e => roundUp e.2.size 2).sum := by
  have hperm := h.objects.map Prod.snd
  simp only [List.map_map, Function.comp_def] at hperm
  rw [h.sound.allocated_eq, Host.Device.held_eq_sum]
  exact hperm.sum_eq

end Buffer

namespace Script

namespace Session

variable {B : Machine → Prop}

/-! ### One step -/

theorem step_of_ok {s s' : Session} {c : Command} {x : Reply}
    (h : Exec.run (perform c) s = (.ok x, s')) : s.step c = (s', .ok x) := by
  unfold Session.step
  unfold Exec.run at h
  rw [h]

theorem step_of_error {s s' : Session} {c : Command} {e : Fault}
    (h : Exec.run (perform c) s = (.error e, s')) :
    s.step c = ({ s with machine := s'.machine, events := s'.events }, .error e) := by
  unfold Session.step
  unfold Exec.run at h
  rw [h]

/-- **A step of a session keeps its accounts**, whether the command answers or fails: a failed
step keeps the names, whose accounts hold of the machine the command leaves. -/
theorem step_good (hB : Kept B) {s : Session} (hs : Good B s) {c : Command}
    (hc : c.direct = false) : Good B (s.step c).1 := by
  have h := perform_step hB c hc s hs s rfl
  rcases hrun : Exec.run (perform c) s with ⟨e | x, s'⟩ <;> rw [hrun] at h
  · rw [step_of_error hrun]
    exact ⟨h, hs.2.buffers, hs.2.mappings, hs.2.surfaces, hs.2.framebuffers, hs.2.engine⟩
  · rw [step_of_ok hrun]
    exact h

/-! ### Every reachable session -/

/-- The sessions that scripts of library commands reach from a new session with the byte budget
`limit`. -/
inductive Reachable (limit : Option Nat) : Session → Prop
  | start : Reachable limit (Session.start limit)
  | step {s : Session} {c : Command} : Reachable limit s → c.direct = false →
      Reachable limit (s.step c).1

theorem good_start (limit : Option Nat) : Good Ledger (Session.start limit) := by
  have hviews : (Session.start limit).views = 0 := by
    simp [views, Session.start, Engine.views_initial, displayViews]
  have hmaps : (Session.start limit).maps = 0 := rfl
  refine ⟨⟨by rw [hviews, hmaps]; exact Stores.holds_empty, fun _ => ⟨?_, List.Perm.nil⟩⟩,
    ⟨List.nodup_nil, List.nodup_nil, List.nodup_nil, List.nodup_nil, Engine.shaped_initial⟩⟩
  exact Host.Device.sound_new.of_shape rfl rfl rfl

/-- **The accounts hold of every reachable session**, by induction on the script. -/
theorem Reachable.good {limit : Option Nat} {s : Session} (h : s.Reachable limit) :
    Good Ledger s := by
  induction h with
  | start => exact good_start limit
  | step _ hc ih => exact step_good kept_ledger ih hc

/-- The accounts of a session read as facts about its device. -/
structure Accounted (s : Session) : Prop where
  /-- A store is live exactly when a view of it is held. -/
  live_iff : ∀ k, (∃ st, s.machine.stores.find? k = some st) ↔ ∃ v ∈ s.views + s.maps, v.store = k
  /-- A store counts the views held of it. -/
  refs : ∀ k st, s.machine.stores.find? k = some st →
    st.refs = (s.views + s.maps).countP (·.store = k)
  /-- The allocations are the live stores', under their handles and of their sizes rounded up
  to two bytes. -/
  allocations : (s.machine.device.objects.map fun a => (a.handle, a.len)).Perm
    (s.machine.stores.entries.map fun e => (e.2.handle, roundUp e.2.size 2))
  /-- No handle is held twice. -/
  handles : (s.machine.device.objects.map (·.handle)).Nodup
  /-- The bytes counted as allocated are the sum of those sizes. -/
  allocated : s.machine.device.allocated =
    (s.machine.stores.entries.map fun e => roundUp e.2.size 2).sum

/-- **The lifecycle of buffer objects.**  In every session that library commands reach, while
the device has given out fewer than `2 ^ 32` handles, the device holds exactly one allocation
for each store of which a view is held, and the bytes it counts are theirs. -/
theorem reachable_accounted {limit : Option Nat} {s : Session} (hs : s.Reachable limit)
    (hfew : s.machine.device.created < 2 ^ 32) : s.Accounted := by
  obtain ⟨⟨hh, hl⟩, -⟩ := hs.good
  have hb := hl hfew
  exact ⟨hh.live_iff, hh.refs, hb.objects, hb.sound.nodup, hb.allocated_eq⟩

/-- A buffer, a wrap that outlives it, and a surface that the engine keeps after its name goes. -/
def sampleSession : Session :=
  let s := Session.start none
  let s := (s.step (.bufferCreate "a" 4 {})).1
  let s := (s.step (.bufferWrap "a" 1 "b")).1
  let s := (s.step (.bufferFree "a")).1
  let s := (s.step (.surfaceCreate "p" 2 2 .rgba8888 .linear)).1
  let s := (s.step (.engineBindTarget 0 "p")).1
  (s.step (.surfaceFree "p")).1

theorem sampleSession_accounted :
    sampleSession.Reachable none ∧ sampleSession.machine.device.created < 2 ^ 32 ∧
      sampleSession.Accounted :=
  have hs : sampleSession.Reachable none :=
    .step (.step (.step (.step (.step (.step .start rfl) rfl) rfl) rfl) rfl) rfl
  have hfew : sampleSession.machine.device.created < 2 ^ 32 := by decide
  ⟨hs, hfew, reachable_accounted hs hfew⟩

end Session

end Script

end TegraGpu
