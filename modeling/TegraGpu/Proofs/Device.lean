import Mathlib
import TegraGpu.Host.Device
/-!
# The bookkeeping of the host device

The device is driven by six calls: its four own (create, free, map, invalidate) and the two
settings (the byte limit and the refusal of maps).  A creation is made with whatever the host's
allocator answers, so a run quantifies over the allocator too.

The handle counter wraps around after `2 ^ 32` creations, and a creation then takes the place of
an allocation still held under the same handle.  Up to that point the device keeps its books:

* `Device.Sound` : no handle names two allocations, every held handle was given out, and the byte
  count is the sum of the lengths; `Sound.run` : every run that gives out at most `2 ^ 32`
  handles keeps it.
* `Device.createWith_ok` : what a creation does, and `Device.nextHandle_fresh` : while fewer than
  `2 ^ 32` handles have been given out, the next one is held by nothing.
* `Device.invalidate_records` : an invalidation is recorded exactly when it lies in a held
  allocation, whatever its offset and size.
-/

namespace TegraGpu

namespace Host

/-- The handle given out by the creation that follows `n` others. -/
def countHandle (n : Nat) : Handle := ⟨(n + 1).toUInt32⟩

theorem countHandle_toNat (n : Nat) : (countHandle n).id.toNat = (n + 1) % 2 ^ 32 := by
  simp [countHandle]

/-- Two of the first `2 ^ 32` creations never give the same handle. -/
theorem countHandle_inj {i j : Nat} (hi : i < 2 ^ 32) (hj : j < 2 ^ 32)
    (h : countHandle i = countHandle j) : i = j := by
  have := congrArg (fun h => h.id.toNat) h
  simp only [countHandle_toNat] at this
  by_cases hi' : i + 1 = 2 ^ 32 <;> by_cases hj' : j + 1 = 2 ^ 32
  · omega
  · rw [hi', Nat.mod_self, Nat.mod_eq_of_lt (by omega)] at this; omega
  · rw [hj', Nat.mod_self, Nat.mod_eq_of_lt (by omega)] at this; omega
  · rw [Nat.mod_eq_of_lt (by omega), Nat.mod_eq_of_lt (by omega)] at this; omega

/-- A call on the device: a creation carries what the host's allocator answers on each size. -/
inductive Call where
  | create (size align : Nat) (grants : Nat → Bool)
  | free (h : Handle)
  | mmap (h : Handle)
  | invalidate (h : Handle) (offset size : Nat)
  | setLimit (limit : Option Nat)
  | setMapFailure (fail : Bool)

namespace Device

/-- The device after a call; a call that fails leaves it as it was. -/
def step (d : Device) : Call → Device
  | .create size align grants =>
    match d.createWith grants size align with
    | .ok (_, d') => d'
    | .error _ => d
  | .free h => (d.free h).1
  | .mmap _ => d
  | .invalidate h offset size =>
    match d.invalidate h offset size with
    | .ok d' => d'
    | .error _ => d
  | .setLimit limit => { d with limit }
  | .setMapFailure fail => { d with failMaps := fail }

/-- The device after a run of calls. -/
def run (d : Device) (cs : List Call) : Device := cs.foldl step d

@[simp] theorem run_nil (d : Device) : d.run [] = d := rfl

@[simp] theorem run_cons (d : Device) (c : Call) (cs : List Call) :
    d.run (c :: cs) = (d.step c).run cs := rfl

theorem run_append (d : Device) (cs cs' : List Call) :
    d.run (cs ++ cs') = (d.run cs).run cs' := List.foldl_append

theorem nextHandle_eq (d : Device) : d.nextHandle = countHandle d.created := rfl

theorem held_eq_sum (d : Device) : d.held = (d.objects.map Allocation.len).sum := by
  unfold held
  induction d.objects with
  | nil => rfl
  | cons a l ih => simp [ih]

/-! ### The allocation list -/

theorem holds_iff {d : Device} {h : Handle} :
    d.holds h = true ↔ h ∈ d.objects.map Allocation.handle := by
  simp only [holds, List.any_eq_true, beq_iff_eq, List.mem_map]

theorem object?_eq_some {d : Device} {h : Handle} {a : Allocation} (hd : d.object? h = some a) :
    a ∈ d.objects ∧ a.handle = h := by
  unfold object? at hd
  exact ⟨List.mem_of_find?_eq_some hd, by simpa using List.find?_some hd⟩

/-- In a list of allocations with distinct handles, the handle of a member finds it. -/
theorem find?_handle {l : List Allocation} {a : Allocation} (hnd : (l.map Allocation.handle).Nodup)
    (ha : a ∈ l) : l.find? (fun b => b.handle == a.handle) = some a := by
  induction l with
  | nil => cases ha
  | cons b l ih =>
    rw [List.map_cons, List.nodup_cons] at hnd
    rcases List.mem_cons.1 ha with rfl | ha
    · simp
    · have hne : b.handle ≠ a.handle := fun h => hnd.1 (h ▸ List.mem_map_of_mem ha)
      simp [hne, ih hnd.2 ha]

theorem object?_of_mem {d : Device} {a : Allocation}
    (hnd : (d.objects.map Allocation.handle).Nodup) (ha : a ∈ d.objects) :
    d.object? a.handle = some a :=
  find?_handle hnd ha

/-- Dropping the allocation of a handle from a list with distinct handles takes its length off
the sum of the lengths. -/
theorem sum_filter_handle {l : List Allocation} {a : Allocation}
    (hnd : (l.map Allocation.handle).Nodup) (ha : a ∈ l) :
    ((l.filter fun b => b.handle != a.handle).map Allocation.len).sum + a.len =
      (l.map Allocation.len).sum := by
  induction l with
  | nil => cases ha
  | cons b l ih =>
    rw [List.map_cons, List.nodup_cons] at hnd
    rcases List.mem_cons.1 ha with rfl | ha
    · have hl : l.filter (fun c => c.handle != a.handle) = l := by
        rw [List.filter_eq_self]
        intro c hc
        have : c.handle ≠ a.handle := fun h => hnd.1 (h ▸ List.mem_map_of_mem hc)
        simpa using this
      simp [hl, Nat.add_comm]
    · have hne : b.handle ≠ a.handle := fun h => hnd.1 (h ▸ List.mem_map_of_mem ha)
      have := ih hnd.2 ha
      simp only [List.filter_cons, bne_iff_ne, ne_eq, hne, not_false_eq_true, ite_true,
        List.map_cons, List.sum_cons] at this ⊢
      omega

theorem filter_handle_of_not_mem {l : List Allocation} {h : Handle}
    (hh : h ∉ l.map Allocation.handle) : l.filter (fun b => b.handle != h) = l := by
  rw [List.filter_eq_self]
  intro b hb
  have : b.handle ≠ h := fun e => hh (e ▸ List.mem_map_of_mem hb)
  simpa using this

/-! ### Creation -/

/-- What a creation that succeeds checked and did. -/
theorem createWith_ok {g : Nat → Bool} {d d' : Device} {size align : Nat} {h : Handle}
    (hc : d.createWith g size align = .ok (h, d')) :
    0 < size ∧ roundUp size (max align 1) ≤ wordMax ∧
      (∀ l, d.limit = some l → d.allocated + roundUp size (max align 1) ≤ l) ∧
      g (roundUp size (max align 1)) = true ∧ d.held + roundUp size (max align 1) ≤ wordMax ∧
      h = d.nextHandle ∧
      d' = { d with
        objects := d.objects.filter (fun a => a.handle != h) ++
          [⟨h, roundUp size (max align 1), zeros (roundUp size (max align 1))⟩],
        created := d.created + 1,
        allocated := min (d.allocated + roundUp size (max align 1)) wordMax } := by
  unfold createWith at hc
  simp only at hc
  split_ifs at hc with h0 h1 h2 h3
  simp only [Except.ok.injEq, Prod.mk.injEq] at hc
  obtain ⟨rfl, rfl⟩ := hc
  simp only [not_or, Bool.not_eq_false, Nat.not_lt] at h3
  refine ⟨Nat.pos_of_ne_zero h0, Nat.le_of_not_lt h1, ?_, h3.1, h3.2, rfl, rfl⟩
  intro l hl
  simp only [hl, Bool.or_eq_true, decide_eq_true_eq, not_or, Nat.not_lt] at h2
  exact h2.2

/-- What an invalidation that succeeds did. -/
theorem invalidate_ok {d d' : Device} {h : Handle} {offset size : Nat}
    (hi : d.invalidate h offset size = .ok d') :
    d' = { d with invalidations := d.invalidations.push ⟨h, offset, size⟩ } := by
  unfold invalidate at hi
  split at hi
  · cases hi
  · split_ifs at hi
    cases hi
    rfl

theorem created_le_step (d : Device) (c : Call) : d.created ≤ (d.step c).created := by
  cases c with
  | create size align g =>
    simp only [step]
    split
    · rename_i h d' hc
      rw [(createWith_ok hc).2.2.2.2.2.2]
      exact Nat.le_succ _
    · exact Nat.le_refl _
  | free h =>
    simp only [step, free]
    split <;> exact Nat.le_refl _
  | invalidate h offset size =>
    simp only [step]
    split
    · rename_i d' hi
      obtain rfl := invalidate_ok hi
      exact Nat.le_refl _
    · exact Nat.le_refl _
  | mmap | setLimit | setMapFailure => exact Nat.le_refl _

theorem created_le_run (d : Device) (cs : List Call) : d.created ≤ (d.run cs).created := by
  induction cs generalizing d with
  | nil => exact Nat.le_refl _
  | cons c cs ih => exact Nat.le_trans (created_le_step d c) (ih _)

/-! ### The books -/

/-- The books of a device: what a new device has, and what every call keeps while the device has
given out at most `2 ^ 32` handles. -/
structure Sound (d : Device) : Prop where
  /-- No handle names two allocations. -/
  nodup : (d.objects.map Allocation.handle).Nodup
  /-- Every held handle was given out by one of the creations so far. -/
  issued : ∀ a ∈ d.objects, ∃ i < d.created, a.handle = countHandle i
  /-- The byte count is the sum of the lengths. -/
  allocated_eq : d.allocated = d.held
  /-- The allocations fit in the address space. -/
  held_le : d.held ≤ wordMax

/-- The books read only the handles and lengths of the allocations and the two counts. -/
theorem Sound.of_shape {d d' : Device} (hd : Sound d)
    (hs : d'.objects.map (fun a => (a.handle, a.len)) = d.objects.map (fun a => (a.handle, a.len)))
    (ha : d'.allocated = d.allocated) (hc : d'.created = d.created) : Sound d' := by
  have hhandles : d'.objects.map Allocation.handle = d.objects.map Allocation.handle := by
    have := congrArg (List.map Prod.fst) hs
    simp only [List.map_map] at this
    exact this
  have hheld : d'.held = d.held := by
    have := congrArg (fun l => (l.map Prod.snd).sum) hs
    simp only [List.map_map] at this
    rw [held_eq_sum, held_eq_sum]
    exact this
  refine ⟨hhandles ▸ hd.nodup, ?_, by rw [ha, hheld, hd.allocated_eq], hheld ▸ hd.held_le⟩
  intro a ha'
  have hmem : (a.handle, a.len) ∈ d.objects.map (fun a => (a.handle, a.len)) :=
    hs ▸ List.mem_map_of_mem ha'
  obtain ⟨b, hb, hab⟩ := List.mem_map.1 hmem
  obtain ⟨i, hi, hbi⟩ := hd.issued b hb
  simp only [Prod.mk.injEq] at hab
  exact ⟨i, hc ▸ hi, hab.1 ▸ hbi⟩

theorem sound_new : Sound ({} : Device) where
  nodup := List.nodup_nil
  issued := by simp
  allocated_eq := rfl
  held_le := by simp [held]

/-- While fewer than `2 ^ 32` handles have been given out, the next one is held by nothing. -/
theorem nextHandle_fresh {d : Device} (hd : Sound d) (hfew : d.created < 2 ^ 32) :
    d.nextHandle ∉ d.objects.map Allocation.handle := by
  intro hmem
  obtain ⟨a, ha, hh⟩ := List.mem_map.1 hmem
  obtain ⟨i, hi, hai⟩ := hd.issued a ha
  rw [hai, nextHandle_eq] at hh
  have : i = d.created := countHandle_inj (by omega) hfew hh
  omega

theorem Sound.create {d d' : Device} {g : Nat → Bool} {size align : Nat} {h : Handle}
    (hd : Sound d) (hfew : d.created < 2 ^ 32) (hc : d.createWith g size align = .ok (h, d')) :
    Sound d' := by
  obtain ⟨-, -, -, -, hfit, rfl, rfl⟩ := createWith_ok hc
  have hfresh := nextHandle_fresh hd hfew
  rw [filter_handle_of_not_mem hfresh]
  have hheld : held { d with
      objects := d.objects ++
        [⟨d.nextHandle, roundUp size (max align 1), zeros (roundUp size (max align 1))⟩],
      created := d.created + 1,
      allocated := min (d.allocated + roundUp size (max align 1)) wordMax } =
      d.held + roundUp size (max align 1) := by
    simp [held_eq_sum]
  constructor
  · rw [List.map_append, List.nodup_append]
    refine ⟨hd.nodup, by simp, ?_⟩
    intro a ha b hb
    simp only [List.map_cons, List.map_nil, List.mem_singleton] at hb
    subst hb
    exact fun e => hfresh (e ▸ ha)
  · intro a ha
    rcases List.mem_append.1 ha with ha | ha
    · obtain ⟨i, hi, hai⟩ := hd.issued a ha
      exact ⟨i, Nat.lt_succ_of_lt hi, hai⟩
    · rw [List.mem_singleton] at ha
      subst ha
      exact ⟨d.created, Nat.lt_succ_self _, nextHandle_eq d⟩
  · rw [hheld, hd.allocated_eq]
    exact Nat.min_eq_left hfit
  · rw [hheld]
    exact hfit

theorem Sound.free {d : Device} (hd : Sound d) (h : Handle) : Sound (d.free h).1 := by
  unfold Device.free
  cases ho : d.object? h with
  | none => exact hd
  | some a =>
    obtain ⟨ha, rfl⟩ := object?_eq_some ho
    have hsum := sum_filter_handle hd.nodup ha
    have hheld : held { d with
        objects := d.objects.filter (fun b => b.handle != a.handle),
        allocated := d.allocated - a.len } + a.len = d.held := by
      rw [held_eq_sum, held_eq_sum]
      exact hsum
    constructor
    · exact hd.nodup.sublist (List.filter_sublist.map _)
    · intro b hb
      exact hd.issued b (List.mem_filter.1 hb).1
    · have := hd.allocated_eq
      simp only at hheld ⊢
      omega
    · have := hd.held_le
      simp only at hheld ⊢
      omega

theorem Sound.invalidate {d d' : Device} {h : Handle} {offset size : Nat} (hd : Sound d)
    (hi : d.invalidate h offset size = .ok d') : Sound d' := by
  rw [invalidate_ok hi]
  exact ⟨hd.nodup, hd.issued, hd.allocated_eq, hd.held_le⟩

/-- One call keeps the books, as long as it leaves at most `2 ^ 32` handles given out. -/
theorem Sound.step {d : Device} (hd : Sound d) (c : Call)
    (hfew : (d.step c).created ≤ 2 ^ 32) : Sound (d.step c) := by
  cases c with
  | create size align g =>
    simp only [Device.step] at hfew ⊢
    split
    · rename_i h d' hc
      rw [hc] at hfew
      have := (createWith_ok hc).2.2.2.2.2.2
      subst this
      exact hd.create (by simp only at hfew; omega) hc
    · exact hd
  | free h => exact hd.free h
  | mmap => exact hd
  | invalidate h offset size =>
    simp only [Device.step]
    split
    · rename_i d' hi
      exact hd.invalidate hi
    · exact hd
  | setLimit limit => exact ⟨hd.nodup, hd.issued, hd.allocated_eq, hd.held_le⟩
  | setMapFailure fail => exact ⟨hd.nodup, hd.issued, hd.allocated_eq, hd.held_le⟩

/-- **Runs keep the books.**  Every run of calls that gives out at most `2 ^ 32` handles, whatever
the host's allocator answers, keeps them. -/
theorem Sound.run {d : Device} (hd : Sound d) (cs : List Call)
    (hfew : (d.run cs).created ≤ 2 ^ 32) : Sound (d.run cs) := by
  induction cs generalizing d with
  | nil => exact hd
  | cons c cs ih =>
    have hstep : (d.step c).created ≤ 2 ^ 32 :=
      Nat.le_trans (created_le_run _ cs) hfew
    exact ih (hd.step c hstep) hfew

/-! ### The calls from a device that keeps its books -/

theorem object?_eq_none {d : Device} {h : Handle} (ho : d.object? h = none) :
    h ∉ d.objects.map Allocation.handle := by
  intro hmem
  obtain ⟨a, ha, rfl⟩ := List.mem_map.1 hmem
  unfold object? at ho
  rw [List.find?_eq_none] at ho
  exact ho a ha (by simp)

theorem len_le_held {d : Device} (hd : Sound d) {a : Allocation} (ha : a ∈ d.objects) :
    a.len ≤ d.held := by
  have := sum_filter_handle hd.nodup ha
  rw [held_eq_sum]
  omega

/-- A creation gives a handle that nothing holds, adds an allocation of the size rounded up to the
alignment and that many bytes to the count, and stays within a limit that is set. -/
theorem create_spec {d d' : Device} {g : Nat → Bool} {size align : Nat} {h : Handle}
    (hd : Sound d) (hfew : d.created < 2 ^ 32) (hc : d.createWith g size align = .ok (h, d')) :
    h ∉ d.objects.map Allocation.handle ∧
      d'.objects = d.objects ++
        [⟨h, roundUp size (max align 1), zeros (roundUp size (max align 1))⟩] ∧
      d'.allocated = d.allocated + roundUp size (max align 1) ∧ d'.created = d.created + 1 ∧
      ∀ l, d.limit = some l → d'.allocated ≤ l := by
  obtain ⟨-, -, hlimit, -, hfit, rfl, rfl⟩ := createWith_ok hc
  have hfresh := nextHandle_fresh hd hfew
  have hsum : d.allocated + roundUp size (max align 1) ≤ wordMax := by
    rw [hd.allocated_eq]
    exact hfit
  refine ⟨hfresh, by rw [filter_handle_of_not_mem hfresh], Nat.min_eq_left hsum, rfl, ?_⟩
  intro l hl
  exact Nat.le_trans (Nat.min_le_left _ _) (hlimit l hl)

/-- Freeing a handle that nothing holds changes nothing. -/
theorem step_free_of_not_mem {d : Device} {h : Handle}
    (hh : h ∉ d.objects.map Allocation.handle) : d.step (.free h) = d := by
  have ho : d.object? h = none := by
    unfold object?
    rw [List.find?_eq_none]
    intro a ha e
    exact hh (List.mem_map.2 ⟨a, ha, by simpa using e⟩)
  simp [Device.step, Device.free, ho]

/-- An invalidation is recorded exactly when its handle is held and its end, taken without
overflow, lies within the allocation. -/
theorem invalidate_records {d : Device} (hd : Sound d) (h : Handle) (offset size : Nat) :
    (d.step (.invalidate h offset size)).invalidations =
      if ∃ a ∈ d.objects, a.handle = h ∧ offset + size ≤ a.len then
        d.invalidations.push ⟨h, offset, size⟩
      else d.invalidations := by
  simp only [Device.step, Device.invalidate]
  cases ho : d.object? h with
  | none =>
    have hnone : ¬ ∃ a ∈ d.objects, a.handle = h ∧ offset + size ≤ a.len := by
      rintro ⟨a, ha, rfl, -⟩
      exact object?_eq_none ho (List.mem_map_of_mem ha)
    simp [hnone]
  | some a =>
    obtain ⟨ha, rfl⟩ := object?_eq_some ho
    -- the allocation found is the only one under its handle
    have hiff : (∃ b ∈ d.objects, b.handle = a.handle ∧ offset + size ≤ b.len) ↔
        offset + size ≤ a.len := by
      constructor
      · rintro ⟨b, hb, hbh, hle⟩
        have : d.object? b.handle = some b := object?_of_mem hd.nodup hb
        rw [hbh, ho] at this
        cases this
        exact hle
      · exact fun hle => ⟨a, ha, rfl, hle⟩
    have hlen : a.len ≤ wordMax := Nat.le_trans (len_le_held hd ha) hd.held_le
    by_cases hle : offset + size ≤ a.len
    · have hok : ¬ (wordMax < offset + size ∨ a.len < offset + size) := by omega
      simp only [hok, if_false, hiff.2 hle, if_true]
    · have herr : wordMax < offset + size ∨ a.len < offset + size := by omega
      have hnot : ¬ ∃ b ∈ d.objects, b.handle = a.handle ∧ offset + size ≤ b.len :=
        fun hx => hle (hiff.1 hx)
      simp only [herr, if_true, hnot, if_false]

/-- The host's allocator that grants every request. -/
def grantAll : Nat → Bool := fun _ => true

/-! ### The books after a run -/

/-- What a device that keeps its books answers to every call. -/
structure Books (d : Device) : Prop where
  /-- No handle names two allocations. -/
  nodup : (d.objects.map Allocation.handle).Nodup
  /-- The byte count is the sum of the lengths. -/
  allocated_eq : d.allocated = d.held
  /-- A creation fails and changes nothing, or it gives a handle that nothing holds, adds an
  allocation of the size rounded up to the alignment and that many bytes to the count, and
  stays within a limit that is set. -/
  create : ∀ g size align, match d.createWith g size align with
    | .ok (h, d') => h ∉ d.objects.map Allocation.handle ∧
        d'.objects = d.objects ++
          [⟨h, roundUp size (max align 1), zeros (roundUp size (max align 1))⟩] ∧
        d'.allocated = d.allocated + roundUp size (max align 1) ∧ d'.created = d.created + 1 ∧
        ∀ l, d.limit = some l → d'.allocated ≤ l
    | .error _ => d.step (.create size align g) = d
  /-- Freeing a handle that nothing holds changes nothing. -/
  free_unheld : ∀ h, h ∉ d.objects.map Allocation.handle → d.step (.free h) = d
  /-- An invalidation is recorded exactly when its handle is held and its end, taken without
  overflow, lies within the allocation. -/
  invalidate : ∀ h offset size, (d.step (.invalidate h offset size)).invalidations =
    if ∃ a ∈ d.objects, a.handle = h ∧ offset + size ≤ a.len then
      d.invalidations.push ⟨h, offset, size⟩
    else d.invalidations

/-- **The device keeps its books.**  Every state that a run of calls reaches from a new device
while it has given out fewer than `2 ^ 32` handles, whatever the host's allocator answered, keeps
them. -/
theorem books_of_run (cs : List Call) (hfew : (({} : Device).run cs).created < 2 ^ 32) :
    Books (({} : Device).run cs) := by
  have hd : Sound (({} : Device).run cs) := sound_new.run cs (Nat.le_of_lt hfew)
  refine ⟨hd.nodup, hd.allocated_eq, fun g size align => ?_, fun h hh => step_free_of_not_mem hh,
    invalidate_records hd⟩
  split
  · rename_i h d' hc
    exact create_spec hd hfew hc
  · rename_i e hc
    simp [Device.step, hc]

theorem books_after_create_free :
    (({} : Device).run [.create 3 2 grantAll, .free (countHandle 0)]).created < 2 ^ 32 ∧
      Books (({} : Device).run [.create 3 2 grantAll, .free (countHandle 0)]) :=
  ⟨by decide, books_of_run _ (by decide)⟩

/-! ### The wrap of the handle counter -/

/-- A device holding one allocation of two bytes, under the first handle, after `n` creations. -/
def churned (n : Nat) : Device :=
  { objects := [⟨countHandle 0, 2, zeros 2⟩], created := n, allocated := 2 }

/-- One creation of two bytes and the free of its handle. -/
def churnPair (i : Nat) : List Call :=
  [.create 2 2 grantAll, .free (countHandle (i + 1))]

/-- A run of `2 ^ 32` creations of two bytes: the first allocation stays held, each later one is
freed at once. -/
def wrapRun : List Call :=
  .create 2 2 grantAll :: (List.range (2 ^ 32 - 1)).flatMap churnPair

theorem roundUp_two : roundUp 2 2 = 2 := by decide

theorem step_first : ({} : Device).step (.create 2 2 grantAll) = churned 1 := by
  simp [Device.step, createWith, roundUp_two, churned, held, nextHandle, countHandle, wordMax,
    grantAll]

/-- A creation and the free of its handle leave the first allocation alone. -/
theorem run_churnPair {n : Nat} (hn : 0 < n) (hn' : n < 2 ^ 32) :
    (churned n).run (churnPair (n - 1)) = churned (n + 1) := by
  have hne : countHandle 0 ≠ countHandle n := fun e => by
    have := countHandle_inj (by omega) hn' e
    omega
  have hcreate : (churned n).step (.create 2 2 grantAll) =
      { objects := [⟨countHandle 0, 2, zeros 2⟩, ⟨countHandle n, 2, zeros 2⟩],
        created := n + 1, allocated := 4 } := by
    simp [Device.step, createWith, roundUp_two, churned, held, nextHandle_eq, wordMax, grantAll,
      hne]
  have hfree : (Device.free { objects := [⟨countHandle 0, 2, zeros 2⟩,
      ⟨countHandle n, 2, zeros 2⟩], created := n + 1, allocated := 4 } (countHandle n)).1 =
      churned (n + 1) := by
    simp [Device.free, object?, churned, hne]
  rw [churnPair, Nat.sub_add_cancel hn, run_cons, hcreate, run_cons]
  exact hfree

theorem run_churn (k : Nat) (hk : k < 2 ^ 32) :
    (churned 1).run ((List.range k).flatMap churnPair) = churned (k + 1) := by
  induction k with
  | zero => rfl
  | succ k ih =>
    rw [List.range_succ, List.flatMap_append, run_append, ih (by omega), List.flatMap_singleton]
    have := run_churnPair (n := k + 1) (by omega) (by omega)
    simpa using this

/-- The run of `2 ^ 32` creations leaves the first allocation held and the counter at `2 ^ 32`. -/
theorem run_wrapRun : ({} : Device).run wrapRun = churned (2 ^ 32) := by
  rw [wrapRun, run_cons, step_first, run_churn _ (by omega), Nat.sub_add_cancel (by omega)]

/-- **The handle counter wraps onto a live allocation.**  After `wrapRun`, the device has given
out `2 ^ 32` handles, and the next creation is given handle one, which the first allocation
still holds: the new allocation takes its place, and the byte count stops matching the
lengths. -/
theorem wrap_reuses_live_handle :
    let d := ({} : Device).run wrapRun
    d.created = 2 ^ 32 ∧ d.holds ⟨1⟩ = true ∧
      (d.createWith grantAll 2 2).map Prod.fst = .ok ⟨1⟩ ∧
      (d.step (.create 2 2 grantAll)).allocated ≠ (d.step (.create 2 2 grantAll)).held := by
  have hrun : ({} : Device).run wrapRun = churned (2 ^ 32) := by
    rw [wrapRun, run_cons, step_first, run_churn _ (by omega), Nat.sub_add_cancel (by omega)]
  intro d
  rw [show d = churned (2 ^ 32) from hrun]
  have hnext : (churned (2 ^ 32)).nextHandle = ⟨1⟩ := by
    simp only [nextHandle_eq, churned, countHandle]
    decide
  have hcreate : (churned (2 ^ 32)).createWith grantAll 2 2 =
      .ok (⟨1⟩, { churned (2 ^ 32) with
        objects := [⟨⟨1⟩, 2, zeros 2⟩], created := 2 ^ 32 + 1, allocated := 4 }) := by
    simp only [createWith, hnext]
    simp [roundUp_two, churned, held, wordMax, grantAll, countHandle]
  refine ⟨rfl, by simp [holds, churned, countHandle], by rw [hcreate]; rfl, ?_⟩
  rw [Device.step, hcreate]
  simp [held]

end Device

end Host

end TegraGpu
