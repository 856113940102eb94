import Mathlib
import TegraGpu.Proofs.Agreement

/-!
# Wraps and clones of a view

A wrap of a view at `k` is the view of the same store from `k` bytes further on; a clone is a
second reference to the view itself.  Every view made by allocating a store, with or without
bytes, and then wrapping and cloning any number of times is *whole*: it is not empty and it
ends where its store ends.  Under a device that backs the stores, a whole view lies inside its
allocation, so invalidating it never fails.

* `run_wrap` : a wrap at `k` succeeds exactly when `k` is inside the view.
* `shift_shift`, `run_wrap_zero` : wraps add up, and a wrap at zero is a clone.
* `bytes_shift`, `writeBytes_shift` : a wrap sees and writes the bytes of the view it wraps.
* `whole_derive` : what a chain of wraps and clones of a whole view gives is whole.
* `view_laws` : the laws of views together.

A device call from outside the views can free the allocation of a view that is still held
(`invalidate_refused_after_host_free`); nothing in the views guards against it.
-/

namespace TegraGpu

theorem ByteArray.empty_extract (b e : Nat) : ByteArray.empty.extract b e = ByteArray.empty := by
  apply ByteArray.ext
  simp [ByteArray.data_extract]

/-- Copying all of `src` to `p` keeps the bytes before `p` and those after the copy. -/
theorem ByteArray.copySlice_zero (src d : ByteArray) (p : Nat) :
    src.copySlice 0 d p src.size = d.extract 0 p ++ src ++ d.extract (p + src.size) d.size := by
  have hsize : src.size = src.data.size := rfl
  apply ByteArray.ext
  rw [ByteArray.data_append, ByteArray.data_append, ByteArray.data_extract, ByteArray.data_extract,
    ByteArray.copySlice]
  simp only [Nat.zero_add, Nat.sub_zero, Array.append_assoc]
  rw [hsize, Array.extract_size, Nat.min_self]
  rfl

/-- The byte `p + i` after copying `src` to `p` is the byte `i` of `src`. -/
theorem ByteArray.getElem!_copySlice (src d : ByteArray) {p i : Nat} (hp : p ≤ d.size)
    (hi : i < src.size) : (src.copySlice 0 d p src.size)[p + i]! = src[i]! := by
  have hpre : (d.extract 0 p).size = p := by
    rw [ByteArray.size_extract]
    omega
  rw [ByteArray.copySlice_zero]
  have hin : p + i < (d.extract 0 p ++ src).size := by
    rw [ByteArray.size_append, hpre]
    omega
  have hin' : p + i < (d.extract 0 p ++ src ++ d.extract (p + src.size) d.size).size := by
    rw [ByteArray.size_append]
    omega
  rw [getElem!_pos (d.extract 0 p ++ src ++ d.extract (p + src.size) d.size) (p + i) hin',
    getElem!_pos src i hi, ByteArray.getElem_append_left hin,
    ByteArray.getElem_append_right (by omega)]
  simp [hpre]

namespace Buffer

open Host Exec Act

/-! ### Wraps and clones -/

/-- The view that a wrap at `k` makes: the same store, `k` bytes further on. -/
def View.shift (v : View) (k : Nat) : View :=
  { v with offset := v.offset + k, size := v.size - k }

/-- A clone: a second reference to the same view, as a clone of a session's buffer makes one. -/
def View.clone (v : View) : Act View := do
  v.retain
  pure v

/-- One step of a chain of views. -/
inductive Derivation where
  /-- A wrap at an offset. -/
  | wrap (offset : Nat)
  /-- A clone. -/
  | clone
  deriving DecidableEq

/-- The view at the end of a chain of wraps and clones. -/
def View.derive : View → List Derivation → Act View
  | v, [] => pure v
  | v, .wrap k :: ds => do
    let w ← v.wrap k
    w.derive ds
  | v, .clone :: ds => do
    let w ← v.clone
    w.derive ds

/-- The bytes that a chain of wraps moves on. -/
def Derivation.offset : List Derivation → Nat
  | [] => 0
  | .wrap k :: ds => k + Derivation.offset ds
  | .clone :: ds => Derivation.offset ds

@[simp] theorem View.shift_zero (v : View) : v.shift 0 = v := by
  cases v
  rfl

theorem View.shift_shift (v : View) (k j : Nat) : (v.shift k).shift j = v.shift (k + j) := by
  simp only [View.shift, Nat.add_assoc, Nat.sub_sub]

/-- A store with one reference more. -/
def retained (m : Machine) (k : Nat) : Machine :=
  { m with stores := m.stores.modify k fun s => { s with refs := s.refs + 1 } }

theorem run_retain (v : View) (m : Machine) :
    Exec.run v.retain m = (.ok (), retained m v.store) := rfl

theorem run_clone (v : View) (m : Machine) :
    Exec.run v.clone m = (.ok v, retained m v.store) := rfl

/-- **A wrap** at `k` gives the view from `k` on, with a reference of its own, when `k` is
inside the view, and is refused with the offset and the size otherwise. -/
theorem run_wrap (v : View) (k : Nat) (m : Machine) :
    Exec.run (v.wrap k) m = if k < v.size then (.ok (v.shift k), retained m v.store)
      else (.error (.range k v.size), m) := by
  unfold View.wrap
  dsimp only
  by_cases hk : k < v.size
  · rw [if_neg (Nat.not_le.2 hk), if_pos hk, run_bind, run_retain]
    rfl
  · rw [if_pos (Nat.le_of_not_lt hk), if_neg hk, run_bind]
    rfl

/-- **A wrap at zero is a clone** of a view that is not empty. -/
theorem run_wrap_zero {v : View} (hv : 0 < v.size) (m : Machine) :
    Exec.run (v.wrap 0) m = Exec.run v.clone m := by
  rw [run_wrap, if_pos hv, View.shift_zero, run_clone]

/-- **Two wraps** at `k` and then `j` succeed exactly when `k + j` is inside the view, and then
give the view that one wrap at `k + j` gives. -/
theorem run_wrap_wrap {v : View} {k : Nat} (hk : k < v.size) (j : Nat) (m : Machine) :
    Exec.run (v.wrap k >>= fun w => w.wrap j) m =
      if k + j < v.size then (.ok (v.shift (k + j)), retained (retained m v.store) v.store)
      else (.error (.range j (v.size - k)), retained m v.store) := by
  rw [run_bind, run_wrap, if_pos hk]
  dsimp only
  rw [run_wrap, View.shift_shift]
  -- the wrap has the size of the view less `k`, and the view's store
  have hsize : (v.shift k).size = v.size - k := rfl
  have hstore : (v.shift k).store = v.store := rfl
  rw [hsize, hstore]
  by_cases hj : k + j < v.size
  · rw [if_pos (by omega), if_pos hj]
  · rw [if_neg (by omega), if_neg hj]

/-! ### The bytes a wrap sees -/

/-- **A wrap sees the bytes of the view** from `k` on. -/
theorem View.bytes_shift (m : Machine) {v : View} {k : Nat} (hk : k ≤ v.size) :
    (v.shift k).bytes m = (v.bytes m).extract k v.size := by
  unfold View.bytes View.shift
  dsimp only
  cases m.device.storage? v.handle with
  | none => exact (ByteArray.empty_extract _ _).symm
  | some data =>
    rw [ByteArray.extract_extract, Nat.min_self, Nat.add_assoc, Nat.add_sub_cancel' hk]

/-- The byte `i` of a wrap at `k` is the byte `k + i` of the view. -/
theorem View.getElem!_bytes_shift (m : Machine) {v : View} {k i : Nat} (hi : i < v.size - k) :
    ((v.shift k).bytes m)[i]! = (v.bytes m)[k + i]! := by
  rw [View.bytes_shift m (by omega), ByteArray.getElem!_extract _ (by omega)]

/-- **A write through a wrap** at `k` is the write through the view `k` bytes further on. -/
theorem View.writeBytes_shift (v : View) (k pos : Nat) (src : ByteArray) :
    (v.shift k).writeBytes pos src = v.writeBytes (k + pos) src := by
  unfold View.writeBytes View.shift
  dsimp only
  rw [Nat.add_assoc]

/-- **A write is read back** through the view that made it, when its allocation covers the
view and the bytes written fit in it. -/
theorem View.getElem!_bytes_writeBytes {m m' : Machine} {v : View} (hs : v.Spans m)
    (hh : m.device.holds v.handle = true) {pos : Nat} {src : ByteArray}
    (hpos : pos + src.size ≤ v.size) (hrun : Exec.run (v.writeBytes pos src) m = (.ok (), m'))
    {i : Nat} (hi : i < src.size) : (v.bytes m')[pos + i]! = src[i]! := by
  obtain ⟨d, hd, hfit⟩ := exists_storage hh hs
  obtain ⟨a, ha, rfl⟩ : ∃ a, m.device.object? v.handle = some a ∧ a.data = d := by
    simpa [Device.storage?] using hd
  -- the write painted the storage under the view's handle
  have hm' : m' = m.paint v.handle fun data => src.copySlice 0 data (v.offset + pos) src.size := by
    simp only [View.writeBytes, run_modify, modifyStorage_eq, ha, Option.map_some,
      Prod.mk.injEq, true_and] at hrun
    rw [← hrun]
    rfl
  subst hm'
  unfold View.bytes
  rw [Machine.storage?_paint, if_pos rfl, hd, Option.map_some]
  dsimp only
  rw [ByteArray.getElem!_extract _ (by omega), ← Nat.add_assoc,
    ByteArray.getElem!_copySlice _ _ (by omega) hi]

/-! ### Whole views -/

/-- A view reaches the end of its store: the store is live under the view's handle, and the view
is not empty and ends where the store ends. -/
structure View.Whole (ss : Stores) (v : View) : Prop where
  /-- The store, live under the view's handle, ends with the view. -/
  store : ∃ st, ss.find? v.store = some st ∧ st.handle = v.handle ∧ v.offset + v.size = st.size
  /-- The view is not empty. -/
  pos : 0 < v.size

namespace View.Whole

variable {ss : Stores} {v : View}

/-- A change of a store that keeps its handle and its size keeps its views whole. -/
theorem modify (h : v.Whole ss) (k : Nat) {f : Store → Store}
    (hf : ∀ s, (f s).handle = s.handle ∧ (f s).size = s.size) : v.Whole (ss.modify k f) := by
  obtain ⟨⟨st, hst, hh, hend⟩, hpos⟩ := h
  refine ⟨?_, hpos⟩
  by_cases hk : v.store = k
  · refine ⟨f st, ?_, (hf st).1.trans hh, hend.trans (hf st).2.symm⟩
    rw [Stores.find?_modify, if_pos hk, hst, Option.map_some]
  · exact ⟨st, by rw [Stores.find?_modify_of_ne _ hk, hst], hh, hend⟩

theorem retain {m : Machine} (h : v.Whole m.stores) (k : Nat) : v.Whole (retained m k).stores := by
  show v.Whole (m.stores.modify k fun s => { s with refs := s.refs + 1 })
  exact h.modify k fun _ => ⟨rfl, rfl⟩

/-- A wrap inside a whole view is whole. -/
theorem shift (h : v.Whole ss) {k : Nat} (hk : k < v.size) : (v.shift k).Whole ss := by
  obtain ⟨⟨st, hst, hh, hend⟩, -⟩ := h
  refine ⟨⟨st, hst, hh, ?_⟩, ?_⟩ <;> simp only [View.shift] <;> omega

/-- **A whole view lies inside its allocation** when the device backs the stores. -/
theorem inside {m : Machine} (h : v.Whole m.stores) (hb : Backed m) :
    ∃ a, m.device.object? v.handle = some a ∧ v.offset + v.size ≤ a.len ∧ a.len ≤ wordMax := by
  obtain ⟨⟨st, hst, hh, hend⟩, -⟩ := h
  obtain ⟨a, ha, hah, hlen⟩ := hb.object_of_find hst
  have hobj : m.device.object? v.handle = some a := by
    rw [← hh, ← hah]
    exact Device.object?_of_mem hb.sound.nodup ha
  -- the allocation is one of the lengths the device holds, and these fit a machine word
  have hheld : a.len ≤ m.device.held := by
    rw [Device.held_eq_sum]
    exact List.le_sum_of_mem (List.mem_map_of_mem ha)
  refine ⟨a, hobj, ?_, hheld.trans hb.sound.held_le⟩
  rw [hlen, hend]
  simp only [roundUp]
  omega

end View.Whole

/-! ### Chains of views -/

/-- A view made by allocating is whole. -/
theorem whole_allocate (size : Nat) (flags : Flags) :
    Triple (fun _ => True) (allocate size flags) (fun v m => v.Whole m.stores) fun _ => True := by
  intro m _
  rcases run_allocate size flags m with ⟨e, -, hrun⟩ | ⟨h, d, j, hc, hrun⟩
  · rw [hrun]
    trivial
  · rw [hrun]
    have hsize := (Device.createWith_ok hc).1
    refine ⟨⟨{ handle := h, size, refs := 1 }, ?_, rfl, Nat.zero_add size⟩, hsize⟩
    rw [Stores.find?_add, if_pos rfl]

/-- A view made by allocating with bytes is whole: the copy and the invalidation leave the
stores as they found them. -/
theorem whole_allocateWith (flags : Flags) (data : ByteArray) :
    Triple (fun _ => True) (allocateWith flags data) (fun v m => v.Whole m.stores)
      fun _ => True := by
  unfold allocateWith
  refine Triple.bind (whole_allocate _ _) fun v => ?_
  have hbody : Keeps Machine.ledger (do v.withMap (v.writeBytes 0 data); v.invalidate data.size) :=
    Keeps.bind (keeps_ledger_withMap v (keeps_ledger_writeBytes v 0 data)) fun _ =>
      keeps_ledger_viewInvalidate v _
  have hkeep := hbody.triple fun l => v.Whole l.1
  refine Triple.bind (Triple.tryCatch (hkeep.mono (fun _ h => h) (fun _ _ h => h) fun _ _ => trivial)
    fun e => ?_) fun _ => Triple.pure v fun _ h => h
  -- a failure gives the view back and fails
  exact Triple.bind (Triple.of_ok fun _ _ _ _ _ => trivial) fun _ => Triple.throw e fun _ _ => trivial

/-- **A chain of wraps and clones** of a whole view ends with a whole view: the view
`Derivation.offset` bytes further on. -/
theorem whole_derive (ds : List Derivation) (v : View) :
    Triple (fun m => v.Whole m.stores) (v.derive ds)
      (fun w m => w = v.shift (Derivation.offset ds) ∧ w.Whole m.stores) fun _ => True := by
  induction ds generalizing v with
  | nil =>
    intro m hm
    exact ⟨(View.shift_zero v).symm, hm⟩
  | cons d ds ih =>
    cases d with
    | wrap k =>
      -- the wrap is the view `k` bytes on, and the rest of the chain starts from it
      refine Triple.bind (R := fun w m => w = v.shift k ∧ w.Whole m.stores) ?_ fun w => ?_
      · intro m hm
        have hr := run_wrap v k m
        by_cases hk : k < v.size
        · rw [if_pos hk] at hr
          rw [hr]
          exact ⟨rfl, (hm.shift hk).retain v.store⟩
        · rw [if_neg hk] at hr
          rw [hr]
          trivial
      · refine Triple.of_prop fun hw => (ih w).mono (fun _ h => h) (fun u _ hu => ?_) fun _ h => h
        refine ⟨?_, hu.2⟩
        rw [hu.1, hw, View.shift_shift]
        rfl
    | clone =>
      refine Triple.bind (R := fun w m => w = v ∧ w.Whole m.stores) ?_ fun w => ?_
      · intro m hm
        rw [run_clone]
        exact ⟨rfl, hm.retain v.store⟩
      · exact Triple.of_prop fun hw => (ih w).mono (fun _ h => h)
          (fun u _ hu => ⟨by rw [hu.1, hw]; rfl, hu.2⟩) fun _ h => h

/-! ### The laws of views -/

/-- What the views of a store keep to.  Every view made by allocating, with or without bytes,
and then wrapping and cloning is whole, and lies inside its allocation under a device that backs
the stores.  A wrap at `k` succeeds exactly when `k` is inside the view; two wraps are one wrap
at the sum; a wrap at zero is a clone.  A wrap sees and writes the bytes of the view it wraps,
`k` bytes further on, so what is written through one is read back through the other.  Invalidating a whole view under a device that backs the stores records
the invalidation, clamped to the view. -/
structure ViewLaws : Prop where
  /-- A chain of wraps and clones of a new view ends with a whole view. -/
  allocated : ∀ size flags ds (m : Machine) w m',
    Exec.run (allocate size flags >>= fun v => v.derive ds) m = (.ok w, m') → w.Whole m'.stores
  /-- A chain of wraps and clones of a new view with bytes ends with a whole view. -/
  filled : ∀ flags data ds (m : Machine) w m',
    Exec.run (allocateWith flags data >>= fun v => v.derive ds) m = (.ok w, m') →
      w.Whole m'.stores
  /-- A whole view lies inside its allocation, which fits a machine word. -/
  inside : ∀ (v : View) (m : Machine), Backed m → v.Whole m.stores →
    ∃ a, m.device.object? v.handle = some a ∧ v.offset + v.size ≤ a.len ∧ a.len ≤ wordMax
  /-- A wrap succeeds exactly inside the view, and is refused with the offset and size. -/
  wrap : ∀ (v : View) k (m : Machine), Exec.run (v.wrap k) m =
    if k < v.size then (.ok (v.shift k), retained m v.store) else (.error (.range k v.size), m)
  /-- Two wraps succeed exactly when their sum is inside the view, and then are one wrap. -/
  wrap_wrap : ∀ (v : View) k j (m : Machine), k < v.size →
    ((∃ w m', Exec.run (v.wrap k >>= fun w => w.wrap j) m = (.ok w, m')) ↔ k + j < v.size) ∧
      ∀ w m', Exec.run (v.wrap k >>= fun w => w.wrap j) m = (.ok w, m') →
        w.offset = v.offset + k + j ∧ ∃ m'', Exec.run (v.wrap (k + j)) m = (.ok w, m'')
  /-- A wrap at zero is a clone. -/
  clone : ∀ (v : View) (m : Machine), 0 < v.size → Exec.run (v.wrap 0) m = Exec.run v.clone m
  /-- The byte `i` of a wrap is the byte `k + i` of the view. -/
  alias_bytes : ∀ (v : View) k i (m : Machine), i < v.size - k →
    ((v.shift k).bytes m)[i]! = (v.bytes m)[k + i]!
  /-- A write through a wrap is the write through the view further on. -/
  alias_write : ∀ (v : View) k pos src, (v.shift k).writeBytes pos src = v.writeBytes (k + pos) src
  /-- A write through a wrap is read back through the view. -/
  wrap_to_view : ∀ (v : View) k pos src (m m' : Machine), v.Spans m →
    m.device.holds v.handle = true → k + pos + src.size ≤ v.size →
    Exec.run ((v.shift k).writeBytes pos src) m = (.ok (), m') →
    ∀ i < src.size, (v.bytes m')[k + pos + i]! = src[i]!
  /-- A write through the view is read back through a wrap. -/
  view_to_wrap : ∀ (v : View) k pos src (m m' : Machine), v.Spans m →
    m.device.holds v.handle = true → k + pos + src.size ≤ v.size →
    Exec.run (v.writeBytes (k + pos) src) m = (.ok (), m') →
    ∀ i < src.size, ((v.shift k).bytes m')[pos + i]! = src[i]!
  /-- Invalidating a whole view records the invalidation, clamped to the view. -/
  invalidate : ∀ (v : View) n (m : Machine), Backed m → v.Whole m.stores →
    Exec.run (v.invalidate n) m = (.ok (), { m with device := { m.device with
      invalidations := m.device.invalidations.push ⟨v.handle, v.offset, min n v.size⟩ } })

/-- **The laws of views.** -/
theorem view_laws : ViewLaws where
  allocated size flags ds m w m' hrun :=
    ((Triple.bind (whole_allocate size flags) fun v => (whole_derive ds v).mono (fun _ h => h)
      (fun _ _ h => h.2) fun _ h => h).apply trivial).1 w m' hrun
  filled flags data ds m w m' hrun :=
    ((Triple.bind (whole_allocateWith flags data) fun v => (whole_derive ds v).mono (fun _ h => h)
      (fun _ _ h => h.2) fun _ h => h).apply trivial).1 w m' hrun
  inside _ _ hb hw := hw.inside hb
  wrap := run_wrap
  wrap_wrap v k j m hk := by
    have hrun := run_wrap_wrap hk j m
    by_cases hj : k + j < v.size
    · rw [if_pos hj] at hrun
      refine ⟨⟨fun _ => hj, fun _ => ⟨v.shift (k + j), _, hrun⟩⟩, fun w m' hw => ?_⟩
      rw [hrun] at hw
      cases hw
      refine ⟨by simp only [View.shift, Nat.add_assoc], retained m v.store, ?_⟩
      rw [run_wrap, if_pos hj]
    · rw [if_neg hj] at hrun
      refine ⟨⟨fun ⟨w, m', hw⟩ => ?_, fun h => absurd h hj⟩, fun w m' hw => ?_⟩ <;>
        rw [hrun] at hw <;> cases hw
  clone _ m hv := run_wrap_zero hv m
  alias_bytes _ _ _ m hi := View.getElem!_bytes_shift m hi
  alias_write := View.writeBytes_shift
  wrap_to_view v k pos src m m' hs hh hfit hrun i hi := by
    rw [View.writeBytes_shift] at hrun
    exact View.getElem!_bytes_writeBytes hs hh (by omega) hrun hi
  view_to_wrap v k pos src m m' hs hh hfit hrun i hi := by
    rw [View.getElem!_bytes_shift m' (by omega), ← Nat.add_assoc]
    exact View.getElem!_bytes_writeBytes hs hh (by omega) hrun hi
  invalidate v n m hb hw := by
    obtain ⟨a, ha, hlen, hword⟩ := hw.inside hb
    exact run_invalidate_of_len ha hlen (hlen.trans hword) n

/-- The laws at a new view of four bytes: it is whole, the machine backs the stores, and
invalidating eight bytes of it records four. -/
theorem view_laws_new :
    let v : View := ⟨0, ⟨1⟩, 0, 4, {}⟩
    let m := (Exec.run (allocate 4 {}) ({} : Machine)).2
    Backed m ∧ v.Whole m.stores ∧
      Exec.run (v.invalidate 8) m = (.ok (), { m with device := { m.device with
        invalidations := m.device.invalidations.push ⟨⟨1⟩, 0, 4⟩ } }) := by
  intro v m
  have hw : v.Whole m.stores := view_laws.allocated 4 {} [] {} v m rfl
  have hb : Backed m := ⟨⟨by decide +kernel, by decide +kernel, by decide +kernel, by decide +kernel⟩,
    by decide +kernel⟩
  exact ⟨hb, hw, view_laws.invalidate v 8 m hb hw⟩

/-- **A view outlives an allocation freed from outside.**  A device call that frees the handle of
a new view leaves the view's store live and the view whole, and then the device refuses to
invalidate it. -/
theorem invalidate_refused_after_host_free :
    let v : View := ⟨0, ⟨1⟩, 0, 4, {}⟩
    let m := (Exec.run (do let v ← allocate 4 {}; Host.free v.handle) ({} : Machine)).2
    (Exec.run (allocate 4 {}) ({} : Machine)).1 = .ok v ∧ v.Whole m.stores ∧
      (Exec.run (v.invalidate 4) m).1 = .error (.map (.notAllocated v.handle)) := by
  refine ⟨rfl, ⟨⟨{ handle := ⟨1⟩, size := 4, refs := 1 }, rfl, rfl, rfl⟩, by decide⟩, rfl⟩

end Buffer

end TegraGpu
