import Mathlib
import TegraGpu.Buffer.Object
import TegraGpu.Proofs.Exec
import TegraGpu.Proofs.Stores
import TegraGpu.Proofs.Device
/-!
# Buffer objects: what each operation does to the stores and the device

The views of a store are the view it was allocated with, its wraps and its clones, and whatever
holds one of them; the store counts them, and the device holds one allocation for each live
store.  This module states what every operation on views does to these accounts.

* `Machine.ledger` : what the accounts read: the stores, and the handles and lengths of the
  device's allocations with its byte and handle counts.  Reading and writing bytes, invalidating,
  mapping through the device and writing records keep it, and so does an operation run under a
  mapping of a view (`keeps_ledger_withMap`): the mapping ends as it began.
* `run_map` : mapping a view is refused while its store is mapped and when the device refuses;
  otherwise it marks the store mapped and changes nothing else.
* `Backed`, `Ledger` : the device holds exactly one allocation for each live store, under the
  store's handle and of its size rounded up to two bytes, and its own books are sound; `Ledger`
  says so for as long as the device's handle counter has not wrapped.
* `Kept B` : what a machine invariant `B` must survive to be kept by every operation on views;
  `kept_ledger` shows that `Ledger` survives it.
* `Good B vs ms` : the views `vs` and the mappings `ms` account for the stores and `B` holds.
  `allocate_good`, `retain_good`, `release_good`, `map_good`, `unmap_good`, `wrap_good` and
  `allocateWith_good` say what each operation does to it.
* `Restoring a` : `a` leaves every store mapped as it found it, and its new stores unmapped.
-/

namespace TegraGpu

open Buffer Host Exec

/-- What the accounts of the stores read: the stores, and the handles and lengths of the device's
allocations with its byte count and handle count. -/
def Machine.ledger (m : Machine) : Stores × List (Handle × Nat) × Nat × Nat :=
  (m.stores, m.device.objects.map (fun a => (a.handle, a.len)), m.device.allocated,
    m.device.created)

namespace Buffer

variable {α : Type}

/-! ### Operations that keep the ledger -/

theorem keeps_ledger_note (level : Level) (origin : Origin) (text : String) :
    Keeps Machine.ledger (Act.note level origin text) :=
  Act.keeps_note (fun _ _ => rfl) level origin text

theorem keeps_ledger_emit (r : Record) : Keeps Machine.ledger (Act.emit r) :=
  Act.keeps_emit (fun _ _ => rfl) r

theorem keeps_ledger_mmap (h : Handle) : Keeps Machine.ledger (Host.mmap h) :=
  Keeps.bind Keeps.get fun _ => Act.keeps_ofExcept _

theorem keeps_ledger_invalidate (h : Handle) (offset size : Nat) :
    Keeps Machine.ledger (Host.invalidate h offset size) := by
  refine Keeps.of_run_eq fun m => ?_
  simp only [Host.invalidate, run_bind, run_get, Act.run_ofExcept]
  cases hd : m.device.invalidate h offset size with
  | error e => rfl
  | ok d =>
    rw [Device.invalidate_ok hd]
    rfl

theorem keeps_ledger_viewInvalidate (v : View) (size : Nat) :
    Keeps Machine.ledger (v.invalidate size) :=
  keeps_ledger_invalidate _ _ _

/-- Writing the bytes of an allocation keeps its handle and its length, and every other one. -/
theorem modifyStorage_go_shape {h : Handle} {f : ByteArray → ByteArray × α} :
    ∀ {l l' : List Allocation} {x : α}, Device.modifyStorage.go h f l = some (x, l') →
      l'.map (fun a => (a.handle, a.len)) = l.map (fun a => (a.handle, a.len))
  | [], _, _, hg => by cases hg
  | a :: l, l', x, hg => by
    unfold Device.modifyStorage.go at hg
    split at hg
    · cases hg
      rfl
    · obtain ⟨⟨y, rest⟩, hrest, hyx⟩ := Option.map_eq_some_iff.1 hg
      cases hyx
      simp [modifyStorage_go_shape hrest]

theorem modifyStorage_shape {d d' : Host.Device} {h : Handle} {f : ByteArray → ByteArray × α} {x : α}
    (hd : d.modifyStorage h f = some (x, d')) :
    d'.objects.map (fun a => (a.handle, a.len)) = d.objects.map (fun a => (a.handle, a.len)) ∧
      d'.allocated = d.allocated ∧ d'.created = d.created := by
  unfold Device.modifyStorage at hd
  obtain ⟨⟨y, objects⟩, hgo, hyx⟩ := Option.map_eq_some_iff.1 hd
  cases hyx
  exact ⟨modifyStorage_go_shape hgo, rfl, rfl⟩

theorem keeps_ledger_writeBytes (v : View) (pos : Nat) (src : ByteArray) :
    Keeps Machine.ledger (v.writeBytes pos src) := by
  refine Keeps.modify fun m => ?_
  split
  · next d hd =>
    obtain ⟨hobj, halloc, hcreated⟩ := modifyStorage_shape hd
    simp only [Machine.ledger, hobj, halloc, hcreated]
  · rfl

theorem keeps_ledger_modifyStorage (v : View) (dflt : α) (f : ByteArray → ByteArray × α) :
    Keeps Machine.ledger (v.modifyStorage dflt f) := by
  refine Keeps.of_run_eq fun m => ?_
  simp only [View.modifyStorage, run_modifyGet]
  split
  · next x d hd =>
    obtain ⟨hobj, halloc, hcreated⟩ := modifyStorage_shape hd
    simp only [Machine.ledger, hobj, halloc, hcreated]
  · rfl

/-! ### Mapping -/

/-- Whether a view is mapped is the mapping flag of its store. -/
theorem isMapped_eq_false {m : Machine} {v : View} :
    View.isMapped m v = false ↔ ∀ st, m.stores.find? v.store = some st → st.mapped = false := by
  unfold View.isMapped storeOf?
  cases m.stores.find? v.store with
  | none => simp
  | some st => simp

/-- **Mapping a view.**  It is refused while the view's store is mapped, and when the device
refuses; otherwise the store is marked mapped and nothing else changes.  A refusal by the device
is logged. -/
theorem run_map (v : View) (m : Machine) :
    Exec.run v.map m =
      if View.isMapped m v then (.error (.map (.alreadyMapped v.handle)), m)
      else match m.device.mmap v.handle with
        | .ok () => (.ok (), { m with stores := m.stores.modify v.store fun s =>
            { s with mapped := true } })
        | .error e => (.error e,
            { m with journal := m.journal.push ⟨.error, .buffer, "Failed to mmap BO: " ++ e.message⟩ })
          := by
  simp only [View.map, run_bind, run_get]
  by_cases hm : View.isMapped m v = true
  · simp [hm]
  · simp only [hm, if_false, Bool.false_eq_true, run_tryCatch, Host.mmap, run_bind,
      run_get, Act.run_ofExcept]
    cases m.device.mmap v.handle with
    | ok u => rfl
    | error e => rfl

theorem run_unmap (v : View) (m : Machine) :
    Exec.run v.unmap m =
      (.ok (), { m with stores := m.stores.modify v.store fun s => { s with mapped := false } }) :=
  rfl

/-- Marking a store mapped and then unmapped restores it, when it was not mapped. -/
theorem modify_mapped_restore {ss : Stores} {k : Nat}
    (hfree : ∀ st, ss.find? k = some st → st.mapped = false) :
    (ss.modify k fun s => { s with mapped := true }).modify k (fun s => { s with mapped := false }) =
      ss := by
  rw [Stores.modify_modify]
  apply Stores.modify_of_fixed
  intro st hst
  have := hfree st hst
  cases st
  simp_all

/-- **An operation under a mapping keeps the ledger**, when the operation does: the mapping ends
as it began, whether the operation returns or fails, and a refused mapping changes nothing. -/
theorem keeps_ledger_withMap (v : View) {body : Act α} (hb : Keeps Machine.ledger body) :
    Keeps Machine.ledger (v.withMap body) := by
  refine Keeps.of_run_eq fun m => ?_
  simp only [View.withMap, run_bind, run_map]
  by_cases hm : View.isMapped m v = true
  · simp [hm]
  · have hfree := isMapped_eq_false.1 (by simpa using hm)
    simp only [hm, Bool.false_eq_true, if_false]
    cases m.device.mmap v.handle with
    | error e => rfl
    | ok u =>
      -- the body starts on the machine with the store marked mapped, and keeps that
      set m₁ : Machine := { m with stores := m.stores.modify v.store fun s =>
        { s with mapped := true } } with hm₁
      have hbody := hb.run_eq m₁
      simp only [run_tryCatch]
      rcases hrun : Exec.run body m₁ with ⟨e | x, m₂⟩ <;> rw [hrun] at hbody <;>
        simp only [Machine.ledger, Prod.mk.injEq] at hbody ⊢ <;>
        simp only [run_bind, run_unmap, run_throw, run_pure, hbody, hm₁, modify_mapped_restore hfree,
          and_self]

/-! ### Nothing on views overflows

The device's calls fail with mapping and range errors only, so no operation on views stops on
an overflowing product; the only such stop of a draw is the one it makes on its indices. -/

theorem spares_mmap (h : Handle) : Spares Error.mulOverflow (Host.mmap h) := by
  refine Spares.bind Spares.get fun m => Act.spares_ofExcept ?_
  unfold Device.mmap
  split_ifs <;> simp

theorem spares_invalidate (h : Handle) (offset size : Nat) :
    Spares Error.mulOverflow (Host.invalidate h offset size) := by
  refine Spares.bind Spares.get fun m => Spares.bind (Act.spares_ofExcept ?_) fun _ => Spares.set _
  unfold Device.invalidate
  split
  · simp
  · split_ifs <;> simp

theorem spares_map (v : View) : Spares Error.mulOverflow v.map := by
  unfold View.map updateStore
  dsimp only
  repeat' first
    | with_reducible exact Spares.pure _
    | with_reducible exact Spares.get
    | with_reducible exact Spares.modify _
    | with_reducible exact spares_mmap _
    | with_reducible exact Act.spares_note _ _ _ _
    | with_reducible refine Spares.throw_bind ?_
    | with_reducible refine Spares.throw ?_
    | with_reducible refine Spares.tryCatch ?_ fun _ _ => ?_
    | with_reducible refine Spares.bind ?_ fun _ => ?_
    | with_reducible refine Spares.ite ?_ ?_
    | assumption
    | simp

/-- A body run under a mapping fails with the overflow only when the body does. -/
theorem spares_withMap (v : View) {body : Act α} (hb : Spares Error.mulOverflow body) :
    Spares Error.mulOverflow (v.withMap body) := by
  unfold View.withMap
  refine Spares.bind (spares_map v) fun _ => Spares.bind ?_ fun x =>
    Spares.bind (Spares.modify _) fun _ => Spares.pure x
  exact Spares.tryCatch hb fun e he => Spares.bind (Spares.modify _) fun _ => Spares.throw he

/-! ### The device backs the stores -/

/-- The device backs the stores: its books are sound, and it holds exactly one allocation for
each live store, under the store's handle and of the store's size rounded up to two bytes. -/
structure Backed (m : Machine) : Prop where
  /-- The device keeps its books. -/
  sound : m.device.Sound
  /-- The allocations are the stores'. -/
  objects : (m.device.objects.map fun a => (a.handle, a.len)).Perm
    (m.stores.entries.map fun e => (e.2.handle, roundUp e.2.size 2))

/-- The device backs the stores while its handle counter has not wrapped. -/
def Ledger (m : Machine) : Prop :=
  m.device.created < 2 ^ 32 → Backed m

theorem Backed.of_ledger {m m' : Machine} (h : Backed m) (hl : m'.ledger = m.ledger) : Backed m' := by
  simp only [Machine.ledger, Prod.mk.injEq] at hl
  obtain ⟨hst, hobj, halloc, hcreated⟩ := hl
  exact ⟨h.sound.of_shape hobj halloc hcreated, hobj ▸ hst ▸ h.objects⟩

theorem Ledger.of_ledger {m m' : Machine} (h : Ledger m) (hl : m'.ledger = m.ledger) : Ledger m' := by
  intro hfew
  have hc : m'.device.created = m.device.created := by
    simp only [Machine.ledger, Prod.mk.injEq] at hl
    exact hl.2.2.2
  exact (h (hc ▸ hfew)).of_ledger hl

/-- No two live stores share a handle. -/
theorem Backed.handles_nodup {m : Machine} (h : Backed m) :
    (m.stores.entries.map fun e => e.2.handle).Nodup := by
  have := h.objects.map Prod.fst
  simp only [List.map_map] at this
  exact this.nodup_iff.1 h.sound.nodup

/-- The allocation of a live store. -/
theorem Backed.object_of_find {m : Machine} (h : Backed m) {k : Nat} {st : Store}
    (hk : m.stores.find? k = some st) :
    ∃ a ∈ m.device.objects, a.handle = st.handle ∧ a.len = roundUp st.size 2 := by
  have hmem : (st.handle, roundUp st.size 2) ∈
      m.stores.entries.map (fun e => (e.2.handle, roundUp e.2.size 2)) :=
    List.mem_map_of_mem (f := fun e : Nat × Store => (e.2.handle, roundUp e.2.size 2))
      (Stores.find?_eq_some_iff.1 hk)
  obtain ⟨a, ha, hae⟩ := List.mem_map.1 (h.objects.symm.mem_iff.1 hmem)
  simp only [Prod.mk.injEq] at hae
  exact ⟨a, ha, hae⟩

/-- A change of one store that keeps its handle and its size keeps the allocations backing. -/
theorem Backed.modify {m : Machine} (h : Backed m) (k : Nat) {f : Store → Store}
    (hf : ∀ s, (f s).handle = s.handle ∧ (f s).size = s.size) :
    Backed { m with stores := m.stores.modify k f } := by
  refine ⟨h.sound, ?_⟩
  have hmap : (m.stores.modify k f).entries.map (fun e => (e.2.handle, roundUp e.2.size 2)) =
      m.stores.entries.map (fun e => (e.2.handle, roundUp e.2.size 2)) := by
    simp only [Stores.modify, List.map_map]
    apply List.map_congr_left
    rintro ⟨k', b⟩ _
    by_cases hk : k' = k <;> simp [hk, hf]
  exact hmap ▸ h.objects

/-- A new store and its allocation. -/
theorem Backed.add {m : Machine} (hm : Backed m) (hfew : m.device.created < 2 ^ 32) {size : Nat}
    {h : Handle} {d : Host.Device} (hc : m.device.create size 2 = .ok (h, d)) :
    Backed { m with device := d, stores := (m.stores.add { handle := h, size, refs := 1 }).2 } := by
  obtain ⟨-, hobj, -, -, -⟩ := Device.create_spec hm.sound hfew hc
  have hround : roundUp size (max 2 1) = roundUp size 2 := rfl
  refine ⟨hm.sound.create hfew hc, ?_⟩
  show (d.objects.map _).Perm ((m.stores.entries ++ _).map _)
  rw [hobj, List.map_append, List.map_append]
  simp only [List.map_cons, List.map_nil, hround]
  exact hm.objects.append_right _

/-- A store given back with its allocation. -/
theorem Backed.erase {m : Machine} (hm : Backed m) {k : Nat} {st : Store}
    (hk : m.stores.find? k = some st) :
    Backed { m with stores := m.stores.erase k, device := (m.device.free st.handle).1 } := by
  obtain ⟨a, ha, hah, -⟩ := hm.object_of_find hk
  have hobj : m.device.object? st.handle = some a := hah ▸ Device.object?_of_mem hm.sound.nodup ha
  refine ⟨hm.sound.free st.handle, ?_⟩
  -- in the table, the key `k` and the handle of its store pick out the same entry
  have hsame : ∀ e ∈ m.stores.entries, (e.1 != k) = (e.2.handle != st.handle) := by
    rintro ⟨k', b⟩ he
    have hkst : (k, st) ∈ m.stores.entries := Stores.find?_eq_some_iff.1 hk
    by_cases hek : k' = k
    · subst hek
      have hfind : m.stores.find? k' = some b := Stores.find?_eq_some_iff.2 he
      rw [hk] at hfind
      cases hfind
      simp
    · have hne : b.handle ≠ st.handle := fun heq =>
        hek (congrArg Prod.fst (List.inj_on_of_nodup_map hm.handles_nodup he hkst heq))
      rw [bne_iff_ne.2 hek, bne_iff_ne.2 hne]
  have hobjs : (m.device.objects.filter fun a => a.handle != st.handle).map
      (fun a => (a.handle, a.len)) =
      (m.device.objects.map fun a => (a.handle, a.len)).filter fun p => p.1 != st.handle := by
    rw [List.filter_map]
    rfl
  have hentries : (m.stores.entries.filter fun e => e.2.handle != st.handle).map
      (fun e => (e.2.handle, roundUp e.2.size 2)) =
      (m.stores.entries.map fun e => (e.2.handle, roundUp e.2.size 2)).filter
        fun p => p.1 != st.handle := by
    rw [List.filter_map]
    rfl
  show (((m.device.free st.handle).1).objects.map _).Perm ((m.stores.entries.filter _).map _)
  simp only [Device.free, hobj]
  rw [List.filter_congr hsame, hobjs, hentries]
  exact hm.objects.filter _

/-! ### What allocating and giving back do -/

/-- **Allocating a view.**  When the device refuses, nothing changes; when it gives a handle, a
new store under the next key holds it, with one reference and unmapped, and the view sees all of
it. -/
theorem run_allocate (size : Nat) (flags : Flags) (m : Machine) :
    (∃ e, m.device.create size 2 = .error e ∧ Exec.run (allocate size flags) m = (.error e, m)) ∨
      ∃ h d j, m.device.create size 2 = .ok (h, d) ∧
        Exec.run (allocate size flags) m =
          (.ok { store := m.stores.next, handle := h, offset := 0, size, flags },
            { m with device := d, stores := (m.stores.add { handle := h, size, refs := 1 }).2,
                     journal := j }) := by
  simp only [allocate, Host.create, run_bind, run_get, Act.run_ofExcept]
  cases hc : m.device.create size 2 with
  | error e => exact .inl ⟨e, rfl, rfl⟩
  | ok p =>
    obtain ⟨h, d⟩ := p
    exact .inr ⟨h, d, _, rfl, rfl⟩

/-- **Giving back a view.**  A view whose store is gone changes nothing; otherwise the store loses
a reference, and the last one takes the store away and frees its allocation. -/
theorem run_release (v : View) (m : Machine) :
    (m.stores.find? v.store = none ∧ Exec.run v.release m = (.ok (), m)) ∨
      (∃ st, m.stores.find? v.store = some st ∧ 1 < st.refs ∧
        Exec.run v.release m = (.ok (), { m with stores := m.stores.modify v.store fun s =>
          { s with refs := s.refs - 1 } })) ∨
      ∃ st j, m.stores.find? v.store = some st ∧ st.refs ≤ 1 ∧
        Exec.run v.release m = (.ok (),
          { m with stores := m.stores.erase v.store, device := (m.device.free st.handle).1,
                   journal := j }) := by
  simp only [View.release, run_bind, run_get, storeOf?]
  cases hst : m.stores.find? v.store with
  | none => exact .inl ⟨rfl, rfl⟩
  | some st =>
    by_cases hle : st.refs ≤ 1
    · exact .inr (.inr ⟨st, _, rfl, hle, by
        simp only [hle, if_true, run_bind, run_modify, Act.run_note, Host.free, run_get, run_set,
          Act.run_emit]
        rfl⟩)
    · refine .inr (.inl ⟨st, rfl, by omega, ?_⟩)
      simp only [hle, if_false]
      rfl

/-! ### Invariants of the machine that the operations on views keep -/

/-- What an invariant `B` of the machine must survive to be kept by every operation on views: a
change that keeps the ledger, a change of one store that keeps its handle and size, a new store
with its allocation, and a store given back with its allocation. -/
structure Kept (B : Machine → Prop) : Prop where
  /-- A change that keeps the ledger. -/
  frame : ∀ {m m'}, B m → m'.ledger = m.ledger → B m'
  /-- A change of one store that keeps its handle and its size. -/
  modify : ∀ m k (f : Store → Store), (∀ s, (f s).handle = s.handle ∧ (f s).size = s.size) →
    B m → B { m with stores := m.stores.modify k f }
  /-- A new store with its allocation. -/
  add : ∀ m size h d, m.device.create size 2 = .ok (h, d) → B m →
    B { m with device := d, stores := (m.stores.add { handle := h, size, refs := 1 }).2 }
  /-- A store given back with its allocation. -/
  erase : ∀ m k st, m.stores.find? k = some st → B m →
    B { m with stores := m.stores.erase k, device := (m.device.free st.handle).1 }

/-- **The device keeps backing the stores**, under every operation on views, for as long as its
handle counter has not wrapped. -/
theorem kept_ledger : Kept Ledger where
  frame h hl := h.of_ledger hl
  modify m k f hf h hfew := (h hfew).modify k hf
  add m size h d hc hm hfew := by
    have hd := (Device.createWith_ok hc).2.2.2.2.2.2
    have hcreated : d.created = m.device.created + 1 := by rw [hd]
    have hfew' : m.device.created < 2 ^ 32 := by
      have : d.created < 2 ^ 32 := hfew
      omega
    exact (hm hfew').add hfew' hc
  erase m k st hk hm hfew := by
    have hcreated : (m.device.free st.handle).1.created = m.device.created := by
      unfold Device.free
      split <;> rfl
    exact (hm (hcreated ▸ hfew)).erase hk

/-! ### Views that account for the stores -/

/-- The views `vs` and the mappings `ms` account for the stores of the machine, and `B` holds of
it. -/
def Good (B : Machine → Prop) (vs ms : Multiset View) (m : Machine) : Prop :=
  Stores.Holds vs ms m.stores ∧ B m

section Good

variable {B : Machine → Prop} {vs ms : Multiset View}

/-- What keeps the ledger keeps every account of the stores. -/
theorem good_of_keeps (hB : Kept B) {a : Act α} (ha : Keeps Machine.ledger a) :
    Triple (Good B vs ms) a (fun _ => Good B vs ms) (Good B vs ms) :=
  ha.preserves fun m m' hl h => by
    have hst : m'.stores = m.stores := congrArg Prod.fst hl
    exact ⟨hst ▸ h.1, hB.frame h.2 hl⟩

theorem allocate_good (hB : Kept B) (size : Nat) (flags : Flags) :
    Triple (Good B vs ms) (allocate size flags) (fun v => Good B (v ::ₘ vs) ms) (Good B vs ms) := by
  intro m hm
  rcases run_allocate size flags m with ⟨e, -, hrun⟩ | ⟨h, d, j, hc, hrun⟩
  · rw [hrun]
    exact hm
  · rw [hrun]
    exact ⟨hm.1.add rfl rfl rfl rfl, hB.frame (hB.add m size h d hc hm.2) rfl⟩

theorem retain_good (hB : Kept B) (v : View) :
    Triple (fun m => Good B vs ms m ∧ m.stores.Has v) v.retain (fun _ => Good B (v ::ₘ vs) ms)
      (fun _ => False) := by
  rintro m ⟨hm, st, hst, hh⟩
  exact ⟨hm.1.retain hst hh, hB.modify m _ _ (fun _ => ⟨rfl, rfl⟩) hm.2⟩

theorem release_good (hB : Kept B) (v : View) :
    Triple (Good B (v ::ₘ vs) ms) v.release (fun _ => Good B vs ms) (fun _ => False) := by
  intro m hm
  rcases run_release v m with ⟨hnone, -⟩ | ⟨st, hst, hlt, hrun⟩ | ⟨st, j, hst, hle, hrun⟩
  · -- the store of a held view is live
    obtain ⟨st, hst, -⟩ := hm.1.live v (by simp)
    rw [hst] at hnone
    cases hnone
  · rw [hrun]
    exact ⟨hm.1.release hst hlt, hB.modify m _ _ (fun _ => ⟨rfl, rfl⟩) hm.2⟩
  · rw [hrun]
    exact ⟨hm.1.erase hst hle, hB.frame (hB.erase m v.store st hst hm.2) rfl⟩

theorem map_good (hB : Kept B) (v : View) :
    Triple (Good B (v ::ₘ vs) ms) v.map (fun _ => Good B vs (v ::ₘ ms)) (Good B (v ::ₘ vs) ms) := by
  intro m hm
  rw [run_map]
  by_cases hmapped : View.isMapped m v = true
  · rw [if_pos hmapped]
    exact hm
  · rw [if_neg hmapped]
    cases m.device.mmap v.handle with
    | error e => exact ⟨hm.1, hB.frame hm.2 rfl⟩
    | ok u =>
      obtain ⟨st, hst, -⟩ := hm.1.live v (by simp)
      have hfree := isMapped_eq_false.1 (by simpa using hmapped) st hst
      exact ⟨hm.1.map hst hfree, hB.modify m _ _ (fun _ => ⟨rfl, rfl⟩) hm.2⟩

theorem unmap_good (hB : Kept B) (v : View) :
    Triple (Good B vs (v ::ₘ ms)) v.unmap (fun _ => Good B (v ::ₘ vs) ms) (fun _ => False) := by
  intro m hm
  obtain ⟨st, hst, -⟩ := hm.1.live v (by simp)
  exact ⟨hm.1.unmap hst, hB.modify m _ _ (fun _ => ⟨rfl, rfl⟩) hm.2⟩

/-- Writing bytes changes only the storage of the device, and never fails. -/
theorem writeBytes_good (hB : Kept B) (v : View) (pos : Nat) (src : ByteArray) :
    Triple (Good B vs ms) (v.writeBytes pos src) (fun _ => Good B vs ms) (fun _ => False) :=
  fun m hm => good_of_keeps hB (keeps_ledger_writeBytes v pos src) m hm

theorem wrap_good (hB : Kept B) (v : View) (offset : Nat) :
    Triple (fun m => Good B vs ms m ∧ m.stores.Has v) (v.wrap offset)
      (fun w => Good B (w ::ₘ vs) ms) (Good B vs ms) := by
  unfold View.wrap
  dsimp only
  refine Triple.ite (fun _ => ?_) fun _ => ?_
  · exact Triple.bind (R := fun _ _ => False) (Triple.throw _ fun _ h => h.1) fun _ _ h => h.elim
  · -- the wrap shares the view's store, so it is as live as the view
    exact Triple.bind ((retain_good hB _).mono (fun _ h => h) (fun _ _ h => h) fun _ h => h.elim)
      fun _ => Triple.pure _ fun _ h => h

theorem allocateWith_good (hB : Kept B) (flags : Flags) (data : ByteArray) :
    Triple (Good B vs ms) (allocateWith flags data) (fun v => Good B (v ::ₘ vs) ms)
      (Good B vs ms) := by
  unfold allocateWith
  refine Triple.bind (allocate_good hB _ _) fun v => ?_
  have hbody : Keeps Machine.ledger (do v.withMap (v.writeBytes 0 data); v.invalidate data.size) :=
    Keeps.bind (keeps_ledger_withMap v (keeps_ledger_writeBytes v 0 data)) fun _ =>
      keeps_ledger_viewInvalidate v _
  refine Triple.bind (Triple.tryCatch (good_of_keeps hB hbody) fun e => ?_) fun _ =>
    Triple.pure v fun _ h => h
  -- a failure gives the new view back before it goes on
  exact Triple.bind (release_good hB v).never_fails
    fun _ => Triple.throw e fun _ h => h

end Good

/-! ### Mapping flags restored -/

/-- `a` leaves every store that it finds mapped as it found it, and its new stores unmapped. -/
def Restoring (a : Act α) : Prop :=
  ∀ ss, Preserves (fun m => Stores.Restores ss m.stores) a

theorem restoring_of_keeps {a : Act α} (h : Keeps Machine.ledger a) : Restoring a :=
  fun _ => h.preserves fun m m' hl hr => by
    have hst : m'.stores = m.stores := congrArg Prod.fst hl
    rw [hst]
    exact hr

theorem restoring_allocate (size : Nat) (flags : Flags) : Restoring (allocate size flags) := by
  intro ss m hr
  rcases run_allocate size flags m with ⟨e, -, hrun⟩ | ⟨h, d, j, -, hrun⟩
  · rw [hrun]
    exact hr
  · rw [hrun]
    exact hr.trans (Stores.Restores.add _ rfl)

theorem restoring_retain (v : View) : Restoring v.retain :=
  fun _ m hr => hr.trans
    (Stores.Restores.modify (f := fun s => { s with refs := s.refs + 1 }) m.stores v.store
      fun _ => rfl)

theorem restoring_release (v : View) : Restoring v.release := by
  intro ss m hr
  rcases run_release v m with ⟨-, hrun⟩ | ⟨st, -, -, hrun⟩ | ⟨st, j, -, -, hrun⟩
  · rw [hrun]
    exact hr
  · rw [hrun]
    exact hr.trans (Stores.Restores.modify (f := fun s => { s with refs := s.refs - 1 }) m.stores
      v.store fun _ => rfl)
  · rw [hrun]
    exact hr.trans (Stores.Restores.erase m.stores v.store)

end Buffer

end TegraGpu
