import Mathlib
import TegraGpu.Buffer.Basic
/-!
# Backing stores and the views that hold them

The stores of the machine are a table under keys that are never given twice.  This module gives
the lookups of the table after each change (`find?_add`, `find?_modify`, `find?_erase`), and the
two relations that the theorems about buffer objects are stated with.

* `Stores.Holds vs ms ss` : the views `vs` and the mappings `ms` account for the stores `ss`
  exactly.  Every view's store is live and has the view's handle; every store counts its views in
  `refs` and has at least one; a store is mapped iff a mapping of it is live, and at most one is.
  `Holds.add`, `Holds.retain`, `Holds.release`, `Holds.erase`, `Holds.map` and `Holds.unmap` are
  what the operations on views do to it.
* `Stores.Restores ss ss'` : every store of `ss'` is mapped as it was in `ss`, and a store that
  `ss` did not have is not mapped.  It is a preorder (`Restores.refl`, `Restores.trans`).
-/

namespace TegraGpu.Buffer

namespace Stores

variable {ss : Stores} {k j : Nat} {st st' : Store}

/-! ### Lookups -/

theorem lookup_cons_ite (l : List (Nat × Store)) (k j : Nat) (b : Store) :
    ((k, b) :: l).lookup j = if j = k then some b else l.lookup j := by
  rw [List.lookup_cons]
  by_cases h : j = k
  · subst h
    simp
  · have hne : (j == k) = false := by simpa using h
    rw [hne]
    simp [h]

theorem lookup_eq_some_iff {l : List (Nat × Store)} (hl : (l.map Prod.fst).Nodup) :
    l.lookup k = some st ↔ (k, st) ∈ l := by
  induction l with
  | nil => simp
  | cons e l ih =>
    obtain ⟨k', b⟩ := e
    simp only [List.map_cons, List.nodup_cons, List.mem_map] at hl
    rw [lookup_cons_ite]
    by_cases hk : k = k'
    · subst hk
      have hnot : ∀ b', (k, b') ∉ l := fun b' hb' => hl.1 ⟨(k, b'), hb', rfl⟩
      simp [hnot, eq_comm]
    · simp [hk, ih hl.2]

theorem find?_eq_some_iff : ss.find? k = some st ↔ (k, st) ∈ ss.entries :=
  lookup_eq_some_iff ss.nodup

theorem lt_next_of_find? (h : ss.find? k = some st) : k < ss.next :=
  ss.lt_next (k, st) (find?_eq_some_iff.1 h)

theorem find?_of_next_le (h : ss.next ≤ k) : ss.find? k = none := by
  cases hf : ss.find? k with
  | none => rfl
  | some st => exact absurd (lt_next_of_find? hf) (Nat.not_lt.2 h)

@[simp] theorem find?_empty : empty.find? k = none := rfl

@[simp] theorem add_fst (st : Store) : (ss.add st).1 = ss.next := rfl

@[simp] theorem add_next (st : Store) : (ss.add st).2.next = ss.next + 1 := rfl

@[simp] theorem modify_next (f : Store → Store) : (ss.modify k f).next = ss.next := rfl

@[simp] theorem erase_next : (ss.erase k).next = ss.next := rfl

theorem find?_add (st : Store) :
    (ss.add st).2.find? j = if j = ss.next then some st else ss.find? j := by
  show (ss.entries ++ [(ss.next, st)]).lookup j = _
  rw [List.lookup_append, lookup_cons_ite]
  by_cases h : j = ss.next
  · subst h
    have hnone : ss.entries.lookup ss.next = none := find?_of_next_le (Nat.le_refl _)
    simp [hnone]
  · simp [h]
    rfl

theorem lookup_map_modify (l : List (Nat × Store)) (k j : Nat) (f : Store → Store) :
    (l.map fun e => if e.1 = k then (e.1, f e.2) else e).lookup j =
      if j = k then (l.lookup j).map f else l.lookup j := by
  induction l with
  | nil => split <;> rfl
  | cons e l ih =>
    obtain ⟨k', b⟩ := e
    by_cases hk' : k' = k
    · subst hk'
      rw [List.map_cons, if_pos rfl, lookup_cons_ite, ih, lookup_cons_ite]
      by_cases hj : j = k' <;> simp [hj]
    · rw [List.map_cons, if_neg hk', lookup_cons_ite, ih, lookup_cons_ite]
      by_cases hj : j = k'
      · subst hj
        simp [hk']
      · simp [hj]

theorem find?_modify (f : Store → Store) :
    (ss.modify k f).find? j = if j = k then (ss.find? j).map f else ss.find? j :=
  lookup_map_modify ss.entries k j f

theorem lookup_filter_ne (l : List (Nat × Store)) (k j : Nat) :
    (l.filter fun e => e.1 != k).lookup j = if j = k then none else l.lookup j := by
  induction l with
  | nil => split <;> rfl
  | cons e l ih =>
    obtain ⟨k', b⟩ := e
    by_cases hk' : k' = k
    · subst hk'
      rw [List.filter_cons_of_neg (by simp), ih, lookup_cons_ite]
      by_cases hj : j = k' <;> simp [hj]
    · rw [List.filter_cons_of_pos (by simpa using hk'), lookup_cons_ite, ih, lookup_cons_ite]
      by_cases hj : j = k'
      · subst hj
        simp [hk']
      · simp [hj]

theorem find?_erase : (ss.erase k).find? j = if j = k then none else ss.find? j :=
  lookup_filter_ne ss.entries k j

theorem find?_modify_self (f : Store → Store) : (ss.modify k f).find? k = (ss.find? k).map f := by
  simp [find?_modify]

theorem find?_modify_of_ne (f : Store → Store) (h : j ≠ k) :
    (ss.modify k f).find? j = ss.find? j := by
  simp [find?_modify, h]

theorem ext {ss ss' : Stores} (he : ss.entries = ss'.entries) (hn : ss.next = ss'.next) :
    ss = ss' := by
  cases ss
  cases ss'
  simp only at he hn
  subst he hn
  rfl

theorem modify_modify (f g : Store → Store) :
    (ss.modify k f).modify k g = ss.modify k (g ∘ f) := by
  refine ext ?_ rfl
  simp only [modify, List.map_map]
  apply List.map_congr_left
  rintro ⟨k', b⟩ _
  by_cases hk : k' = k <;> simp [hk]

/-- A change that leaves the store under its key as it is, or that finds no store there, leaves
the table as it is. -/
theorem modify_of_fixed {f : Store → Store} (hf : ∀ st, ss.find? k = some st → f st = st) :
    ss.modify k f = ss := by
  refine ext ?_ rfl
  unfold modify
  dsimp only
  conv_rhs => rw [← List.map_id ss.entries]
  apply List.map_congr_left
  rintro ⟨k', b⟩ he
  by_cases hk : k' = k
  · subst hk
    have hb : f b = b := hf b (find?_eq_some_iff.2 he)
    simp [hb]
  · simp [hk]

/-- The store of a view is live and has the view's handle. -/
def Has (ss : Stores) (v : View) : Prop :=
  ∃ st, ss.find? v.store = some st ∧ st.handle = v.handle

/-! ### Views that account for the stores -/

/-- The views `vs` and the mappings `ms` account for the stores `ss` exactly. -/
structure Holds (vs ms : Multiset View) (ss : Stores) : Prop where
  /-- Every view's store is live and has the view's handle. -/
  live : ∀ v ∈ vs + ms, ss.Has v
  /-- A store counts its views. -/
  refs : ∀ k st, ss.find? k = some st → st.refs = (vs + ms).countP (·.store = k)
  /-- Every store has a view. -/
  refs_pos : ∀ k st, ss.find? k = some st → 0 < st.refs
  /-- A store is mapped iff a mapping of it is live. -/
  mapped : ∀ k st, ss.find? k = some st → (st.mapped = true ↔ 0 < ms.countP (·.store = k))
  /-- No two mappings are of one store. -/
  single : ∀ k, ms.countP (·.store = k) ≤ 1

namespace Holds

variable {vs ms : Multiset View} {v : View}

/-- The relation reads the table through its lookups only. -/
theorem of_find? {ss' : Stores} (h : Holds vs ms ss) (hf : ∀ k, ss'.find? k = ss.find? k) :
    Holds vs ms ss' where
  live w hw := by simpa [Has, hf] using h.live w hw
  refs k st hk := h.refs k st (by rwa [← hf])
  refs_pos k st hk := h.refs_pos k st (by rwa [← hf])
  mapped k st hk := h.mapped k st (by rwa [← hf])
  single := h.single

theorem of_entries {ss' : Stores} (h : Holds vs ms ss) (he : ss'.entries = ss.entries) :
    Holds vs ms ss' :=
  h.of_find? fun k => by simp only [find?, he]

theorem countP_pos (h : Holds vs ms ss) (hk : ss.find? k = some st) :
    0 < (vs + ms).countP (·.store = k) := h.refs k st hk ▸ h.refs_pos k st hk

/-- A view of a store that no other view holds is the store's only view. -/
theorem not_mem_of_fresh (h : Holds vs ms ss) (hk : ss.find? k = none) :
    ∀ w ∈ vs + ms, w.store ≠ k := by
  intro w hw hwk
  obtain ⟨st, hst, -⟩ := h.live w hw
  rw [hwk, hk] at hst
  cases hst

/-- A new store with one view, under the next key. -/
theorem add (h : Holds vs ms ss) {st : Store} (hrefs : st.refs = 1) (hmap : st.mapped = false)
    (hv : v.store = ss.next) (hh : st.handle = v.handle) :
    Holds (v ::ₘ vs) ms (ss.add st).2 where
  live w hw := by
    unfold Has
    rw [find?_add]
    rw [Multiset.cons_add, Multiset.mem_cons] at hw
    rcases hw with rfl | hw
    · simp [hv, hh]
    · obtain ⟨st', hst', hh'⟩ := h.live w hw
      have hne : w.store ≠ ss.next := Nat.ne_of_lt (lt_next_of_find? hst')
      simp [hne, hst', hh']
  refs j st' hj := by
    rw [find?_add] at hj
    rw [Multiset.cons_add, Multiset.countP_cons]
    by_cases hjn : j = ss.next
    · subst hjn
      simp only [if_true, Option.some.injEq] at hj
      subst hj
      have hzero : (vs + ms).countP (·.store = ss.next) = 0 :=
        Multiset.countP_eq_zero.2 (h.not_mem_of_fresh (find?_of_next_le (Nat.le_refl _)))
      simp [hzero, hv, hrefs]
    · simp only [hjn, if_false] at hj
      simp [h.refs j st' hj, hv, Ne.symm hjn]
  refs_pos j st' hj := by
    rw [find?_add] at hj
    by_cases hjn : j = ss.next
    · simp only [hjn, if_true, Option.some.injEq] at hj
      subst hj
      omega
    · simp only [hjn, if_false] at hj
      exact h.refs_pos j st' hj
  mapped j st' hj := by
    rw [find?_add] at hj
    by_cases hjn : j = ss.next
    · simp only [hjn, if_true, Option.some.injEq] at hj
      subst hj hjn
      have hzero : ms.countP (·.store = ss.next) = 0 :=
        Multiset.countP_eq_zero.2 fun w hw =>
          h.not_mem_of_fresh (find?_of_next_le (Nat.le_refl _)) w (Multiset.mem_add.2 (.inr hw))
      simp [hzero, hmap]
    · simp only [hjn, if_false] at hj
      exact h.mapped j st' hj
  single := h.single

/-- A change of the store under `k` that keeps its handle, with new views that differ from the
old ones only in views of that store: the other stores keep their accounts, and the changed store
is accounted for by the new views. -/
theorem modify (h : Holds vs ms ss) {vs' ms' : Multiset View} {f : Store → Store}
    (hf : ∀ s, (f s).handle = s.handle) (hk : ss.find? k = some st)
    (hmem : ∀ w ∈ vs' + ms', w ∈ vs + ms ∨ (w.store = k ∧ w.handle = st.handle))
    (hall : ∀ j ≠ k, (vs' + ms').countP (·.store = j) = (vs + ms).countP (·.store = j))
    (hmaps : ∀ j ≠ k, ms'.countP (·.store = j) = ms.countP (·.store = j))
    (hrefs : (f st).refs = (vs' + ms').countP (·.store = k)) (hpos : 0 < (f st).refs)
    (hmapped : (f st).mapped = true ↔ 0 < ms'.countP (·.store = k))
    (hsingle : ms'.countP (·.store = k) ≤ 1) :
    Holds vs' ms' (ss.modify k f) where
  live w hw := by
    unfold Has
    rw [find?_modify]
    rcases hmem w hw with hw | ⟨hwk, hwh⟩
    · obtain ⟨st', hst', hh⟩ := h.live w hw
      by_cases hwk : w.store = k
      · rw [if_pos hwk, hst']
        exact ⟨f st', rfl, (hf st').trans hh⟩
      · rw [if_neg hwk]
        exact ⟨st', hst', hh⟩
    · rw [if_pos hwk, hwk, hk]
      exact ⟨f st, rfl, (hf st).trans hwh.symm⟩
  refs j st' hj := by
    rw [find?_modify] at hj
    by_cases hjk : j = k
    · subst hjk
      rw [if_pos rfl, hk, Option.map_some] at hj
      cases hj
      exact hrefs
    · rw [if_neg hjk] at hj
      rw [hall j hjk]
      exact h.refs j st' hj
  refs_pos j st' hj := by
    rw [find?_modify] at hj
    by_cases hjk : j = k
    · subst hjk
      rw [if_pos rfl, hk, Option.map_some] at hj
      cases hj
      exact hpos
    · rw [if_neg hjk] at hj
      exact h.refs_pos j st' hj
  mapped j st' hj := by
    rw [find?_modify] at hj
    by_cases hjk : j = k
    · subst hjk
      rw [if_pos rfl, hk, Option.map_some] at hj
      cases hj
      exact hmapped
    · rw [if_neg hjk] at hj
      rw [hmaps j hjk]
      exact h.mapped j st' hj
  single j := by
    by_cases hjk : j = k
    · subst hjk
      exact hsingle
    · rw [hmaps j hjk]
      exact h.single j

theorem countP_cons_of_ne {w : View} {s : Multiset View} (hj : j ≠ w.store) :
    (w ::ₘ s).countP (·.store = j) = s.countP (·.store = j) := by
  simp [Ne.symm hj]

theorem countP_cons_self (w : View) (s : Multiset View) :
    (w ::ₘ s).countP (·.store = w.store) = s.countP (·.store = w.store) + 1 := by
  simp

/-- One more view of a live store. -/
theorem retain (h : Holds vs ms ss) (hst : ss.find? v.store = some st) (hh : st.handle = v.handle) :
    Holds (v ::ₘ vs) ms (ss.modify v.store fun s => { s with refs := s.refs + 1 }) := by
  refine h.modify (fun _ => rfl) hst ?_ ?_ (fun _ _ => rfl) ?_ (Nat.succ_pos _) ?_ (h.single _)
  · intro w hw
    rw [Multiset.cons_add, Multiset.mem_cons] at hw
    rcases hw with rfl | hw
    · exact .inr ⟨rfl, hh.symm⟩
    · exact .inl hw
  · intro j hj
    rw [Multiset.cons_add, countP_cons_of_ne hj]
  · rw [Multiset.cons_add, countP_cons_self, h.refs _ st hst]
  · exact h.mapped _ st hst

/-- A view given back while other views of its store remain. -/
theorem release (h : Holds (v ::ₘ vs) ms ss) (hst : ss.find? v.store = some st) (hlt : 1 < st.refs) :
    Holds vs ms (ss.modify v.store fun s => { s with refs := s.refs - 1 }) := by
  have hcount := h.refs _ st hst
  rw [Multiset.cons_add, countP_cons_self] at hcount
  refine h.modify (fun _ => rfl) hst ?_ ?_ (fun _ _ => rfl) ?_ ?_ ?_ (h.single _)
  · intro w hw
    exact .inl (by rw [Multiset.cons_add]; exact Multiset.mem_cons_of_mem hw)
  · intro j hj
    rw [Multiset.cons_add, countP_cons_of_ne hj]
  · show st.refs - 1 = _
    omega
  · show 0 < st.refs - 1
    omega
  · exact h.mapped _ st hst

/-- The last view of a store given back: the store goes. -/
theorem erase (h : Holds (v ::ₘ vs) ms ss) (hst : ss.find? v.store = some st) (hle : st.refs ≤ 1) :
    Holds vs ms (ss.erase v.store) := by
  -- the store's one reference is `v`, so no other view and no mapping is of it
  have hcount := h.refs _ st hst
  simp only [Multiset.cons_add, Multiset.countP_cons, ↓reduceIte] at hcount
  have hnone : (vs + ms).countP (·.store = v.store) = 0 := by
    have := h.refs_pos _ st hst
    omega
  have hout : ∀ w ∈ vs + ms, w.store ≠ v.store := fun w hw hwv =>
    (Multiset.countP_eq_zero.1 hnone) w hw hwv
  refine ⟨?_, ?_, ?_, ?_, h.single⟩
  · intro w hw
    unfold Has
    rw [find?_erase, if_neg (hout w hw)]
    exact h.live w (by rw [Multiset.cons_add]; exact Multiset.mem_cons_of_mem hw)
  · intro j st' hj
    rw [find?_erase] at hj
    by_cases hjv : j = v.store
    · simp [hjv] at hj
    · simp only [hjv, if_false] at hj
      have := h.refs j st' hj
      rw [Multiset.cons_add, Multiset.countP_cons] at this
      simpa [Ne.symm hjv] using this
  · intro j st' hj
    rw [find?_erase] at hj
    by_cases hjv : j = v.store
    · simp [hjv] at hj
    · simp only [hjv, if_false] at hj
      exact h.refs_pos j st' hj
  · intro j st' hj
    rw [find?_erase] at hj
    by_cases hjv : j = v.store
    · simp [hjv] at hj
    · simp only [hjv, if_false] at hj
      exact h.mapped j st' hj

/-- A view becomes a mapping: its store, not mapped before, is mapped now. -/
theorem map (h : Holds (v ::ₘ vs) ms ss) (hst : ss.find? v.store = some st)
    (hfree : st.mapped = false) :
    Holds vs (v ::ₘ ms) (ss.modify v.store fun s => { s with mapped := true }) := by
  have hzero : ms.countP (·.store = v.store) = 0 := by
    have := h.mapped _ st hst
    rw [hfree] at this
    simpa using this
  have hsum : vs + v ::ₘ ms = v ::ₘ vs + ms := by rw [Multiset.cons_add, Multiset.add_cons]
  refine h.modify (fun _ => rfl) hst ?_ ?_ ?_ ?_ (h.refs_pos _ st hst) ?_ ?_
  · intro w hw
    exact .inl (hsum ▸ hw)
  · intro j _
    rw [hsum]
  · intro j hj
    exact countP_cons_of_ne hj
  · rw [hsum]
    exact h.refs _ st hst
  · simp
  · rw [countP_cons_self, hzero]

/-- A mapping ends: its view stays, its store is mapped no more. -/
theorem unmap (h : Holds vs (v ::ₘ ms) ss) (hst : ss.find? v.store = some st) :
    Holds (v ::ₘ vs) ms (ss.modify v.store fun s => { s with mapped := false }) := by
  -- the mapping was the only one of its store
  have hzero : ms.countP (·.store = v.store) = 0 := by
    have := h.single v.store
    rw [countP_cons_self] at this
    omega
  have hsum : v ::ₘ vs + ms = vs + v ::ₘ ms := by rw [Multiset.cons_add, Multiset.add_cons]
  refine h.modify (fun _ => rfl) hst ?_ ?_ ?_ ?_ (h.refs_pos _ st hst) ?_ ?_
  · intro w hw
    exact .inl (hsum ▸ hw)
  · intro j _
    rw [hsum]
  · intro j hj
    exact (countP_cons_of_ne hj).symm
  · rw [hsum]
    exact h.refs _ st hst
  · simp [hzero]
  · omega

end Holds

/-! ### Mapping flags restored -/

/-- Every store of `ss'` is mapped as it was in `ss`, and a store that `ss` did not have, under a
key given after `ss`, is not mapped. -/
structure Restores (ss ss' : Stores) : Prop where
  /-- Keys are only given, never taken back. -/
  next_le : ss.next ≤ ss'.next
  /-- A store of both is mapped in `ss'` as in `ss`. -/
  kept : ∀ k st st', ss.find? k = some st → ss'.find? k = some st' → st'.mapped = st.mapped
  /-- A new store is under a new key and not mapped. -/
  fresh : ∀ k st', ss.find? k = none → ss'.find? k = some st' → ss.next ≤ k ∧ st'.mapped = false

namespace Restores

@[refl] theorem refl (ss : Stores) : Restores ss ss where
  next_le := Nat.le_refl _
  kept k st st' h h' := by rw [h] at h'; cases h'; rfl
  fresh k st' h h' := by rw [h] at h'; cases h'

@[trans] theorem trans {ss₁ ss₂ ss₃ : Stores} (h₁ : Restores ss₁ ss₂) (h₂ : Restores ss₂ ss₃) :
    Restores ss₁ ss₃ where
  next_le := Nat.le_trans h₁.next_le h₂.next_le
  kept k st st₃ hk hk₃ := by
    cases hk₂ : ss₂.find? k with
    | none =>
      -- a key of `ss₁` is below `ss₂.next`, so it cannot be new in `ss₃`
      have := (h₂.fresh k st₃ hk₂ hk₃).1
      have := lt_next_of_find? hk
      have := h₁.next_le
      omega
    | some st₂ => exact (h₂.kept k st₂ st₃ hk₂ hk₃).trans (h₁.kept k st st₂ hk hk₂)
  fresh k st₃ hk hk₃ := by
    cases hk₂ : ss₂.find? k with
    | none =>
      obtain ⟨hle, hm⟩ := h₂.fresh k st₃ hk₂ hk₃
      exact ⟨Nat.le_trans h₁.next_le hle, hm⟩
    | some st₂ =>
      obtain ⟨hle, hm⟩ := h₁.fresh k st₂ hk hk₂
      exact ⟨hle, (h₂.kept k st₂ st₃ hk₂ hk₃).trans hm⟩

theorem of_entries {ss ss' : Stores} (he : ss'.entries = ss.entries) (hn : ss.next ≤ ss'.next) :
    Restores ss ss' where
  next_le := hn
  kept k st st' h h' := by
    have : ss'.find? k = ss.find? k := by simp only [find?, he]
    rw [this, h] at h'; cases h'; rfl
  fresh k st' h h' := by
    have : ss'.find? k = ss.find? k := by simp only [find?, he]
    rw [this, h] at h'; cases h'

/-- A new store that is not mapped. -/
theorem add (ss : Stores) {st : Store} (hst : st.mapped = false) : Restores ss (ss.add st).2 where
  next_le := Nat.le_succ _
  kept k st₁ st' h h' := by
    rw [find?_add] at h'
    have hk : k ≠ ss.next := Nat.ne_of_lt (lt_next_of_find? h)
    rw [if_neg hk, h] at h'
    cases h'; rfl
  fresh k st' h h' := by
    rw [find?_add] at h'
    by_cases hk : k = ss.next
    · rw [if_pos hk] at h'
      cases h'
      exact ⟨Nat.le_of_eq hk.symm, hst⟩
    · rw [if_neg hk, h] at h'
      cases h'

/-- A change that keeps the mapping flag. -/
theorem modify (ss : Stores) (k : Nat) {f : Store → Store} (hf : ∀ s, (f s).mapped = s.mapped) :
    Restores ss (ss.modify k f) where
  next_le := Nat.le_refl _
  kept j st st' h h' := by
    rw [find?_modify] at h'
    by_cases hj : j = k
    · rw [if_pos hj, h] at h'
      cases h'
      exact hf st
    · rw [if_neg hj, h] at h'
      cases h'; rfl
  fresh j st' h h' := by
    rw [find?_modify] at h'
    by_cases hj : j = k
    · rw [if_pos hj, h] at h'; cases h'
    · rw [if_neg hj, h] at h'; cases h'

theorem erase (ss : Stores) (k : Nat) : Restores ss (ss.erase k) where
  next_le := Nat.le_refl _
  kept j st st' h h' := by
    rw [find?_erase] at h'
    by_cases hj : j = k
    · rw [if_pos hj] at h'; cases h'
    · rw [if_neg hj, h] at h'; cases h'; rfl
  fresh j st' h h' := by
    rw [find?_erase] at h'
    by_cases hj : j = k
    · rw [if_pos hj] at h'; cases h'
    · rw [if_neg hj, h] at h'; cases h'

end Restores

end Stores

end TegraGpu.Buffer
