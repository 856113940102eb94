import Mathlib
import TegraGpu.Bench.Run
import TegraGpu.Proofs.Buffer
/-!
# Shaders keep the tables of their kind

Reading a source checks every entry against the table of its part: a header of a part that the
kind does not allow is refused, and so is an entry whose index is not below the part's limit.
So every shader that reading returns keeps its kind's table (`parse_respects`), and the users
of the tables may rely on it without checking again:

* linking stores every constant inside the program's constant tables, which then hold each
  shader's constant at its index and zero elsewhere (`link_vsConstants`, `link_fsConstants`);
* the locations of attributes and uniforms are the least index that carries the name
  (`locate_eq_some_iff`), so they lie below the engine's attribute slots and uniform files, and
  the engine calls that the shader bench makes with them cannot be refused
  (`applyUniforms_ok`).

The limits of the reader are the sizes that the engine and the program use
(`limits_agree`); they are stated once in each place, in different units.

* `Part.Fits`, `Table.Fits`, `NameOk`, `Shader.Respects` : the table of a kind.
* `Table.insert?_fits`, `readEntry_respects`, `step_respects` : one line keeps it.
* `fillTable_getElem?` : the constant tables after linking.
-/

namespace TegraGpu.Shader

open Text

/-! ### The table of a kind -/

/-- An index fits part `p` of a shader of kind `kind`: the kind allows the part and the index
lies below the part's limit. -/
def Part.Fits (kind : Kind) (p : Part) (i : Nat) : Prop :=
  ∃ n, p.limit kind = some n ∧ i < n

/-- A table as part `p` of a shader of kind `kind` keeps it: its indices increase strictly and
each fits the part. -/
structure Table.Fits {α : Type} (kind : Kind) (p : Part) (t : Table α) : Prop where
  /-- The indices increase strictly. -/
  sorted : (t.map Prod.fst).Pairwise (· < ·)
  /-- Every index fits the part. -/
  fit : ∀ e ∈ t, p.Fits kind e.1

/-- A name as sources write it: nonempty and without a double quote. -/
def NameOk (name : String) : Prop :=
  name ≠ "" ∧ '"' ∉ name.toList

/-- A shader keeps the table of its kind: each of its four tables fits its part, and its names
are nonempty and free of quotes. -/
structure Respects (s : Shader) : Prop where
  /-- The attribute names. -/
  attributes : Table.Fits s.kind .attributes s.attributes
  /-- The exported names. -/
  exports : Table.Fits s.kind .exports s.exports
  /-- The uniform names. -/
  uniforms : Table.Fits s.kind .uniforms s.uniforms
  /-- The constant words. -/
  constants : Table.Fits s.kind .constants s.constants
  /-- Every name. -/
  names : ∀ e ∈ s.attributes ++ s.exports ++ s.uniforms, NameOk e.2

/-- A table that fits a part the kind does not allow is empty. -/
theorem Table.Fits.eq_nil {α : Type} {kind : Kind} {p : Part} {t : Table α}
    (h : Table.Fits kind p t) (hp : p.limit kind = none) : t = [] := by
  rcases t with _ | ⟨e, t⟩
  · rfl
  · obtain ⟨n, hn, -⟩ := h.fit e List.mem_cons_self
    rw [hp] at hn
    cases hn

/-! ### Adding an entry -/

section Insert

variable {α : Type} {i : Nat} {a : α} {t t' : Table α}

theorem Table.mem_insert? (h : t.insert? i a = some t') : ∀ e ∈ t', e = (i, a) ∨ e ∈ t := by
  induction t generalizing t' with
  | nil =>
    simp only [Table.insert?, Option.some.injEq] at h
    subst h
    simp
  | cons b rest ih =>
    obtain ⟨j, x⟩ := b
    simp only [Table.insert?] at h
    split at h
    · cases h
      intro e he
      simpa using he
    · split at h
      · cases h
      · obtain ⟨r, hr, rfl⟩ := Option.map_eq_some_iff.1 h
        intro e he
        rcases List.mem_cons.1 he with rfl | he
        · exact .inr List.mem_cons_self
        · rcases ih hr e he with h | h
          · exact .inl h
          · exact .inr (List.mem_cons_of_mem _ h)

/-- Adding an entry keeps the indices increasing. -/
theorem Table.sorted_insert? (hs : (t.map Prod.fst).Pairwise (· < ·))
    (h : t.insert? i a = some t') : (t'.map Prod.fst).Pairwise (· < ·) := by
  induction t generalizing t' with
  | nil =>
    simp only [Table.insert?, Option.some.injEq] at h
    subst h
    simp
  | cons b rest ih =>
    obtain ⟨j, x⟩ := b
    simp only [List.map_cons, List.pairwise_cons, List.mem_map] at hs
    simp only [Table.insert?] at h
    split at h
    · next hij =>
      cases h
      simp only [List.map_cons, List.pairwise_cons, List.mem_cons, List.mem_map]
      -- the new index is below `j`, which is below the rest
      refine ⟨?_, hs.1, hs.2⟩
      rintro k (rfl | ⟨e, he, rfl⟩)
      · exact hij
      · exact hij.trans (hs.1 _ ⟨e, he, rfl⟩)
    · split at h
      · cases h
      · next hij hne =>
        obtain ⟨r, hr, rfl⟩ := Option.map_eq_some_iff.1 h
        simp only [List.map_cons, List.pairwise_cons, List.mem_map]
        -- `j` stays first: it is below the new index and below the rest
        refine ⟨?_, ih hs.2 hr⟩
        rintro k ⟨e, he, rfl⟩
        rcases Table.mem_insert? hr e he with rfl | he
        · omega
        · exact hs.1 _ ⟨e, he, rfl⟩

theorem Table.insert?_fits {kind : Kind} {p : Part} (ht : Table.Fits kind p t)
    (hi : p.Fits kind i) (h : t.insert? i a = some t') : Table.Fits kind p t' where
  sorted := Table.sorted_insert? ht.sorted h
  fit e he := by
    rcases Table.mem_insert? h e he with rfl | he
    · exact hi
    · exact ht.fit e he

end Insert

/-! ### One line keeps the table -/

theorem readName?_ok {value : List Char} {name : String} (h : readName? value = some name) :
    NameOk name := by
  unfold readName? at h
  split at h
  · next rest =>
    dsimp only at h
    split at h
    · split at h
      · cases h
      · next hbad =>
        cases h
        simp only [Bool.or_eq_true, List.isEmpty_iff, List.contains_iff_mem, not_or] at hbad
        refine ⟨fun he => hbad.1 ?_, by simpa using hbad.2⟩
        simpa using congrArg String.toList he
    · cases h
  · cases h

/-- What a successful entry line did: its index is below the part's limit, and the value went
into the part's table. -/
theorem readEntry_ok {path : String} {lineNo : Nat} {s s' : Shader} {part : Part}
    {line : List Char} (h : readEntry path lineNo s part line = .ok s') :
    ∃ i value, splitEntry line = .ok (i, value) ∧ i < (part.limit s.kind).getD 0 ∧
      ((part = .constants ∧ ∃ w t, readConstant? value = some w ∧ s.constants.insert? i w = some t ∧
          s' = { s with constants := t }) ∨
        (part ≠ .constants ∧ ∃ name, readName? value = some name ∧
          storeName s part i name = some s')) := by
  unfold readEntry at h
  cases hs : splitEntry line with
  | error f => simp [hs, Except.mapError, bind, Except.bind] at h
  | ok r =>
    obtain ⟨i, value⟩ := r
    simp only [hs, Except.mapError, bind, Except.bind] at h
    refine ⟨i, value, rfl, ?_⟩
    split at h
    · cases h
    · next hlim =>
      refine ⟨by omega, ?_⟩
      cases part with
      | constants =>
        simp only at h
        cases hc : readConstant? value with
        | none => simp [hc, throw, throwThe, MonadExceptOf.throw] at h
        | some w =>
          simp only [hc, pure, Except.pure] at h
          cases hi : s.constants.insert? i w with
          | none => simp [hi, throw, throwThe, MonadExceptOf.throw] at h
          | some t =>
            simp only [hi, Option.map_some] at h
            cases h
            exact .inl ⟨rfl, w, t, rfl, hi, rfl⟩
      | _ =>
        simp only at h
        cases hn : readName? value with
        | none => simp [hn, throw, throwThe, MonadExceptOf.throw] at h
        | some name =>
          simp only [hn, pure, Except.pure] at h
          refine .inr ⟨by simp, name, rfl, ?_⟩
          split at h
          · cases h
          · next _ hst =>
            cases h
            exact hst

/-- Storing a name of a table part puts it into that part's table; the other tables stay. -/
theorem storeName_fits {s s' : Shader} {part : Part} {i : Nat} {name : String}
    (hs : s.Respects) (hpart : part ≠ .constants) (hword : part ≠ .words)
    (hi : part.Fits s.kind i) (hn : NameOk name) (h : storeName s part i name = some s') :
    s'.kind = s.kind ∧ s'.Respects := by
  have hnames : ∀ {t t' : Table String}, t.insert? i name = some t' →
      ∀ e ∈ t', e ∈ t ∨ e.2 = name := fun ht e he =>
    (Table.mem_insert? ht e he).elim (fun h => .inr (by rw [h])) .inl
  cases part with
  | attributes =>
    obtain ⟨t, ht, rfl⟩ := Option.map_eq_some_iff.1 h
    refine ⟨rfl, ⟨Table.insert?_fits hs.attributes hi ht, hs.exports, hs.uniforms,
      hs.constants, fun e he => ?_⟩⟩
    simp only [List.mem_append] at he
    rcases he with (he | he) | he
    · rcases hnames ht e he with he | he
      · exact hs.names e (by simp [he])
      · exact he ▸ hn
    · exact hs.names e (by simp [he])
    · exact hs.names e (by simp [he])
  | exports =>
    obtain ⟨t, ht, rfl⟩ := Option.map_eq_some_iff.1 h
    refine ⟨rfl, ⟨hs.attributes, Table.insert?_fits hs.exports hi ht, hs.uniforms,
      hs.constants, fun e he => ?_⟩⟩
    simp only [List.mem_append] at he
    rcases he with (he | he) | he
    · exact hs.names e (by simp [he])
    · rcases hnames ht e he with he | he
      · exact hs.names e (by simp [he])
      · exact he ▸ hn
    · exact hs.names e (by simp [he])
  | uniforms =>
    obtain ⟨t, ht, rfl⟩ := Option.map_eq_some_iff.1 h
    refine ⟨rfl, ⟨hs.attributes, hs.exports, Table.insert?_fits hs.uniforms hi ht,
      hs.constants, fun e he => ?_⟩⟩
    simp only [List.mem_append] at he
    rcases he with (he | he) | he
    · exact hs.names e (by simp [he])
    · exact hs.names e (by simp [he])
    · rcases hnames ht e he with he | he
      · exact hs.names e (by simp [he])
      · exact he ▸ hn
  | constants => exact absurd rfl hpart
  | words => exact absurd rfl hword

/-- An entry line of a table part keeps the table. -/
theorem readEntry_respects {path : String} {lineNo : Nat} {s s' : Shader} {part : Part}
    {line : List Char} (hs : s.Respects) (hword : part ≠ .words)
    (h : readEntry path lineNo s part line = .ok s') : s'.kind = s.kind ∧ s'.Respects := by
  obtain ⟨i, value, -, hlt, hc | ⟨hpart, name, hn, hst⟩⟩ := readEntry_ok h
  · obtain ⟨rfl, w, t, -, ht, rfl⟩ := hc
    -- an index below `getD 0` of the limit is below a limit that exists
    have hi : Part.Fits s.kind .constants i := by
      cases hl : Part.limit s.kind .constants with
      | none => rw [hl] at hlt; simp at hlt
      | some n => exact ⟨n, hl, by rw [hl] at hlt; simpa using hlt⟩
    exact ⟨rfl, ⟨hs.attributes, hs.exports, hs.uniforms, Table.insert?_fits hs.constants hi ht,
      hs.names⟩⟩
  · have hi : part.Fits s.kind i := by
      cases hl : part.limit s.kind with
      | none => rw [hl] at hlt; simp at hlt
      | some n => exact ⟨n, hl, by rw [hl] at hlt; simpa using hlt⟩
    exact storeName_fits hs hpart hword hi (readName?_ok hn) hst

/-- A words line only adds words. -/
theorem readWords_words {path : String} {lineNo : Nat} {s s' : Shader} {tokens : List (List Char)}
    (h : readWords path lineNo s tokens = .ok s') : ∃ ws, s' = { s with words := ws } := by
  induction tokens generalizing s with
  | nil =>
    cases h
    exact ⟨_, rfl⟩
  | cons token rest ih =>
    unfold readWords at h
    split at h
    · exact ih h
    · split at h
      · cases h
      · obtain ⟨ws, rfl⟩ := ih h
        exact ⟨ws, rfl⟩

theorem except_map_eq_ok {ε α β : Type} {f : α → β} {x : Except ε α} {b : β}
    (h : x.map f = .ok b) : ∃ a, x = .ok a ∧ f a = b := by
  cases x with
  | error e => cases h
  | ok a => exact ⟨a, rfl, Except.ok.inj h⟩

/-- One line of a source keeps the table of the shader read so far. -/
theorem step_respects {path : String} {p p' : Progress} {numbered : Nat × List Char}
    (hs : p.shader.Respects) (h : step path p numbered = .ok p') :
    p'.shader.kind = p.shader.kind ∧ p'.shader.Respects := by
  obtain ⟨lineNo, raw⟩ := numbered
  simp only [step] at h
  generalize trim (stripComment false raw) = line at h
  split at h
  · cases h
    exact ⟨rfl, hs⟩
  · split at h
    · cases h
    · split at h
      · cases h
      · cases h
        exact ⟨rfl, hs⟩
  · split at h
    · cases h
    · obtain ⟨s, hs', rfl⟩ := except_map_eq_ok h
      obtain ⟨ws, rfl⟩ := readWords_words hs'
      exact ⟨rfl, hs.attributes, hs.exports, hs.uniforms, hs.constants, hs.names⟩
    · next part hnw _ =>
      obtain ⟨s, hs', rfl⟩ := except_map_eq_ok h
      exact readEntry_respects hs hnw hs'

/-- A fold in `Except` keeps what every step keeps. -/
theorem foldlM_except_inv {ε β δ : Type} {f : β → δ → Except ε β} (I : β → Prop)
    (hf : ∀ b x b', I b → f b x = .ok b' → I b') :
    ∀ (xs : List δ) (b b' : β), I b → xs.foldlM f b = .ok b' → I b'
  | [], b, b', hb, h => by
    cases h
    exact hb
  | x :: xs, b, b', hb, h => by
    rw [List.foldlM_cons] at h
    cases hx : f b x with
    | error e => simp [hx, bind, Except.bind] at h
    | ok c =>
      simp only [hx, bind, Except.bind] at h
      exact foldlM_except_inv I hf xs c b' (hf b x c hb hx) h

/-- Every shader that reading returns has the kind it was read as and keeps its table. -/
theorem parse_respects {kind : Kind} {path source : String} {s : Shader}
    (h : parse kind path source = .ok s) : s.kind = kind ∧ s.Respects := by
  unfold parse at h
  cases hf : (numberedLines source).foldlM (step path) { shader := { kind }, part := none } with
  | error e => simp [hf, Except.map] at h
  | ok p =>
    simp only [hf, Except.map, Except.ok.injEq] at h
    subst h
    have hstart : ({ kind } : Shader).Respects :=
      ⟨⟨by simp, by simp⟩, ⟨by simp, by simp⟩, ⟨by simp, by simp⟩, ⟨by simp, by simp⟩,
        by simp⟩
    exact foldlM_except_inv (fun q : Progress => q.shader.kind = kind ∧ q.shader.Respects)
      (fun q _ q' hq hstep => by
        obtain ⟨hk, hr⟩ := step_respects hq.2 hstep
        exact ⟨hk.trans hq.1, hr⟩) _ _ _ ⟨rfl, hstart⟩ hf

/-! ### What the users of the tables may rely on -/

/-- The limits of the reader are the sizes of the tables that use the indices: the engine's
sixteen attribute slots, its vertex uniform file of four floats per location and its fragment
uniform file of one float per location, and the program's constant tables. -/
theorem limits_agree :
    Part.limit .vertex .attributes = some Raster.attribSlots ∧
      Part.limit .vertex .exports = some Raster.attribSlots ∧
      Part.limit .vertex .uniforms = some (Raster.vertexUniformFloats / 4) ∧
      Part.limit .fragment .uniforms = some Raster.fragmentUniformFloats ∧
      Part.limit .vertex .constants = some vertexConstants ∧
      Part.limit .fragment .constants = some fragmentConstants := by
  decide

theorem Table.Fits.lt {α : Type} {kind : Kind} {p : Part} {t : Table α} {n : Nat}
    (h : Table.Fits kind p t) (hn : p.limit kind = some n) {e : Nat × α} (he : e ∈ t) :
    e.1 < n := by
  obtain ⟨m, hm, hlt⟩ := h.fit e he
  rw [hn, Option.some.injEq] at hm
  exact hm ▸ hlt

theorem Table.Fits.nodup {α : Type} {kind : Kind} {p : Part} {t : Table α}
    (h : Table.Fits kind p t) : (t.map Prod.fst).Nodup :=
  h.sorted.imp (ne_of_lt)

section Lookup

variable {α : Type}

theorem Table.get?_cons (j : Nat) (x : α) (t : Table α) (i : Nat) :
    Table.get? ((j, x) :: t) i = if j = i then some x else t.get? i := by
  by_cases h : j = i <;> simp [Table.get?, h]

theorem Table.get?_eq_none {t : Table α} {i : Nat} (h : i ∉ t.map Prod.fst) : t.get? i = none := by
  induction t with
  | nil => rfl
  | cons e t ih =>
    obtain ⟨j, x⟩ := e
    simp only [List.map_cons, List.mem_cons, not_or] at h
    rw [Table.get?_cons, if_neg (Ne.symm h.1), ih h.2]

/-- Writing the entries of a table with distinct indices into an array: each position holds the
entry at its index, and what it held when the table has none. -/
theorem foldl_setIfInBounds_getElem? (t : Table UInt32) (hk : (t.map Prod.fst).Nodup)
    (a : Array UInt32) (i : Nat) :
    (t.foldl (fun a (j, w) => a.setIfInBounds j w) a)[i]? = a[i]?.map fun x => (t.get? i).getD x := by
  induction t generalizing a with
  | nil => simp [Table.get?]
  | cons e t ih =>
    obtain ⟨j, w⟩ := e
    simp only [List.map_cons, List.nodup_cons] at hk
    rw [List.foldl_cons, ih hk.2, Array.getElem?_setIfInBounds, Table.get?_cons]
    by_cases hji : j = i
    · -- the entry at `i` is the one written here: the rest has no index `i`
      subst hji
      rw [Table.get?_eq_none hk.1]
      by_cases hlt : j < a.size <;> simp [hlt]
    · simp [hji]

/-- A constant table built from a table whose indices are distinct and below its size holds each
entry at its index and zero elsewhere. -/
theorem fillTable_getElem? {n : Nat} {t : Table UInt32} (hk : (t.map Prod.fst).Nodup) {i : Nat}
    (hi : i < n) : (fillTable n t)[i]? = some ((t.get? i).getD 0) := by
  rw [fillTable, foldl_setIfInBounds_getElem? t hk, Array.getElem?_replicate, if_pos hi,
    Option.map_some]

theorem size_fillTable (n : Nat) (t : Table UInt32) : (fillTable n t).size = n := by
  rw [fillTable]
  suffices h : ∀ a : Array UInt32, (t.foldl (fun a (j, w) => a.setIfInBounds j w) a).size = a.size by
    rw [h, Array.size_replicate]
  intro a
  induction t generalizing a with
  | nil => rfl
  | cons e t ih => rw [List.foldl_cons, ih, Array.size_setIfInBounds]

theorem Table.locate_cons (j : Nat) (x : String) (t : Table String) (name : String) :
    Table.locate ((j, x) :: t) name = if x = name then some j else t.locate name := by
  by_cases h : x = name <;> simp [Table.locate, h]

/-- In a table of increasing indices, the location of a name is the least index that carries
it. -/
theorem locate_eq_some_iff {t : Table String} (hs : (t.map Prod.fst).Pairwise (· < ·))
    (name : String) (i : Nat) :
    t.locate name = some i ↔ (i, name) ∈ t ∧ ∀ j, (j, name) ∈ t → i ≤ j := by
  induction t with
  | nil => simp [Table.locate]
  | cons e t ih =>
    obtain ⟨j, x⟩ := e
    simp only [List.map_cons, List.pairwise_cons, List.mem_map] at hs
    -- every index of the rest lies above `j`
    have habove : ∀ k y, (k, y) ∈ t → j < k := fun k y hk => hs.1 k ⟨(k, y), hk, rfl⟩
    rw [Table.locate_cons]
    by_cases hx : x = name
    · subst hx
      simp only [if_true, Option.some.injEq, List.mem_cons, Prod.mk.injEq, and_true]
      constructor
      · rintro rfl
        exact ⟨.inl rfl, fun k hk => hk.elim (fun h => h.ge) fun h => (habove k x h).le⟩
      · rintro ⟨hi, hle⟩
        have hji := hle j (.inl rfl)
        rcases hi with rfl | hi
        · rfl
        · exact absurd hji (not_le.2 (habove i x hi))
    · have hx' : ¬name = x := fun h => hx h.symm
      simp only [hx, hx', if_false, List.mem_cons, Prod.mk.injEq, and_false, false_or]
      exact ih hs.2

end Lookup

/-! ### Programs of read shaders -/

/-- A program that the kind checks accept holds the three shaders, with tables of zero. -/
theorem make_ok {vs fs lk : Shader} {p : Program} (h : Program.make vs fs lk = .ok p) :
    p = { vs, fs, linker := lk } ∧ vs.kind = .vertex ∧ fs.kind = .fragment ∧ lk.kind = .linker := by
  unfold Program.make at h
  split at h
  · cases h
  · split at h
    · cases h
    · split at h
      · cases h
      · cases h
        exact ⟨rfl, by simp_all⟩

/-- Linking a program of shaders that keep their tables stores every constant inside the
tables, which then hold each constant at its index and zero elsewhere. -/
theorem link_vsConstants {p : Program} (hk : p.vs.kind = .vertex) (hr : p.vs.Respects) :
    (∀ e ∈ p.vs.constants, e.1 < p.link.vsConstants.size) ∧
      ∀ i < vertexConstants, p.link.vsConstants[i]? = some ((p.vs.constants.get? i).getD 0) := by
  have hc := hr.constants
  rw [hk] at hc
  refine ⟨fun e he => ?_, fun i hi => fillTable_getElem? hc.nodup hi⟩
  rw [Program.link, size_fillTable]
  exact hc.lt rfl he

theorem link_fsConstants {p : Program} (hk : p.fs.kind = .fragment) (hr : p.fs.Respects) :
    (∀ e ∈ p.fs.constants, e.1 < p.link.fsConstants.size) ∧
      ∀ i < fragmentConstants, p.link.fsConstants[i]? = some ((p.fs.constants.get? i).getD 0) := by
  have hc := hr.constants
  rw [hk] at hc
  refine ⟨fun e he => ?_, fun i hi => fillTable_getElem? hc.nodup hi⟩
  rw [Program.link, size_fillTable]
  exact hc.lt rfl he

/-- Linking again changes nothing: linking reads only the shaders. -/
theorem link_link (p : Program) : p.link.link = p.link := rfl

/-! ### The engine calls of the shader bench -/

section Bench

open Exec Raster Buffer

theorem Table.mem_of_locate {t : Table String} {name : String} {i : Nat}
    (h : t.locate name = some i) : (i, name) ∈ t := by
  obtain ⟨e, he, rfl⟩ := Option.map_eq_some_iff.1 h
  have hname : e.2 = name := by simpa using List.find?_some he
  rw [← hname]
  exact List.mem_of_find?_eq_some he

/-- A location found in a table that fits a part lies below the part's limit. -/
theorem Table.Fits.locate_lt {kind : Kind} {p : Part} {t : Table String} {n : Nat}
    (h : Table.Fits kind p t) (hn : p.limit kind = some n) {name : String} {i : Nat}
    (hl : t.locate name = some i) : i < n :=
  h.lt hn (Table.mem_of_locate hl)

/-- Giving back a reference never fails. -/
theorem release_total (v : View) {P : Machine → Prop} :
    Triple P v.release (fun _ _ => True) (fun _ => False) := by
  intro m _
  rcases Buffer.run_release v m with ⟨-, h⟩ | ⟨_, -, -, h⟩ | ⟨_, _, -, -, h⟩ <;> simp only [h]

/-- Giving an attribute slot a buffer of four floats per vertex never fails. -/
theorem setPointer_total (e : Engine) {loc : Nat} (hloc : loc < attribSlots) (v : View)
    {P : Machine → Prop} : Triple P (e.setPointer loc 4 v) (fun _ _ => True) (fun _ => False) := by
  have hslot : Engine.attribSlot loc = .ok loc := by simp [Engine.attribSlot, hloc]
  unfold Engine.setPointer
  dsimp only
  rw [hslot]
  -- the checks pass: the slot exists and four floats per vertex are allowed
  split
  · next err heq => simp [bind, Except.bind, pure, Except.pure] at heq
  · split
    · exact Triple.bind (release_total _) fun _ => Triple.pure _ fun _ _ => trivial
    · exact Triple.pure _ fun _ _ => trivial

theorem setAttribEnabled_ok (e : Engine) {loc : Nat} (hloc : loc < attribSlots) (on : Bool) :
    e.setAttribEnabled loc on = .ok { e with enabled := e.enabled.set! loc on } := by
  simp [Engine.setAttribEnabled, Engine.attribSlot, hloc, bind, Except.bind, pure, Except.pure]

theorem size_storeUniform {file file' : Array Binary32.Single} {table : Location}
    {loc start : Nat} {values : List Binary32.Single}
    (h : Engine.storeUniform file table loc start values = .ok file') : file'.size = file.size := by
  unfold Engine.storeUniform at h
  split at h
  · cases h
  · cases h
    -- each store keeps the size, so the whole fold does
    suffices hs : ∀ (g : Array Binary32.Single → Binary32.Single × Nat → Array Binary32.Single),
        (∀ f x, (g f x).size = f.size) →
        ∀ (l : List (Binary32.Single × Nat)) (f : Array Binary32.Single),
          (l.foldl g f).size = f.size from
      hs _ (fun f x => by cases x; exact Array.size_set! ..) _ _
    intro g hg l
    induction l with
    | nil => intro f; rfl
    | cons x l ih => intro f; rw [List.foldl_cons, ih, hg]

/-- Four values stored at a vertex uniform location below the file's size in vectors. -/
theorem setVertexUniform_ok (e : Engine) (he : e.vsUniforms.size = vertexUniformFloats)
    {loc : Nat} (hloc : loc < vertexUniformFloats / 4) (a b c d : Binary32.Single) :
    ∃ e', e.setVertexUniform loc [a, b, c, d] = .ok e' ∧
      e'.vsUniforms.size = vertexUniformFloats ∧ e'.fsUniforms = e.fsUniforms := by
  unfold Engine.setVertexUniform
  cases hs : Engine.storeUniform e.vsUniforms .vertexUniform loc (loc * 4) [a, b, c, d] with
  | error err =>
    unfold Engine.storeUniform at hs
    rw [if_neg (by simp only [he, List.length_cons, List.length_nil, vertexUniformFloats] at hloc ⊢; omega)] at hs
    cases hs
  | ok f => exact ⟨_, rfl, (size_storeUniform hs).trans he, rfl⟩

/-- One value stored at a fragment uniform location below the file's size. -/
theorem setFragmentUniform_ok (e : Engine) (he : e.fsUniforms.size = fragmentUniformFloats)
    {loc : Nat} (hloc : loc < fragmentUniformFloats) (v : Binary32.Single) :
    ∃ e', e.setFragmentUniform loc [v] = .ok e' ∧
      e'.fsUniforms.size = fragmentUniformFloats ∧ e'.vsUniforms = e.vsUniforms := by
  unfold Engine.setFragmentUniform
  cases hs : Engine.storeUniform e.fsUniforms .fragmentUniform loc loc [v] with
  | error err =>
    unfold Engine.storeUniform at hs
    rw [if_neg (by simp only [he, List.length_cons, List.length_nil]; omega)] at hs
    cases hs
  | ok f => exact ⟨_, rfl, (size_storeUniform hs).trans he, rfl⟩

/-- The uniform files of an engine have their sizes. -/
def UniformsSized (e : Engine) : Prop :=
  e.vsUniforms.size = vertexUniformFloats ∧ e.fsUniforms.size = fragmentUniformFloats

/-- An engine whose uniform files are those of reset has them at their sizes, whatever program,
raster state, attribute buffers and render targets it holds: so has the engine a bench run
draws with. -/
theorem uniformsSized_reset (program : Option Program) (state : Raster.State)
    (pointers : Array (Option Raster.Pointer)) (enabled : Array Bool)
    (targets : Array (Option Raster.Target)) :
    UniformsSized { program, state, pointers, enabled, targets } :=
  ⟨Array.size_replicate, Array.size_replicate⟩

/-- Setting the test's uniforms by name with a program of shaders that keep their tables never
fails: every location found lies inside the engine's uniform files. -/
theorem applyUniforms_ok (t : Bench.Test) {p : Program} (hvk : p.vs.kind = .vertex)
    (hv : p.vs.Respects) (hfk : p.fs.kind = .fragment) (hf : p.fs.Respects) {e : Engine}
    (he : UniformsSized e) :
    Triple (fun _ => True) (Bench.applyUniforms t p e) (fun e' _ => UniformsSized e')
      (fun _ => False) := by
  have hvu := hv.uniforms
  have hfu := hf.uniforms
  rw [hvk] at hvu
  rw [hfk] at hfu
  unfold Bench.applyUniforms
  simp only [← Array.foldlM_toList]
  -- both loops keep the sizes of the files, and no location found lies outside them
  refine Triple.bind (R := fun e' _ => UniformsSized e')
    ((Triple.foldlM_list (I := fun e' _ => UniformsSized e') _ _ fun e' u => ?_).mono
      (fun _ _ => he) (fun _ _ h => h) fun _ h => h) fun e' => ?_
  · split
    · next loc hloc =>
      refine Triple.of_forall fun _ hs => ?_
      obtain ⟨e'', hset, hsz, hfs⟩ := setVertexUniform_ok e' hs.1 (hvu.locate_lt rfl hloc)
        u.values.1 u.values.2.1 u.values.2.2.1 u.values.2.2.2
      simp only [hset, Act.ofExcept]
      exact Triple.pure _ fun _ _ => ⟨hsz, by rw [hfs]; exact hs.2⟩
    · exact Triple.bind (Triple.modify fun _ h => h) fun _ => Triple.pure _ fun _ h => h
  · exact Triple.foldlM_list (I := fun e' _ => UniformsSized e') _ _ fun e' u => by
      split
      · next loc hloc =>
        refine Triple.of_forall fun _ hs => ?_
        obtain ⟨e'', hset, hsz, hvs⟩ :=
          setFragmentUniform_ok e' hs.2 (hfu.locate_lt rfl hloc) u.value
        simp only [hset, Act.ofExcept]
        exact Triple.pure _ fun _ _ => ⟨by rw [hvs]; exact hs.1, hsz⟩
      · exact Triple.bind (Triple.modify fun _ h => h) fun _ => Triple.pure _ fun _ h => h

end Bench

/-! ### Programs of read shaders -/

section Programs

open Exec Raster Buffer

/-- What the users of a program's tables rely on: the indices of each table lie below the size
of the table that consumes them, linking stores every constant inside the constant tables and
fills them exactly, linking twice is linking once, a name's location is the least index that
carries it, and the engine calls that the shader bench makes with the locations are never
refused. -/
structure Program.Agrees (p : Program) : Prop where
  /-- Attribute and export indices are attribute slots. -/
  attributes : ∀ e ∈ p.vs.attributes ++ p.vs.exports, e.1 < attribSlots
  /-- Vertex uniform locations are vectors of the vertex uniform file. -/
  vsUniforms : ∀ e ∈ p.vs.uniforms, e.1 < vertexUniformFloats / 4
  /-- Fragment uniform locations are floats of the fragment uniform file. -/
  fsUniforms : ∀ e ∈ p.fs.uniforms, e.1 < fragmentUniformFloats
  /-- Vertex constants fit the vertex constant table. -/
  vsConstants : ∀ e ∈ p.vs.constants, e.1 < vertexConstants
  /-- Fragment constants fit the fragment constant table. -/
  fsConstants : ∀ e ∈ p.fs.constants, e.1 < fragmentConstants
  /-- A fragment shader has no attributes and no exports. -/
  fragmentTables : p.fs.attributes = [] ∧ p.fs.exports = []
  /-- A linker shader holds words only. -/
  linkerWords : p.linker.attributes = [] ∧ p.linker.exports = [] ∧ p.linker.uniforms = [] ∧
    p.linker.constants = []
  /-- Every name is nonempty and free of quotes. -/
  names : ∀ s ∈ [p.vs, p.fs, p.linker], ∀ e ∈ s.attributes ++ s.exports ++ s.uniforms, NameOk e.2
  /-- Linking writes every constant inside the tables. -/
  linkInBounds : (∀ e ∈ p.vs.constants, e.1 < p.link.vsConstants.size) ∧
    ∀ e ∈ p.fs.constants, e.1 < p.link.fsConstants.size
  /-- The vertex constant table after linking. -/
  linkVertex : ∀ i < vertexConstants, p.link.vsConstants[i]? = some ((p.vs.constants.get? i).getD 0)
  /-- The fragment constant table after linking. -/
  linkFragment : ∀ i < fragmentConstants,
    p.link.fsConstants[i]? = some ((p.fs.constants.get? i).getD 0)
  /-- Linking twice is linking once. -/
  linkTwice : p.link.link = p.link
  /-- An attribute's location is the least index carrying its name. -/
  attributeLocation : ∀ name i, p.attributeLocation name = some i ↔
    (i, name) ∈ p.vs.attributes ∧ ∀ j, (j, name) ∈ p.vs.attributes → i ≤ j
  /-- A vertex uniform's location is the least index carrying its name. -/
  vertexUniformLocation : ∀ name i, p.vertexUniformLocation name = some i ↔
    (i, name) ∈ p.vs.uniforms ∧ ∀ j, (j, name) ∈ p.vs.uniforms → i ≤ j
  /-- A fragment uniform's location is the least index carrying its name. -/
  fragmentUniformLocation : ∀ name i, p.fragmentUniformLocation name = some i ↔
    (i, name) ∈ p.fs.uniforms ∧ ∀ j, (j, name) ∈ p.fs.uniforms → i ≤ j
  /-- Giving an attribute's location a buffer of four floats and enabling it are never refused. -/
  attributeCalls : ∀ name loc, p.attributeLocation name = some loc → ∀ (e : Engine) (v : View),
    Triple (fun _ => True) (e.setPointer loc 4 v) (fun _ _ => True) (fun _ => False) ∧
      e.setAttribEnabled loc true = .ok { e with enabled := e.enabled.set! loc true }
  /-- Setting a test's uniforms through the linked program is never refused. -/
  uniformCalls : ∀ (t : Bench.Test) (e : Engine), UniformsSized e →
    Triple (fun _ => True) (Bench.applyUniforms t p.link e) (fun e' _ => UniformsSized e')
      (fun _ => False)

/-- Shaders read from sources and combined into a program: everything that uses the program's
tables may rely on the reader's checks. -/
theorem program_of_parsed_agrees {pv tv pf tf pl tl : String} {vs fs lk : Shader} {p : Program}
    (hvs : parse .vertex pv tv = .ok vs) (hfs : parse .fragment pf tf = .ok fs)
    (hlk : parse .linker pl tl = .ok lk) (hp : Program.make vs fs lk = .ok p) : p.Agrees := by
  obtain ⟨rfl, -, -, -⟩ := make_ok hp
  obtain ⟨hvk, hv⟩ := parse_respects hvs
  obtain ⟨hfk, hf⟩ := parse_respects hfs
  obtain ⟨hlkk, hl⟩ := parse_respects hlk
  -- the tables of each shader, at its kind
  have hva := hv.attributes
  have hve := hv.exports
  have hvu := hv.uniforms
  have hvc := hv.constants
  have hfa := hf.attributes
  have hfe := hf.exports
  have hfu := hf.uniforms
  have hfc := hf.constants
  rw [hvk] at hva hve hvu hvc
  rw [hfk] at hfa hfe hfu hfc
  have hla := hl.attributes
  have hle := hl.exports
  have hlu := hl.uniforms
  have hlc := hl.constants
  rw [hlkk] at hla hle hlu hlc
  refine
    { attributes := fun e he => ?_
      vsUniforms := fun e he => hvu.lt rfl he
      fsUniforms := fun e he => hfu.lt rfl he
      vsConstants := fun e he => hvc.lt rfl he
      fsConstants := fun e he => hfc.lt rfl he
      fragmentTables := ⟨hfa.eq_nil rfl, hfe.eq_nil rfl⟩
      linkerWords := ⟨hla.eq_nil rfl, hle.eq_nil rfl, hlu.eq_nil rfl, hlc.eq_nil rfl⟩
      names := fun s hs => ?_
      linkInBounds := ⟨(link_vsConstants hvk hv).1, (link_fsConstants hfk hf).1⟩
      linkVertex := (link_vsConstants hvk hv).2
      linkFragment := (link_fsConstants hfk hf).2
      linkTwice := link_link _
      attributeLocation := locate_eq_some_iff hva.sorted
      vertexUniformLocation := locate_eq_some_iff hvu.sorted
      fragmentUniformLocation := locate_eq_some_iff hfu.sorted
      attributeCalls := fun name loc hloc e v =>
        ⟨setPointer_total e (hva.locate_lt rfl hloc) v,
          setAttribEnabled_ok e (hva.locate_lt rfl hloc) true⟩
      uniformCalls := fun t e he => applyUniforms_ok t hvk hv hfk hf he }
  · rcases List.mem_append.1 he with he | he
    · exact hva.lt rfl he
    · exact hve.lt rfl he
  · simp only [List.mem_cons, List.not_mem_nil, or_false] at hs
    rcases hs with rfl | rfl | rfl
    · exact hv.names
    · exact hf.names
    · exact hl.names

/-- Three small sources, the program they make, and what it agrees to. -/
theorem program_of_parsed_agrees_sample :
    parse .vertex "vs.asm"
        ".attributes\n[0] = \"position\";\n.uniforms\n[2] = \"scale\";\n.constants\n[3] = 0x3F800000;\n.asm\n0x1\n" =
      .ok { kind := .vertex, words := #[1], attributes := [(0, "position")],
            uniforms := [(2, "scale")], constants := [(3, 0x3F800000)] } ∧
    parse .fragment "fs.asm" ".uniforms\n[5] = \"tint\"; // red\n.asm\n0x2\n" =
      .ok { kind := .fragment, words := #[2], uniforms := [(5, "tint")] } ∧
    parse .linker "linker.asm" ".asm\n0x3\n" = .ok { kind := .linker, words := #[3] } ∧
    Program.make
        { kind := .vertex, words := #[1], attributes := [(0, "position")],
          uniforms := [(2, "scale")], constants := [(3, 0x3F800000)] }
        { kind := .fragment, words := #[2], uniforms := [(5, "tint")] }
        { kind := .linker, words := #[3] } =
      .ok { vs := { kind := .vertex, words := #[1], attributes := [(0, "position")],
                    uniforms := [(2, "scale")], constants := [(3, 0x3F800000)] },
            fs := { kind := .fragment, words := #[2], uniforms := [(5, "tint")] },
            linker := { kind := .linker, words := #[3] } } ∧
    Program.Agrees
      { vs := { kind := .vertex, words := #[1], attributes := [(0, "position")],
                uniforms := [(2, "scale")], constants := [(3, 0x3F800000)] },
        fs := { kind := .fragment, words := #[2], uniforms := [(5, "tint")] },
        linker := { kind := .linker, words := #[3] } } :=
  by
    refine ⟨?hvs, ?hfs, ?hlk, ?hp, program_of_parsed_agrees ?hvs ?hfs ?hlk ?hp⟩
    all_goals rfl

end Programs

end TegraGpu.Shader
