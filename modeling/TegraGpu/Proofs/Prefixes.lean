import Mathlib
import TegraGpu.Proofs.ShaderSource
/-!
# Reading stops at the first bad line

Reading a shader source is a left fold of `step` over its numbered lines that stops at the first
error.  So the first lines of a source are read the same way whatever follows them, and the
reading of a source is decided line by line (`parse_first_bad_line`):

* a source that reads gives a shader that extends the shader of each of its first lines: those
  read too, their words come first among the words and their tables are contained in the
  tables (`parse_firstLines_extends`);
* a source that fails fails at one line: all lines before it read, and the lines up to it fail
  with the same error.  The error names that line, or it is an index out of range, and then the
  line is an entry of that index in the part that the last header before it opened
  (`parse_error_at`);
* an index given twice in one table is reported exactly at its second entry, also when the two
  entries stand under different headers of the same part (`parse_duplicate_of_defines`, and
  `parse_error_at` for the converse).

The first `k` lines of a text are the text up to and with its `k`-th line feed (`takeLines`);
their lines are the text's first `k` lines (`linesOf_takeLines`).

* `foldlM_eq_error`, `foldlM_take_ok` : folds in `Except` that stop at the first error.
* `readLines` : the reading of the first lines; `Shader.Extends`, what one line adds
  (`step_extends`, `step_indices`), and how one line fails (`step_error`).
* `lastHeader`, `EntryOf`, `Defines` : what a line is, said without the reader.
-/

namespace TegraGpu.Text

/-! ### The first lines of a text -/

/-- The first `k` lines of a text with their line ends: the text up to and with its `k`-th line
feed, or all of it when it has fewer. -/
def takeLines : Nat → List Char → List Char
  | 0, _ => []
  | _ + 1, [] => []
  | k + 1, c :: cs => c :: takeLines (if c = '\n' then k else k + 1) cs

@[simp] theorem takeLines_zero (cs : List Char) : takeLines 0 cs = [] := by
  cases cs <;> rfl

/-- A text either has no line feed or is a first line, a line feed and the rest. -/
theorem eq_line_append_or (cs : List Char) :
    '\n' ∉ cs ∨ ∃ l rest, '\n' ∉ l ∧ cs = l ++ '\n' :: rest := by
  induction cs with
  | nil => exact .inl List.not_mem_nil
  | cons c cs ih =>
    by_cases hc : c = '\n'
    · exact .inr ⟨[], cs, List.not_mem_nil, by rw [hc]; rfl⟩
    · rcases ih with h | ⟨l, rest, hl, rfl⟩
      · exact .inl (by simp [h, Ne.symm hc])
      · exact .inr ⟨c :: l, rest, by simp [Ne.symm hc, hl], rfl⟩

theorem takeLines_of_no_newline {cs : List Char} (h : '\n' ∉ cs) (k : Nat) :
    takeLines (k + 1) cs = cs := by
  induction cs with
  | nil => rfl
  | cons c cs ih =>
    have hc : c ≠ '\n' := fun hc => h (hc ▸ List.mem_cons_self)
    rw [takeLines, if_neg hc, ih fun h' => h (List.mem_cons_of_mem _ h')]

theorem takeLines_line {l : List Char} (hl : '\n' ∉ l) (k : Nat) (rest : List Char) :
    takeLines (k + 1) (l ++ '\n' :: rest) = l ++ '\n' :: takeLines k rest := by
  induction l with
  | nil => simp [takeLines]
  | cons c l ih =>
    have hc : c ≠ '\n' := fun hc => hl (hc ▸ List.mem_cons_self)
    rw [List.cons_append, takeLines, if_neg hc, ih fun h' => hl (List.mem_cons_of_mem _ h'),
      List.cons_append]

/-- The last piece of a text is never ended by a line feed. -/
theorem pieces_eq_concat (cs : List Char) : ∃ ps p, pieces cs = ps ++ [(p, false)] := by
  induction cs with
  | nil => exact ⟨[], [], rfl⟩
  | cons c cs ih =>
    obtain ⟨ps, p, hps⟩ := ih
    by_cases hc : c = '\n'
    · exact ⟨([], true) :: ps, p, by rw [pieces, if_pos hc, hps]; rfl⟩
    · rw [pieces, if_neg hc, hps]
      rcases ps with _ | ⟨q, ps⟩
      · exact ⟨[], c :: p, rfl⟩
      · exact ⟨(c :: q.1, q.2) :: ps, p, rfl⟩

theorem linesOf_line {l : List Char} (hl : '\n' ∉ l) (rest : List Char) :
    linesOf (l ++ '\n' :: rest) = chopReturn (l, true) :: linesOf rest := by
  obtain ⟨ps, p, hps⟩ := pieces_eq_concat rest
  have h := pieces_line hl rest
  rw [hps, ← List.cons_append] at h
  rw [linesOf_eq h, linesOf_eq hps]
  split <;> simp

theorem length_linesOf_le {cs : List Char} (h : '\n' ∉ cs) : (linesOf cs).length ≤ 1 := by
  have hp : pieces cs = [] ++ [(cs, false)] := pieces_of_no_newline h
  rw [linesOf_eq hp]
  split <;> simp

/-- The lines of the first `k` lines of a text are its first `k` lines. -/
theorem linesOf_takeLines (k : Nat) (cs : List Char) :
    linesOf (takeLines k cs) = (linesOf cs).take k := by
  induction k generalizing cs with
  | zero => simp [linesOf_nil]
  | succ k ih =>
    rcases eq_line_append_or cs with hcs | ⟨l, rest, hl, rfl⟩
    · -- a text without a line feed has one line at most
      rw [takeLines_of_no_newline hcs, List.take_of_length_le]
      exact (length_linesOf_le hcs).trans (Nat.le_add_left 1 k)
    · rw [takeLines_line hl, linesOf_line hl, linesOf_line hl, ih, List.take_succ_cons]

end TegraGpu.Text

namespace TegraGpu.Shader

open Text

/-! ### Folds that stop at the first error -/

section Fold

variable {ε β δ : Type} {f : β → δ → Except ε β} {xs : List δ} {b c : β} {e : ε}

/-- A fold that succeeds succeeds on every prefix, and the rest continues from there. -/
theorem foldlM_take_ok (h : xs.foldlM f b = .ok c) (k : Nat) :
    ∃ c', (xs.take k).foldlM f b = .ok c' ∧ (xs.drop k).foldlM f c' = .ok c := by
  rw [← List.take_append_drop k xs, List.foldlM_append] at h
  cases hk : (xs.take k).foldlM f b with
  | error e' =>
    rw [hk] at h
    cases h
  | ok c' =>
    rw [hk] at h
    exact ⟨c', rfl, h⟩

/-- A fold whose prefix fails fails with the same error. -/
theorem foldlM_of_take_error {k : Nat} (h : (xs.take k).foldlM f b = .error e) :
    xs.foldlM f b = .error e := by
  rw [← List.take_append_drop k xs, List.foldlM_append, h]
  rfl

/-- A fold that fails fails at one element: the elements before it fold, and the element fails
on what they give. -/
theorem foldlM_eq_error (h : xs.foldlM f b = .error e) :
    ∃ k x c, xs[k]? = some x ∧ (xs.take k).foldlM f b = .ok c ∧ f c x = .error e := by
  induction xs generalizing b with
  | nil => cases h
  | cons x xs ih =>
    rw [List.foldlM_cons] at h
    cases hx : f b x with
    | error e' =>
      rw [hx] at h
      cases h
      exact ⟨0, x, b, rfl, rfl, hx⟩
    | ok c =>
      rw [hx] at h
      obtain ⟨k, y, d, hy, hk, hd⟩ := ih h
      refine ⟨k + 1, y, d, hy, ?_, hd⟩
      rw [List.take_succ_cons, List.foldlM_cons, hx]
      exact hk

/-- One element more: the fold goes on with it. -/
theorem foldlM_take_succ {k : Nat} {x : δ} (hx : xs[k]? = some x) :
    (xs.take (k + 1)).foldlM f b = (xs.take k).foldlM f b >>= fun c => f c x := by
  rw [List.take_add_one, hx, List.foldlM_append]
  simp

end Fold

theorem except_bind_eq_ok {ε α β : Type} {x : Except ε α} {g : α → Except ε β} {b : β}
    (h : x >>= g = .ok b) : ∃ a, x = .ok a ∧ g a = .ok b := by
  cases x with
  | error e => cases h
  | ok a => exact ⟨a, rfl, h⟩

/-! ### The first lines of a source -/

/-- The first `k` lines of a source, with their line ends. -/
def firstLines (k : Nat) (source : String) : String :=
  String.ofList (takeLines k source.toList)

theorem numberedLines_firstLines (k : Nat) (source : String) :
    numberedLines (firstLines k source) = (numberedLines source).take k := by
  simp [numberedLines, firstLines, linesOf_takeLines, List.zip_eq_zipWith, List.take_zipWith,
    ← List.map_take]

theorem getElem?_numberedLines (source : String) (k : Nat) :
    (numberedLines source)[k]? = (linesOf source.toList)[k]?.map fun raw => (k + 1, raw) := by
  simp only [numberedLines, List.zip_eq_zipWith, List.getElem?_zipWith', List.getElem?_map]
  cases h : (linesOf source.toList)[k]? with
  | none => simp
  | some raw =>
    have hk : k < (linesOf source.toList).length := (List.getElem?_eq_some_iff.1 h).1
    simp [hk]

/-- Line `L` of a source, counted from one. -/
theorem mem_numberedLines {source : String} {L : Nat} {raw : List Char} :
    (L, raw) ∈ numberedLines source ↔ 0 < L ∧ (linesOf source.toList)[L - 1]? = some raw := by
  constructor
  · intro h
    obtain ⟨k, hk⟩ := List.getElem?_of_mem h
    rw [getElem?_numberedLines] at hk
    obtain ⟨raw', hraw, hpair⟩ := Option.map_eq_some_iff.1 hk
    obtain ⟨rfl, rfl⟩ := Prod.mk.inj hpair
    exact ⟨Nat.succ_pos k, hraw⟩
  · rintro ⟨hL, hraw⟩
    have hk := getElem?_numberedLines source (L - 1)
    rw [hraw, Option.map_some, Nat.sub_add_cancel hL] at hk
    exact List.mem_of_getElem? hk

theorem map_snd_numberedLines (source : String) :
    (numberedLines source).map Prod.snd = linesOf source.toList :=
  List.map_snd_zip (by simp)

/-- Where reading starts: an empty shader of the kind, and no part opened. -/
def Progress.init (kind : Kind) : Progress :=
  { shader := { kind }, part := none }

/-- The reading of the first `k` lines of a source. -/
def readLines (kind : Kind) (path source : String) (k : Nat) : Except ShaderError Progress :=
  ((numberedLines source).take k).foldlM (step path) (Progress.init kind)

theorem parse_eq_fold (kind : Kind) (path source : String) :
    parse kind path source =
      ((numberedLines source).foldlM (step path) (Progress.init kind)).map Progress.shader :=
  rfl

theorem parse_firstLines (kind : Kind) (path source : String) (k : Nat) :
    parse kind path (firstLines k source) = (readLines kind path source k).map Progress.shader := by
  rw [parse, numberedLines_firstLines]
  rfl

theorem parse_eq_readLines (kind : Kind) (path source : String) :
    parse kind path source =
      (readLines kind path source (numberedLines source).length).map Progress.shader := by
  rw [readLines, List.take_length]
  rfl

end TegraGpu.Shader

namespace TegraGpu.Shader

open Text

/-! ### Tables that grow -/

section Tables

variable {α : Type} {t t' t'' : Table α} {i j : Nat} {a x : α}

/-- `t` is contained in `t'`: every index of `t` has the same value in `t'`. -/
def Table.Sub (t t' : Table α) : Prop :=
  ∀ i a, t.get? i = some a → t'.get? i = some a

theorem Table.Sub.refl (t : Table α) : Table.Sub t t := fun _ _ h => h

theorem Table.Sub.trans (h : Table.Sub t t') (h' : Table.Sub t' t'') : Table.Sub t t'' :=
  fun i a hi => h' i a (h i a hi)

theorem Table.mem_keys_iff_get? : i ∈ t.map Prod.fst ↔ ∃ a, t.get? i = some a := by
  induction t with
  | nil => simp [Table.get?]
  | cons e t ih =>
    obtain ⟨k, y⟩ := e
    rw [Table.get?_cons]
    by_cases hk : k = i
    · simp [hk]
    · simp [hk, Ne.symm hk, ih]

theorem Table.Sub.mem_keys (h : Table.Sub t t') (hi : i ∈ t.map Prod.fst) :
    i ∈ t'.map Prod.fst := by
  obtain ⟨a, ha⟩ := Table.mem_keys_iff_get?.1 hi
  exact Table.mem_keys_iff_get?.2 ⟨a, h i a ha⟩

theorem Table.keys_insert? (h : t.insert? i a = some t') :
    j ∈ t'.map Prod.fst ↔ j = i ∨ j ∈ t.map Prod.fst := by
  have hp := ((Table.insert?_perm h).map Prod.fst).mem_iff (a := j)
  simpa using hp

/-- In a table with increasing indices, an entry is refused exactly when its index is taken. -/
theorem Table.insert?_eq_none_iff (hs : (t.map Prod.fst).Pairwise (· < ·)) :
    t.insert? i a = none ↔ i ∈ t.map Prod.fst := by
  constructor
  · intro h
    by_contra hi
    obtain ⟨t', ht'⟩ := Table.insert?_isSome (a := a) hi
    rw [h] at ht'
    cases ht'
  · intro hi
    induction t with
    | nil => cases hi
    | cons e rest ih =>
      obtain ⟨k, y⟩ := e
      simp only [List.map_cons, List.pairwise_cons, List.mem_map] at hs
      simp only [List.map_cons, List.mem_cons] at hi
      simp only [Table.insert?]
      rcases hi with rfl | hi
      · simp
      · -- the index lies past `k`, among the indices of the rest
        have hk : k < i := by
          obtain ⟨e, he, rfl⟩ := List.mem_map.1 hi
          exact hs.1 _ ⟨e, he, rfl⟩
        rw [if_neg (by omega), if_neg (by omega), ih hs.2 hi]
        rfl

/-- Adding an entry to a table with increasing indices keeps every entry. -/
theorem Table.sub_insert? (hs : (t.map Prod.fst).Pairwise (· < ·)) (h : t.insert? i a = some t') :
    Table.Sub t t' := by
  induction t generalizing t' with
  | nil =>
    intro j x hj
    cases hj
  | cons e rest ih =>
    obtain ⟨k, y⟩ := e
    simp only [List.map_cons, List.pairwise_cons, List.mem_map] at hs
    simp only [Table.insert?] at h
    split at h
    · next hik =>
      cases h
      intro j x hj
      rw [Table.get?_cons, if_neg]
      · exact hj
      · -- the new index is below every index of the table
        rintro rfl
        have hmem := Table.mem_keys_iff_get?.2 ⟨x, hj⟩
        simp only [List.map_cons, List.mem_cons] at hmem
        rcases hmem with hik' | hmem
        · omega
        · obtain ⟨e, he, hei⟩ := List.mem_map.1 hmem
          have := hs.1 _ ⟨e, he, hei⟩
          omega
    · split at h
      · cases h
      · obtain ⟨r, hr, rfl⟩ := Option.map_eq_some_iff.1 h
        intro j x hj
        rw [Table.get?_cons] at hj ⊢
        split
        · next hkj =>
          rw [if_pos hkj] at hj
          exact hj
        · next hkj =>
          rw [if_neg hkj] at hj
          exact ih hs.2 hr j x hj

end Tables

/-- The indices of the table of a part; the words part has none. -/
def indices (s : Shader) : Part → List Nat
  | .attributes => s.attributes.map Prod.fst
  | .exports => s.exports.map Prod.fst
  | .uniforms => s.uniforms.map Prod.fst
  | .constants => s.constants.map Prod.fst
  | .words => []

/-- `s'` extends `s`: the words of `s` come first among those of `s'`, and each table of `s` is
contained in the same table of `s'`. -/
structure Extends (s s' : Shader) : Prop where
  /-- The words of `s` come first. -/
  words : s.words.toList <+: s'.words.toList
  /-- The attribute names. -/
  attributes : Table.Sub s.attributes s'.attributes
  /-- The exported names. -/
  exports : Table.Sub s.exports s'.exports
  /-- The uniform names. -/
  uniforms : Table.Sub s.uniforms s'.uniforms
  /-- The constant words. -/
  constants : Table.Sub s.constants s'.constants

section Extends

variable {s s' s'' : Shader}

theorem Extends.refl (s : Shader) : s.Extends s :=
  ⟨List.prefix_refl _, .refl _, .refl _, .refl _, .refl _⟩

theorem Extends.trans (h : s.Extends s') (h' : s'.Extends s'') : s.Extends s'' :=
  ⟨h.words.trans h'.words, h.attributes.trans h'.attributes, h.exports.trans h'.exports,
    h.uniforms.trans h'.uniforms, h.constants.trans h'.constants⟩

theorem Extends.indices (h : s.Extends s') {p : Part} {j : Nat} (hj : j ∈ s.indices p) :
    j ∈ s'.indices p := by
  cases p with
  | attributes => exact h.attributes.mem_keys hj
  | exports => exact h.exports.mem_keys hj
  | uniforms => exact h.uniforms.mem_keys hj
  | constants => exact h.constants.mem_keys hj
  | words => cases hj

theorem extends_setNameTable {p : Part} {t : Table String}
    (h : Table.Sub (s.nameTable p) t) : s.Extends (s.setNameTable p t) := by
  cases p with
  | attributes => exact ⟨List.prefix_refl _, h, .refl _, .refl _, .refl _⟩
  | exports => exact ⟨List.prefix_refl _, .refl _, h, .refl _, .refl _⟩
  | uniforms | constants | words => exact ⟨List.prefix_refl _, .refl _, .refl _, h, .refl _⟩

theorem indices_named {p : Part} (hp : p.Named) : s.indices p = (s.nameTable p).map Prod.fst := by
  obtain ⟨hp1, hp2⟩ := hp
  cases p <;> simp_all [Shader.indices, Shader.nameTable]

theorem indices_setNameTable {p : Part} (hp : p.Named) (t : Table String) (q : Part) :
    (s.setNameTable p t).indices q = if q = p then t.map Prod.fst else s.indices q := by
  obtain ⟨hp1, hp2⟩ := hp
  cases p <;> cases q <;> simp_all [Shader.setNameTable, Shader.indices]

theorem indices_setConstants (t : Table UInt32) (q : Part) :
    ({ s with constants := t } : Shader).indices q =
      if q = .constants then t.map Prod.fst else s.indices q := by
  cases q <;> simp [Shader.indices]

end Extends

theorem Respects.sorted_nameTable {s : Shader} (hs : s.Respects) (p : Part) :
    ((s.nameTable p).map Prod.fst).Pairwise (· < ·) := by
  cases p with
  | attributes => exact hs.attributes.sorted
  | exports => exact hs.exports.sorted
  | uniforms | constants | words => exact hs.uniforms.sorted

/-! ### What one line does -/

/-- What a table part accepts as a value: a constant for the constants part, a quoted name for
the parts of names. -/
def Part.Accepts (p : Part) (v : List Char) : Prop :=
  (p = .constants ∧ (readConstant? v).isSome) ∨ (p.Named ∧ (readName? v).isSome)

theorem splitEntry_error {line : List Char} {f : Fault} (h : splitEntry line = .error f) (i : Nat) :
    f ≠ .duplicate i := by
  unfold splitEntry at h
  split at h
  · split at h
    · cases h
      simp
    · dsimp only at h
      split at h
      · cases h
        simp
      · split at h
        · cases h
        · cases h
          simp
  · cases h
    simp

section Lines

variable {path : String} {n : Nat} {s s' : Shader} {part : Part} {line : List Char}

/-- A words line adds words and keeps the tables. -/
theorem readWords_ok {tokens : List (List Char)} (h : readWords path n s tokens = .ok s') :
    s.Extends s' ∧ ∀ p, s'.indices p = s.indices p := by
  induction tokens generalizing s with
  | nil =>
    cases h
    exact ⟨.refl _, fun _ => rfl⟩
  | cons token rest ih =>
    unfold readWords at h
    split at h
    · exact ih h
    · split at h
      · cases h
      · next w _ =>
        obtain ⟨hext, hidx⟩ := ih h
        have hpush : s.Extends { s with words := s.words.push w } :=
          ⟨by simp, .refl _, .refl _, .refl _, .refl _⟩
        refine ⟨hpush.trans hext, fun p => (hidx p).trans ?_⟩
        cases p <;> rfl

/-- A words line fails only at a token that is no word. -/
theorem readWords_error {tokens : List (List Char)} {e : ShaderError}
    (h : readWords path n s tokens = .error e) : ∃ token, e = .malformed path n (.badWord token) := by
  induction tokens generalizing s with
  | nil => cases h
  | cons token rest ih =>
    unfold readWords at h
    split at h
    · exact ih h
    · split at h
      · cases h
        exact ⟨_, rfl⟩
      · exact ih h

/-- An entry line that reads adds its index to its part's table, and nothing else. -/
theorem readEntry_indices (hw : part ≠ .words) (h : readEntry path n s part line = .ok s') :
    ∃ i v, splitEntry line = .ok (i, v) ∧ i < (part.limit s.kind).getD 0 ∧ part.Accepts v ∧
      ∀ q j, j ∈ s'.indices q ↔ j ∈ s.indices q ∨ (q = part ∧ j = i) := by
  obtain ⟨i, v, hsplit, hlt, hc | ⟨hpart, name, hn, hst⟩⟩ := readEntry_ok h
  · obtain ⟨rfl, w, t, hw', ht, rfl⟩ := hc
    refine ⟨i, v, hsplit, hlt, .inl ⟨rfl, by simp [hw']⟩, fun q j => ?_⟩
    rw [Shader.indices_setConstants]
    split
    · next hq =>
      subst hq
      rw [Table.keys_insert? ht]
      simp [Shader.indices, or_comm]
    · next hq => simp [hq]
  · have hnamed : part.Named := ⟨hpart, hw⟩
    rw [storeName_eq] at hst
    obtain ⟨t, ht, rfl⟩ := Option.map_eq_some_iff.1 hst
    refine ⟨i, v, hsplit, hlt, .inr ⟨hnamed, by simp [hn]⟩, fun q j => ?_⟩
    rw [Shader.indices_setNameTable hnamed]
    split
    · next hq =>
      subst hq
      rw [Table.keys_insert? ht, Shader.indices_named hnamed]
      simp [or_comm]
    · next hq => simp [hq]

/-- An entry line that reads extends the shader. -/
theorem readEntry_extends (hs : s.Respects) (h : readEntry path n s part line = .ok s') :
    s.Extends s' := by
  obtain ⟨i, v, -, -, hc | ⟨-, name, -, hst⟩⟩ := readEntry_ok h
  · obtain ⟨-, w, t, -, ht, rfl⟩ := hc
    exact ⟨List.prefix_refl _, .refl _, .refl _, .refl _, Table.sub_insert? hs.constants.sorted ht⟩
  · rw [storeName_eq] at hst
    obtain ⟨t, ht, rfl⟩ := Option.map_eq_some_iff.1 hst
    exact Shader.extends_setNameTable (Table.sub_insert? (hs.sorted_nameTable part) ht)

/-- How an entry line fails: with a fault of its line, a second entry of an index of its part's
table being such a fault, or with its index out of the part's range. -/
theorem readEntry_error {e : ShaderError} (hs : s.Respects) (hw : part ≠ .words)
    (h : readEntry path n s part line = .error e) :
    (∃ f, e = .malformed path n f ∧ ∀ i, f = .duplicate i → ∃ v, splitEntry line = .ok (i, v) ∧
      i < (part.limit s.kind).getD 0 ∧ part.Accepts v ∧ i ∈ s.indices part) ∨
    ∃ i v, splitEntry line = .ok (i, v) ∧ (part.limit s.kind).getD 0 ≤ i ∧
      e = .indexOutOfRange part i ((part.limit s.kind).getD 0) := by
  unfold readEntry at h
  cases hsplit : splitEntry line with
  | error f =>
    simp only [hsplit, Except.mapError, bind, Except.bind] at h
    cases h
    exact .inl ⟨f, rfl, fun i hf => absurd hf (splitEntry_error hsplit i)⟩
  | ok r =>
    obtain ⟨i, v⟩ := r
    simp only [hsplit, Except.mapError, bind, Except.bind] at h
    split at h
    · next hle =>
      cases h
      exact .inr ⟨i, v, rfl, hle, rfl⟩
    · next hlt =>
      refine .inl ?_
      -- the value of a constant, or a name
      split at h
      · cases hc : readConstant? v with
        | none =>
          simp only [hc, throw, throwThe, MonadExceptOf.throw] at h
          cases h
          exact ⟨_, rfl, fun j hj => by cases hj⟩
        | some w =>
          simp only [hc, pure, Except.pure] at h
          cases hins : s.constants.insert? i w with
          | none =>
            simp only [hins, throw, throwThe, MonadExceptOf.throw] at h
            cases h
            refine ⟨_, rfl, fun j hj => ?_⟩
            cases hj
            exact ⟨v, rfl, by omega, .inl ⟨rfl, by simp [hc]⟩,
              (Table.insert?_eq_none_iff hs.constants.sorted).1 hins⟩
          | some t => simp [hins] at h
      · next hc =>
        have hnamed : part.Named := ⟨hc, hw⟩
        cases hn : readName? v with
        | none =>
          simp only [hn, throw, throwThe, MonadExceptOf.throw] at h
          cases h
          exact ⟨_, rfl, fun j hj => by cases hj⟩
        | some name =>
          simp only [hn, pure, Except.pure, storeName_eq] at h
          cases hins : (s.nameTable part).insert? i name with
          | none =>
            simp only [hins, Option.map_none, throw, throwThe, MonadExceptOf.throw] at h
            cases h
            refine ⟨_, rfl, fun j hj => ?_⟩
            cases hj
            refine ⟨v, rfl, by omega, .inr ⟨hnamed, by simp [hn]⟩, ?_⟩
            rw [Shader.indices_named hnamed]
            exact (Table.insert?_eq_none_iff (hs.sorted_nameTable part)).1 hins
          | some t => simp [hins] at h

/-- A second entry of an index of a part's table, with a value the part accepts, is refused as
a duplicate. -/
theorem readEntry_duplicate {i : Nat} {v : List Char} (hs : s.Respects)
    (hsplit : splitEntry line = .ok (i, v)) (hlt : i < (part.limit s.kind).getD 0)
    (hacc : part.Accepts v) (hi : i ∈ s.indices part) :
    readEntry path n s part line = .error (.malformed path n (.duplicate i)) := by
  unfold readEntry
  simp only [hsplit, Except.mapError, bind, Except.bind]
  rw [if_neg (by omega)]
  rcases hacc with ⟨rfl, hc⟩ | ⟨hnamed, hn⟩
  · obtain ⟨w, hw⟩ := Option.isSome_iff_exists.1 hc
    have hnone := (Table.insert?_eq_none_iff (a := w) hs.constants.sorted).2 hi
    simp [hw, hnone, pure, Except.pure, throw, throwThe, MonadExceptOf.throw]
  · obtain ⟨name, hname⟩ := Option.isSome_iff_exists.1 hn
    rw [Shader.indices_named hnamed] at hi
    have hnone := (Table.insert?_eq_none_iff (a := name) (hs.sorted_nameTable part)).2 hi
    obtain ⟨hp1, hp2⟩ := hnamed
    cases part with
    | constants => exact absurd rfl hp1
    | words => exact absurd rfl hp2
    | attributes | exports | uniforms =>
      simp [hname, storeName_eq, hnone, pure, Except.pure, throw, throwThe, MonadExceptOf.throw]

end Lines

/-! ### Lines said without the reader -/

/-- The part that a line opens when it is a header, `none` for every other line. -/
def headerOf? (raw : List Char) : Option Part :=
  Part.ofHeader? (trim (stripComment false raw))

/-- The part that the last header among some lines opens. -/
def lastHeader (lines : List (List Char)) : Option Part :=
  (lines.filterMap headerOf?).getLast?

/-- A line is an entry of index `i` that part `p` of a shader of kind `kind` accepts: the index
lies below the part's limit, and the part accepts the value. -/
def EntryOf (kind : Kind) (p : Part) (i : Nat) (raw : List Char) : Prop :=
  ∃ v, splitEntry (trim (stripComment false raw)) = .ok (i, v) ∧ i < (p.limit kind).getD 0 ∧
    p.Accepts v

theorem Part.eq_header_of_ofHeader? {line : List Char} {p : Part}
    (h : Part.ofHeader? line = some p) : line = p.header := by
  unfold Part.ofHeader? at h
  split_ifs at h with h1 h2 h3 h4 h5 <;> cases h
  exacts [h1, h2, h3, h4, h5]

theorem eq_bracket_of_splitEntry {line : List Char} {x : Nat × List Char}
    (h : splitEntry line = .ok x) : ∃ rest, line = '[' :: rest := by
  unfold splitEntry at h
  split at h
  · exact ⟨_, rfl⟩
  · cases h

theorem Part.Accepts.ne_words {p : Part} {v : List Char} (h : p.Accepts v) : p ≠ .words := by
  rcases h with ⟨rfl, -⟩ | ⟨⟨-, hw⟩, -⟩
  · decide
  · exact hw

theorem lastHeader_cons (raw : List Char) (lines : List (List Char)) :
    lastHeader (raw :: lines) = (lastHeader lines).or (headerOf? raw) := by
  unfold lastHeader
  rw [List.filterMap_cons]
  cases headerOf? raw with
  | none => simp
  | some p => cases h : (lines.filterMap headerOf?).getLast? <;> simp [List.getLast?_cons, h]

/-! ### One step of the reader -/

section Step

variable {path : String} {p p' : Progress} {n : Nat} {raw : List Char}

/-- The part open after a line: the one the line opens if it is a header, else the same. -/
theorem step_part (h : step path p (n, raw) = .ok p') : p'.part = (headerOf? raw).or p.part := by
  simp only [step] at h
  rw [headerOf?]
  generalize trim (stripComment false raw) = line at h ⊢
  split at h
  · cases h
    rfl
  · split at h
    · cases h
    · next q hq =>
      split at h
      · cases h
      · cases h
        rw [hq]
        rfl
  · next hnil hdot =>
    -- a line that does not start with a point opens nothing
    have hnone : Part.ofHeader? line = none := by
      cases hq : Part.ofHeader? line with
      | none => rfl
      | some q =>
        have hline := Part.eq_header_of_ofHeader? hq
        have hhead := Part.head?_header q
        rw [← hline] at hhead
        obtain ⟨rest, rfl⟩ := List.head?_eq_some_iff.1 hhead
        exact absurd rfl (hdot rest)
    rw [hnone]
    split at h
    · cases h
    · obtain ⟨s, -, rfl⟩ := except_map_eq_ok h
      rfl
    · obtain ⟨s, -, rfl⟩ := except_map_eq_ok h
      rfl

/-- A line that reads extends the shader. -/
theorem step_extends (hs : p.shader.Respects) (h : step path p (n, raw) = .ok p') :
    p.shader.Extends p'.shader := by
  simp only [step] at h
  generalize trim (stripComment false raw) = line at h
  split at h
  · cases h
    exact .refl _
  · split at h
    · cases h
    · split at h
      · cases h
      · cases h
        exact .refl _
  · split at h
    · cases h
    · obtain ⟨s, hs', rfl⟩ := except_map_eq_ok h
      exact (readWords_ok hs').1
    · obtain ⟨s, hs', rfl⟩ := except_map_eq_ok h
      exact readEntry_extends hs hs'

/-- Every index after a line was there before, or is the index of the line itself, an entry of
the open part. -/
theorem step_indices (h : step path p (n, raw) = .ok p') {q : Part} {j : Nat}
    (hj : j ∈ p'.shader.indices q) :
    j ∈ p.shader.indices q ∨ (p.part = some q ∧ EntryOf p.shader.kind q j raw) := by
  simp only [step] at h
  unfold EntryOf
  generalize trim (stripComment false raw) = line at h ⊢
  split at h
  · cases h
    exact .inl hj
  · split at h
    · cases h
    · split at h
      · cases h
      · cases h
        exact .inl hj
  · split at h
    · cases h
    · obtain ⟨s, hs', rfl⟩ := except_map_eq_ok h
      exact .inl ((readWords_ok hs').2 q ▸ hj)
    · next part hnw hpart =>
      obtain ⟨s, hs', rfl⟩ := except_map_eq_ok h
      obtain ⟨i, v, hsplit, hlt, hacc, hidx⟩ := readEntry_indices (fun h => hnw (h ▸ rfl)) hs'
      rcases (hidx q j).1 hj with hj | ⟨rfl, rfl⟩
      · exact .inl hj
      · exact .inr ⟨hpart, v, hsplit, hlt, hacc⟩

/-- An entry of the open part that reads puts its index into the part's table. -/
theorem step_entry_mem {q : Part} {i : Nat} (h : step path p (n, raw) = .ok p')
    (hq : p.part = some q) (he : EntryOf p.shader.kind q i raw) : i ∈ p'.shader.indices q := by
  obtain ⟨v, hsplit, -, hacc⟩ := he
  obtain ⟨rest, hrest⟩ := eq_bracket_of_splitEntry hsplit
  simp only [step] at h
  rw [hrest] at h hsplit
  -- an entry starts with a bracket: neither blank nor a header
  split at h
  · next heq => cases heq
  · next heq => simp at heq
  · split at h
    · next hnone =>
      rw [hq] at hnone
      cases hnone
    · next hw =>
      rw [hq] at hw
      cases hw
      exact absurd rfl hacc.ne_words
    · next part hnw hpart =>
      rw [hq] at hpart
      cases hpart
      obtain ⟨s, hs', rfl⟩ := except_map_eq_ok h
      obtain ⟨i', v', hsplit', -, -, hidx⟩ := readEntry_indices hacc.ne_words hs'
      rw [hsplit] at hsplit'
      cases hsplit'
      exact (hidx q i).2 (.inr ⟨rfl, rfl⟩)

/-- How a line fails: with a fault of the line, a second entry of an index of the open part's
table being such a fault; with a header of no part; or with an entry's index out of the open
part's range. -/
theorem step_error {e : ShaderError} (hs : p.shader.Respects)
    (h : step path p (n, raw) = .error e) :
    (∃ f, e = .malformed path n f ∧ ∀ i, f = .duplicate i →
      ∃ q, p.part = some q ∧ EntryOf p.shader.kind q i raw ∧ i ∈ p.shader.indices q) ∨
    (∃ header, e = .unknownSection header n) ∨
    ∃ q i v, p.part = some q ∧ splitEntry (trim (stripComment false raw)) = .ok (i, v) ∧
      (q.limit p.shader.kind).getD 0 ≤ i ∧
      e = .indexOutOfRange q i ((q.limit p.shader.kind).getD 0) := by
  simp only [step] at h
  unfold EntryOf
  generalize trim (stripComment false raw) = line at h ⊢
  split at h
  · cases h
  · split at h
    · cases h
      exact .inr (.inl ⟨_, rfl⟩)
    · split at h
      · cases h
        exact .inl ⟨_, rfl, fun i hi => by cases hi⟩
      · cases h
  · split at h
    · cases h
      exact .inl ⟨_, rfl, fun i hi => by cases hi⟩
    · cases hw : readWords path n p.shader (splitAt isWordSeparator line) with
      | error e' =>
        rw [hw] at h
        cases h
        obtain ⟨token, rfl⟩ := readWords_error hw
        exact .inl ⟨_, rfl, fun i hi => by cases hi⟩
      | ok s =>
        rw [hw] at h
        cases h
    · next part hnw hpart =>
      cases hr : readEntry path n p.shader part line with
      | error e' =>
        rw [hr] at h
        cases h
        rcases readEntry_error hs hnw hr with ⟨f, rfl, hdup⟩ | ⟨i, v, hsplit, hle, rfl⟩
        · refine .inl ⟨f, rfl, fun i hi => ?_⟩
          obtain ⟨v, hsplit, hlt, hacc, hidx⟩ := hdup i hi
          exact ⟨part, hpart, ⟨v, hsplit, hlt, hacc⟩, hidx⟩
        · exact .inr (.inr ⟨part, i, v, hpart, hsplit, hle, rfl⟩)
      | ok s =>
        rw [hr] at h
        cases h

/-- A second entry of an index of the open part's table, with a value the part accepts, is
refused as a duplicate at its line. -/
theorem step_duplicate {q : Part} {i : Nat} (hs : p.shader.Respects) (hq : p.part = some q)
    (he : EntryOf p.shader.kind q i raw) (hi : i ∈ p.shader.indices q) :
    step path p (n, raw) = .error (.malformed path n (.duplicate i)) := by
  obtain ⟨v, hsplit, hlt, hacc⟩ := he
  obtain ⟨rest, hrest⟩ := eq_bracket_of_splitEntry hsplit
  simp only [step]
  rw [hrest] at hsplit ⊢
  -- an entry starts with a bracket: neither blank nor a header
  split
  · next heq => cases heq
  · next heq => simp at heq
  · split
    · next hnone =>
      rw [hq] at hnone
      cases hnone
    · next hw =>
      rw [hq] at hw
      cases hw
      exact absurd rfl hacc.ne_words
    · next part hnw hpart =>
      rw [hq] at hpart
      cases hpart
      rw [readEntry_duplicate hs hsplit hlt hacc hi]
      rfl

end Step

/-! ### Runs of the reader -/

section Runs

variable {kind : Kind} {path source : String}

/-- A run extends the shader it starts from. -/
theorem foldlM_step_extends {ys : List (Nat × List Char)} {p q : Progress}
    (hs : p.shader.Respects) (h : ys.foldlM (step path) p = .ok q) : p.shader.Extends q.shader :=
  (foldlM_except_inv (fun r : Progress => p.shader.Extends r.shader ∧ r.shader.Respects)
    (fun _ _ _ hr hstep => ⟨hr.1.trans (step_extends hr.2 hstep), (step_respects hr.2 hstep).2⟩)
    ys p q ⟨.refl _, hs⟩ h).1

/-- The part open after a run: the one that the run's last header opens, or the one open
before. -/
theorem foldlM_step_part {ys : List (Nat × List Char)} {p q : Progress}
    (h : ys.foldlM (step path) p = .ok q) : q.part = (lastHeader (ys.map Prod.snd)).or p.part := by
  induction ys generalizing p with
  | nil =>
    cases h
    simp [lastHeader]
  | cons y ys ih =>
    obtain ⟨n, raw⟩ := y
    rw [List.foldlM_cons] at h
    obtain ⟨p₁, h₁, h₂⟩ := except_bind_eq_ok h
    rw [ih h₂, step_part h₁, List.map_cons, lastHeader_cons, Option.or_assoc]

theorem readLines_respects {k : Nat} {q : Progress} (h : readLines kind path source k = .ok q) :
    q.shader.kind = kind ∧ q.shader.Respects := by
  have hp : parse kind path (firstLines k source) = .ok q.shader := by
    rw [parse_firstLines, h]
    rfl
  exact parse_respects hp

/-- The part open after the first `k` lines: the one the last header among them opens. -/
theorem readLines_part {k : Nat} {q : Progress} (h : readLines kind path source k = .ok q) :
    q.part = lastHeader ((linesOf source.toList).take k) := by
  rw [foldlM_step_part h, List.map_take, map_snd_numberedLines]
  simp [Progress.init]

/-- Reading fewer lines of a source whose first `m` lines read gives a shader that the reading
of the `m` lines extends. -/
theorem readLines_le {m k : Nat} {c : Progress} (h : readLines kind path source m = .ok c)
    (hk : k ≤ m) : ∃ c', readLines kind path source k = .ok c' ∧ c'.shader.Extends c.shader := by
  obtain ⟨c', hc', hrest⟩ := foldlM_take_ok h k
  rw [List.take_take, Nat.min_eq_left hk] at hc'
  exact ⟨c', hc', foldlM_step_extends (readLines_respects hc').2 hrest⟩

theorem readLines_succ (kind : Kind) (path : String) {k : Nat} {x : Nat × List Char}
    (hx : (numberedLines source)[k]? = some x) :
    readLines kind path source (k + 1) = readLines kind path source k >>= fun c => step path c x :=
  foldlM_take_succ hx

theorem getElem?_numberedLines_of_mem {L : Nat} {raw : List Char}
    (h : (L, raw) ∈ numberedLines source) : (numberedLines source)[L - 1]? = some (L, raw) := by
  obtain ⟨hL, hraw⟩ := mem_numberedLines.1 h
  rw [getElem?_numberedLines, hraw, Option.map_some, Nat.sub_add_cancel hL]

/-- Line `L` of a source defines index `i` of part `p`: it is an entry of that index that the
part accepts, and the last header before it opened the part. -/
def Defines (kind : Kind) (source : String) (L : Nat) (p : Part) (i : Nat) : Prop :=
  ∃ raw, (L, raw) ∈ numberedLines source ∧
    lastHeader ((linesOf source.toList).take (L - 1)) = some p ∧ EntryOf kind p i raw

/-- Every index in a table read from the first lines of a source was defined by one of them. -/
theorem readLines_indices {k : Nat} {q : Progress} (h : readLines kind path source k = .ok q)
    {p : Part} {j : Nat} (hj : j ∈ q.shader.indices p) : ∃ L ≤ k, Defines kind source L p j := by
  induction k generalizing q with
  | zero =>
    have h0 : readLines kind path source 0 = .ok (Progress.init kind) := rfl
    rw [h0] at h
    cases h
    cases p <;> simp [Shader.indices, Progress.init] at hj
  | succ k ih =>
    cases hx : (numberedLines source)[k]? with
    | none =>
      -- past the last line nothing more is read
      have hsame : readLines kind path source (k + 1) = readLines kind path source k := by
        unfold readLines
        rw [List.take_add_one, hx]
        simp
      rw [hsame] at h
      obtain ⟨L, hL, hdef⟩ := ih h hj
      exact ⟨L, by omega, hdef⟩
    | some x =>
      rw [readLines_succ kind path hx] at h
      obtain ⟨c, hc, hstep⟩ := except_bind_eq_ok h
      obtain ⟨raw, hraw, rfl⟩ : ∃ raw, (linesOf source.toList)[k]? = some raw ∧ (k + 1, raw) = x := by
        rw [getElem?_numberedLines] at hx
        exact Option.map_eq_some_iff.1 hx
      rcases step_indices hstep hj with hj | ⟨hpart, hentry⟩
      · obtain ⟨L, hL, hdef⟩ := ih hc hj
        exact ⟨L, by omega, hdef⟩
      · refine ⟨k + 1, le_refl _, raw, mem_numberedLines.2 ⟨Nat.succ_pos k, hraw⟩, ?_, ?_⟩
        · rw [Nat.add_sub_cancel, ← readLines_part hc, hpart]
        · rw [← (readLines_respects hc).1]
          exact hentry

/-! ### Reading the first lines of a source -/

theorem parse_firstLines_of_ok {k : Nat} {c : Progress}
    (h : readLines kind path source k = .ok c) : parse kind path (firstLines k source) = .ok c.shader := by
  rw [parse_firstLines, h]
  rfl

/-- Reading a source first fails at its first `L` lines, with `e`: fewer lines read, and the
first `L` fail with `e`. -/
def FailsFirstAt (kind : Kind) (path source : String) (L : Nat) (e : ShaderError) : Prop :=
  (∀ k < L, ∃ s, parse kind path (firstLines k source) = .ok s) ∧
    parse kind path (firstLines L source) = .error e

/-- A source that reads extends the shader of each of its first lines, which read too. -/
theorem parse_firstLines_extends {s : Shader} (h : parse kind path source = .ok s) (k : Nat) :
    ∃ s', parse kind path (firstLines k source) = .ok s' ∧ s'.Extends s := by
  rw [parse_eq_readLines] at h
  obtain ⟨c, hc, rfl⟩ := except_map_eq_ok h
  by_cases hk : k ≤ (numberedLines source).length
  · obtain ⟨c', hc', hext⟩ := readLines_le hc hk
    exact ⟨c'.shader, parse_firstLines_of_ok hc', hext⟩
  · -- past the last line the first lines are the whole source
    have hall : readLines kind path source k =
        readLines kind path source (numberedLines source).length := by
      unfold readLines
      rw [List.take_of_length_le (by omega), List.take_length]
    exact ⟨c.shader, parse_firstLines_of_ok (hall.trans hc), .refl _⟩

/-- A source that fails fails at one line: the lines before it read, and the line fails on
what they give, with the source's error. -/
theorem parse_error_first {e : ShaderError} (h : parse kind path source = .error e) :
    ∃ L raw c, (L, raw) ∈ numberedLines source ∧ FailsFirstAt kind path source L e ∧
      readLines kind path source (L - 1) = .ok c ∧ step path c (L, raw) = .error e := by
  have hfold : (numberedLines source).foldlM (step path) (Progress.init kind) = .error e := by
    rw [parse_eq_fold] at h
    cases hr : (numberedLines source).foldlM (step path) (Progress.init kind) with
    | error e' =>
      rw [hr] at h
      cases h
      rfl
    | ok c =>
      rw [hr] at h
      cases h
  obtain ⟨k, x, c, hx, hc, hstep⟩ := foldlM_eq_error hfold
  obtain ⟨raw, hraw, rfl⟩ : ∃ raw, (linesOf source.toList)[k]? = some raw ∧ (k + 1, raw) = x := by
    rw [getElem?_numberedLines] at hx
    exact Option.map_eq_some_iff.1 hx
  refine ⟨k + 1, raw, c, mem_numberedLines.2 ⟨Nat.succ_pos k, hraw⟩, ⟨fun k' hk' => ?_, ?_⟩,
    hc, hstep⟩
  · obtain ⟨c', hc', -⟩ := readLines_le hc (show k' ≤ k by omega)
    exact ⟨_, parse_firstLines_of_ok hc'⟩
  · have hfirst : readLines kind path source (k + 1) = .error e := by
      rw [readLines_succ kind path hx, show readLines kind path source k = .ok c from hc]
      exact hstep
    rw [parse_firstLines, hfirst]
    rfl

/-- What the first bad line of a failing source is, said without the reader: a malformed line,
whose only duplicate index is one an earlier line of the same part defined; a header of no part;
or an entry whose index lies out of the range of the part that the last header before it
opened. -/
theorem parse_error_at {e : ShaderError} (h : parse kind path source = .error e) :
    ∃ L raw, (L, raw) ∈ numberedLines source ∧ FailsFirstAt kind path source L e ∧
      ((∃ f, e = .malformed path L f ∧ ∀ i, f = .duplicate i →
          ∃ q, lastHeader ((linesOf source.toList).take (L - 1)) = some q ∧
            EntryOf kind q i raw ∧ ∃ L' < L, Defines kind source L' q i) ∨
        (∃ header, e = .unknownSection header L) ∨
        ∃ q i v, lastHeader ((linesOf source.toList).take (L - 1)) = some q ∧
          splitEntry (trim (stripComment false raw)) = .ok (i, v) ∧ (q.limit kind).getD 0 ≤ i ∧
          e = .indexOutOfRange q i ((q.limit kind).getD 0)) := by
  obtain ⟨L, raw, c, hmem, hfirst, hc, hstep⟩ := parse_error_first h
  obtain ⟨hkind, hresp⟩ := readLines_respects hc
  have hpart := readLines_part hc
  have hL := (mem_numberedLines.1 hmem).1
  refine ⟨L, raw, hmem, hfirst, ?_⟩
  rcases step_error hresp hstep with ⟨f, rfl, hdup⟩ | hunknown | ⟨q, i, v, hq, hsplit, hle, rfl⟩
  · refine .inl ⟨f, rfl, fun i hi => ?_⟩
    -- the index was defined by one of the lines before
    obtain ⟨q, hq, hentry, hidx⟩ := hdup i hi
    obtain ⟨L', hL', hdef⟩ := readLines_indices hc hidx
    rw [hpart] at hq
    rw [hkind] at hentry
    exact ⟨q, hq, hentry, L', by omega, hdef⟩
  · exact .inr (.inl hunknown)
  · rw [hpart] at hq
    rw [hkind] at hle ⊢
    exact .inr (.inr ⟨q, i, v, hq, hsplit, hle, rfl⟩)

/-- An index of a part's table defined twice, the lines before the second definition reading,
is reported at the second definition. -/
theorem parse_duplicate_of_defines {L L' i : Nat} {p : Part} {s : Shader}
    (hok : parse kind path (firstLines (L - 1) source) = .ok s) (hlt : L' < L)
    (h₁ : Defines kind source L' p i) (h₂ : Defines kind source L p i) :
    parse kind path source = .error (.malformed path L (.duplicate i)) := by
  rw [parse_firstLines] at hok
  obtain ⟨c, hc, -⟩ := except_map_eq_ok hok
  obtain ⟨raw, hmem, hlast, hentry⟩ := h₂
  obtain ⟨raw', hmem', hlast', hentry'⟩ := h₁
  have hL := (mem_numberedLines.1 hmem).1
  have hL' := (mem_numberedLines.1 hmem').1
  -- the first definition put the index into the part's table, which the later lines keep
  obtain ⟨c₁, hc₁, -⟩ := readLines_le hc (show L' - 1 ≤ L - 1 by omega)
  obtain ⟨c₂, hc₂, hext⟩ := readLines_le hc (show L' ≤ L - 1 by omega)
  have hstep₁ : step path c₁ (L', raw') = .ok c₂ := by
    have hsucc := readLines_succ kind path (getElem?_numberedLines_of_mem hmem')
    rw [Nat.sub_add_cancel hL', hc₂, hc₁] at hsucc
    exact hsucc.symm
  have hin : i ∈ c₂.shader.indices p := by
    refine step_entry_mem hstep₁ ?_ ?_
    · rw [readLines_part hc₁]
      exact hlast'
    · rw [(readLines_respects hc₁).1]
      exact hentry'
  -- so the second definition fails, and with it the source
  have hfail : readLines kind path source L = .error (.malformed path L (.duplicate i)) := by
    have hsucc := readLines_succ kind path (getElem?_numberedLines_of_mem hmem)
    rw [Nat.sub_add_cancel hL, hc] at hsucc
    rw [hsucc]
    refine step_duplicate (readLines_respects hc).2 ?_ ?_ (hext.indices hin)
    · rw [readLines_part hc]
      exact hlast
    · rw [(readLines_respects hc).1]
      exact hentry
  rw [parse_eq_fold, foldlM_of_take_error hfail]
  rfl

/-- Reading a shader source stops at its first bad line, and its first lines read the same way
whatever follows them.

* A malformed line or a header of no part at line `L`: the first `L - 1` lines read, and the
  first `L` lines fail with the same error.
* An index out of range: the first lines fail first at an entry of that index, in the part that
  the last header before it opened.
* A source that reads: every number of first lines reads, into a shader whose words come first
  among the source's words and whose tables are contained in the source's tables.
* A duplicate index at line `L`: exactly when the first `L - 1` lines read and line `L` and an
  earlier line define that index in the same part, under one header or under two. -/
theorem parse_first_bad_line (kind : Kind) (path source : String) :
    (∀ path' L f, parse kind path source = .error (.malformed path' L f) →
      FailsFirstAt kind path source L (.malformed path' L f)) ∧
    (∀ header L, parse kind path source = .error (.unknownSection header L) →
      FailsFirstAt kind path source L (.unknownSection header L)) ∧
    (∀ part i limit, parse kind path source = .error (.indexOutOfRange part i limit) →
      ∃ L raw, (L, raw) ∈ numberedLines source ∧
        FailsFirstAt kind path source L (.indexOutOfRange part i limit) ∧
        lastHeader ((linesOf source.toList).take (L - 1)) = some part ∧
        ∃ v, splitEntry (trim (stripComment false raw)) = .ok (i, v) ∧
          limit = (part.limit kind).getD 0 ∧ limit ≤ i) ∧
    (∀ s, parse kind path source = .ok s →
      ∀ k, ∃ s', parse kind path (firstLines k source) = .ok s' ∧ s'.Extends s) ∧
    (∀ L i, parse kind path source = .error (.malformed path L (.duplicate i)) ↔
      (∃ s, parse kind path (firstLines (L - 1) source) = .ok s) ∧
        ∃ p L', L' < L ∧ Defines kind source L' p i ∧ Defines kind source L p i) := by
  refine ⟨fun path' L f h => ?_, fun header L h => ?_, fun part i limit h => ?_,
    fun s h => parse_firstLines_extends h, fun L i => ⟨fun h => ?_, fun h => ?_⟩⟩
  · obtain ⟨L₀, -, -, hfirst, ⟨f', he, -⟩ | ⟨_, he⟩ | ⟨_, _, _, -, -, -, he⟩⟩ := parse_error_at h <;>
      cases he
    exact hfirst
  · obtain ⟨L₀, -, -, hfirst, ⟨f', he, -⟩ | ⟨_, he⟩ | ⟨_, _, _, -, -, -, he⟩⟩ := parse_error_at h <;>
      cases he
    exact hfirst
  · obtain ⟨L, raw, hmem, hfirst, ⟨f', he, -⟩ | ⟨_, he⟩ | ⟨q, i', v, hq, hsplit, hle, he⟩⟩ :=
      parse_error_at h <;> cases he
    exact ⟨L, raw, hmem, hfirst, hq, v, hsplit, rfl, hle⟩
  · obtain ⟨L₀, raw, hmem, hfirst, ⟨f', he, hdup⟩ | ⟨_, he⟩ | ⟨_, _, _, -, -, -, he⟩⟩ :=
      parse_error_at h <;> cases he
    obtain ⟨q, hq, hentry, L', hL', hdef⟩ := hdup i rfl
    have hL := (mem_numberedLines.1 hmem).1
    exact ⟨hfirst.1 _ (by omega), q, L', hL', hdef, raw, hmem, hq, hentry⟩
  · obtain ⟨⟨s, hok⟩, p, L', hlt, h₁, h₂⟩ := h
    exact parse_duplicate_of_defines hok hlt h₁ h₂

/-- A uniform defined again after the part was opened a second time is reported at its line. -/
example : parse .vertex "p" ".uniforms\n[0] = \"a\";\n.asm\n.uniforms\n[0] = \"b\"\n" =
    .error (.malformed "p" 5 (.duplicate 0)) := by
  rfl

end Runs

end TegraGpu.Shader
