import Mathlib
import TegraGpu.Bench.Arguments
import TegraGpu.Proofs.ShaderSource
/-!
# The syntax of uniform arguments

A shader test takes its uniforms as arguments `["name"] = value`.  This module says which texts
the two readers accept without following their steps: trimmed, the argument is the name in
brackets and quotes, blanks, `=`, blanks and the value, the name nonempty and free of quotes.  A
vertex uniform's value is four numbers in parentheses separated by commas, blanks allowed
around each number; a fragment uniform's value is one number.  Every other text is refused, and
the refusal quotes the argument.

* `splitUniform?_eq_some_iff`, `splitUniform?_solid_iff` : the name and the value text of an
  argument.
* `VertexUniform.Written`, `FragmentUniform.Written` : the two syntaxes.
* `uniform_arguments_exact` : each reader accepts exactly its syntax and gives back the uniform
  that the text writes.
-/

namespace TegraGpu.Bench

open Text Binary32 Shader

/-! ### Trimmed texts -/

/-- The last character of a trimmed text is no blank. -/
theorem getLast?_trim {cs : List Char} {d : Char} (h : (trim cs).getLast? = some d) :
    isBlank d = false := by
  unfold trim trimEnd at h
  rw [List.getLast?_reverse] at h
  have hnot := List.head?_dropWhile_not isBlank (trimStart cs).reverse
  rw [h] at hnot
  exact hnot

/-- What follows a part of a trimmed text is that rest trimmed, after some blanks. -/
theorem eq_blanks_append_trim {cs : List Char} (pre rest : List Char) (h : trim cs = pre ++ rest) :
    ∃ ws, (∀ c ∈ ws, isBlank c = true) ∧ rest = ws ++ trim rest := by
  obtain ⟨ws, post, hrest, hws, hpost⟩ := exists_blank_trim rest
  -- blanks after the trimmed rest would end the trimmed text
  obtain rfl | ⟨post', d, rfl⟩ := List.eq_nil_or_concat' post
  · exact ⟨ws, hws, by simpa using hrest⟩
  · have hlast : (trim cs).getLast? = some d := by
      rw [h, hrest]
      simp
    have hd := hpost d (by simp)
    rw [getLast?_trim hlast] at hd
    cases hd

/-- Blanks before a text whose ends are no blanks go with trimming. -/
theorem trim_blanks_append {ws cs : List Char} (hws : ∀ c ∈ ws, isBlank c = true)
    (h : Solid cs) : trim (ws ++ cs) = cs := by
  obtain ⟨⟨c, hc, hcb⟩, d, hd, hdb⟩ := h
  unfold trim
  rw [trimStart_blank_append hws, trimStart_of_head hc hcb, trimEnd_of_getLast hd hdb]

theorem trimStart_eq_cons {cs rest : List Char} {c : Char} (h : trimStart cs = c :: rest) :
    ∃ ws, (∀ x ∈ ws, isBlank x = true) ∧ cs = ws ++ c :: rest := by
  refine ⟨cs.takeWhile isBlank, fun x hx => List.mem_takeWhile_imp hx, ?_⟩
  rw [← h]
  exact List.takeWhile_append_dropWhile.symm

/-- A number text holds no blank. -/
theorem solid_of_readBits? {cs : List Char} {w : UInt32} (h : readBits? cs = some w) :
    Solid cs := by
  have hne : cs ≠ [] := by
    rintro rfl
    cases h
  exact solid_of_forall hne fun c hc => literalChar_isBlank (readBits?_chars h c hc)

/-- A number text, even with blanks around it, holds no comma. -/
theorem comma_not_mem_of_readBits? {cs : List Char} {w : UInt32} (h : readBits? (trim cs) = some w) :
    ',' ∉ cs := by
  intro hmem
  obtain ⟨a, b, hcs, ha, hb⟩ := exists_blank_trim cs
  rw [hcs] at hmem
  simp only [List.mem_append] at hmem
  rcases hmem with (hmem | hmem) | hmem
  · exact absurd (ha _ hmem) (by decide)
  · rcases readBits?_chars h _ hmem with hal | hc | hc | hc
    · exact absurd hal (by decide)
    all_goals exact absurd hc (by decide)
  · exact absurd (hb _ hmem) (by decide)

/-! ### The name and the value -/

theorem splitPair_append {a b : Char} {xs : List Char} (h : a ∉ xs) (ys : List Char) :
    splitPair a b (xs ++ a :: b :: ys) = some (xs, ys) := by
  induction xs with
  | nil => simp [splitPair]
  | cons x xs ih =>
    have hx : x ≠ a := fun hx => h (hx ▸ List.mem_cons_self)
    have ih' := ih fun h' => h (List.mem_cons_of_mem _ h')
    rw [List.cons_append]
    unfold splitPair
    split
    · next d after hd =>
      rw [if_neg (fun hab => hx hab.1), ih']
      rfl
    · next hd => simp at hd

theorem eq_of_splitPair {a b : Char} {cs xs ys : List Char} (h : splitPair a b cs = some (xs, ys)) :
    cs = xs ++ a :: b :: ys := by
  induction cs generalizing xs with
  | nil => cases h
  | cons c rest ih =>
    unfold splitPair at h
    split at h
    · next d after =>
      split at h
      · next hab =>
        cases h
        rw [hab.1, hab.2]
        rfl
      · obtain ⟨⟨x, y⟩, hxy, hout⟩ := Option.map_eq_some_iff.1 h
        cases hout
        rw [ih hxy, List.cons_append]
    · cases h

/-- An argument splits into a name and a value text exactly when, trimmed, it is the name in
brackets and quotes, blanks, `=` and a rest whose trimmed form is the value; the name must be
nonempty and free of quotes. -/
theorem splitUniform?_eq_some_iff {arg name : String} {value : List Char} :
    splitUniform? arg = some (name, value) ↔ NameOk name ∧ ∃ ws rest,
      (∀ c ∈ ws, isBlank c = true) ∧
      trim arg.toList = '[' :: '"' :: name.toList ++ '"' :: ']' :: ws ++ '=' :: rest ∧
      value = trim rest := by
  constructor
  · intro h
    unfold splitUniform? at h
    split at h
    · next rest0 htrim =>
      split at h
      · cases h
      · next nm after hpair =>
        split at h
        · next v hstart =>
          split at h
          · cases h
          · next hbad =>
            cases h
            simp only [Bool.or_eq_true, List.isEmpty_iff, List.contains_iff_mem, not_or] at hbad
            obtain ⟨ws, hws, rfl⟩ := trimStart_eq_cons hstart
            refine ⟨⟨fun he => hbad.1 ?_, by simpa using hbad.2⟩, ws, v, hws, ?_, rfl⟩
            · simpa using congrArg String.toList he
            · rw [htrim, eq_of_splitPair hpair]
              simp
        · cases h
    · cases h
  · rintro ⟨⟨hne, hq⟩, ws, rest, hws, htrim, rfl⟩
    simp only [List.append_assoc, List.cons_append] at htrim
    unfold splitUniform?
    rw [htrim]
    simp only [splitPair_append hq, trimStart_blank_append hws,
      trimStart_cons (show isBlank '=' = false by decide)]
    simp [hne, hq]

/-! ### The two syntaxes -/

/-- `arg` writes the vertex uniform `u`: trimmed, it is `["name"]`, blanks, `=`, blanks and four
texts in parentheses separated by commas, each of which, trimmed, reads as the value at its
place. -/
def VertexUniform.Written (u : VertexUniform) (arg : String) : Prop :=
  NameOk u.name ∧ ∃ ws ws' x₁ x₂ x₃ x₄ : List Char,
    (∀ c ∈ ws ++ ws', isBlank c = true) ∧
    trim arg.toList = '[' :: '"' :: u.name.toList ++ '"' :: ']' :: ws ++ '=' :: ws' ++
      '(' :: x₁ ++ ',' :: x₂ ++ ',' :: x₃ ++ ',' :: x₄ ++ [')'] ∧
    readBits? (trim x₁) = some u.values.1.bits ∧ readBits? (trim x₂) = some u.values.2.1.bits ∧
    readBits? (trim x₃) = some u.values.2.2.1.bits ∧
    readBits? (trim x₄) = some u.values.2.2.2.bits

/-- `arg` writes the fragment uniform `u`: trimmed, it is `["name"]`, blanks, `=`, blanks and a
number text that reads as the value. -/
def FragmentUniform.Written (u : FragmentUniform) (arg : String) : Prop :=
  NameOk u.name ∧ ∃ ws ws' x : List Char,
    (∀ c ∈ ws ++ ws', isBlank c = true) ∧
    trim arg.toList = '[' :: '"' :: u.name.toList ++ '"' :: ']' :: ws ++ '=' :: ws' ++ x ∧
    readBits? x = some u.value.bits

/-- Four texts without commas, joined by commas, split back at them. -/
theorem splitCommas_four {x₁ x₂ x₃ x₄ : List Char} (h : ∀ x ∈ [x₁, x₂, x₃, x₄], ',' ∉ x) :
    splitCommas (x₁ ++ ',' :: x₂ ++ ',' :: x₃ ++ ',' :: x₄) = [x₁, x₂, x₃, x₄] := by
  have hjoin : x₁ ++ ',' :: x₂ ++ ',' :: x₃ ++ ',' :: x₄ = [','].intercalate [x₁, x₂, x₃, x₄] := by
    simp [List.intercalate]
  rw [splitCommas, hjoin, List.splitOn_intercalate ',' h (by simp)]

/-- A text that splits into four parts at its commas is the four parts joined by commas. -/
theorem eq_of_splitCommas {body x₁ x₂ x₃ x₄ : List Char}
    (h : splitCommas body = [x₁, x₂, x₃, x₄]) : body = x₁ ++ ',' :: x₂ ++ ',' :: x₃ ++ ',' :: x₄ := by
  have hjoin : [','].intercalate (body.splitOn ',') = body := List.intercalate_splitOn ','
  rw [← splitCommas, h] at hjoin
  rw [← hjoin]
  simp [List.intercalate]

/-- The value of a vertex uniform: four numbers in parentheses, read in order. -/
theorem parseVertexUniform_eq_ok_iff {arg : String} {u : VertexUniform} :
    parseVertexUniform arg = .ok u ↔ ∃ value, splitUniform? arg = some (u.name, value) ∧
      ∃ x₁ x₂ x₃ x₄, value = '(' :: x₁ ++ ',' :: x₂ ++ ',' :: x₃ ++ ',' :: x₄ ++ [')'] ∧
        readBits? (trim x₁) = some u.values.1.bits ∧
        readBits? (trim x₂) = some u.values.2.1.bits ∧
        readBits? (trim x₃) = some u.values.2.2.1.bits ∧
        readBits? (trim x₄) = some u.values.2.2.2.bits := by
  constructor
  · intro h
    unfold parseVertexUniform at h
    split at h
    · cases h
    · next name value hsplit =>
      split at h
      · next inner =>
        split at h
        · cases h
        · next hlast =>
          dsimp only at h
          split at h
          · next a b c d hparts =>
            cases h
            have hinner : inner = inner.dropLast ++ [')'] :=
              (List.dropLast_append_getLast? _ (not_not.1 hlast)).symm
            generalize hys : splitCommas inner.dropLast = ys at hparts
            -- four parts, each a number
            rcases ys with _ | ⟨y₁, _ | ⟨y₂, _ | ⟨y₃, _ | ⟨y₄, _ | ⟨y₅, ys⟩⟩⟩⟩⟩ <;>
              simp only [List.map_cons, List.map_nil, List.cons.injEq, reduceCtorEq,
                and_false] at hparts
            obtain ⟨h₁, h₂, h₃, h₄, -⟩ := hparts
            refine ⟨_, hsplit, y₁, y₂, y₃, y₄, ?_, h₁, h₂, h₃, h₄⟩
            rw [hinner, eq_of_splitCommas hys]
            simp
          · cases h
      · cases h
  · rintro ⟨value, hsplit, x₁, x₂, x₃, x₄, rfl, h₁, h₂, h₃, h₄⟩
    have hcommas : ∀ x ∈ [x₁, x₂, x₃, x₄], ',' ∉ x := by
      simp only [List.mem_cons, List.not_mem_nil, or_false]
      rintro x (rfl | rfl | rfl | rfl)
      exacts [comma_not_mem_of_readBits? h₁, comma_not_mem_of_readBits? h₂,
        comma_not_mem_of_readBits? h₃, comma_not_mem_of_readBits? h₄]
    have hvalue : '(' :: x₁ ++ ',' :: x₂ ++ ',' :: x₃ ++ ',' :: x₄ ++ [')'] =
        '(' :: ((x₁ ++ ',' :: x₂ ++ ',' :: x₃ ++ ',' :: x₄) ++ [')']) := by
      simp
    unfold parseVertexUniform
    rw [hsplit, hvalue]
    simp only [List.getLast?_concat, ne_eq, not_true_eq_false, if_false, List.dropLast_concat,
      splitCommas_four hcommas, List.map_cons, List.map_nil, h₁, h₂, h₃, h₄]

theorem parseVertexUniform_error {arg : String} {e : Error}
    (h : parseVertexUniform arg = .error e) : e = .argument (.badArgument arg) := by
  unfold parseVertexUniform at h
  split at h
  · cases h
    rfl
  · split at h
    · split at h
      · cases h
        rfl
      · dsimp only at h
        split at h
        · cases h
        · cases h
          rfl
    · cases h
      rfl

theorem parseFragmentUniform_eq_ok_iff {arg : String} {u : FragmentUniform} :
    parseFragmentUniform arg = .ok u ↔ ∃ value, splitUniform? arg = some (u.name, value) ∧
      readBits? value = some u.value.bits := by
  constructor
  · intro h
    unfold parseFragmentUniform at h
    split at h
    · cases h
    · next name value hsplit =>
      split at h
      · next v hv =>
        cases h
        exact ⟨value, hsplit, hv⟩
      · cases h
  · rintro ⟨value, hsplit, hv⟩
    unfold parseFragmentUniform
    rw [hsplit]
    simp only [hv]

theorem parseFragmentUniform_error {arg : String} {e : Error}
    (h : parseFragmentUniform arg = .error e) : e = .argument (.badArgument arg) := by
  unfold parseFragmentUniform at h
  split at h
  · cases h
    rfl
  · split at h
    · cases h
    · cases h
      rfl

/-- For a value without blanks at its ends: an argument splits into a name and that value exactly
when, trimmed, it is the name in brackets and quotes, blanks, `=`, blanks and the value. -/
theorem splitUniform?_solid_iff {arg name : String} {value : List Char} (hv : Solid value) :
    splitUniform? arg = some (name, value) ↔ NameOk name ∧ ∃ ws ws',
      (∀ c ∈ ws ++ ws', isBlank c = true) ∧
      trim arg.toList = '[' :: '"' :: name.toList ++ '"' :: ']' :: ws ++ '=' :: ws' ++ value := by
  rw [splitUniform?_eq_some_iff]
  constructor
  · rintro ⟨hname, ws, rest, hws, htrim, hvalue⟩
    -- the rest after `=` is blanks and then the value: nothing follows the trimmed argument
    obtain ⟨ws', hws', hrest⟩ := eq_blanks_append_trim
      ('[' :: '"' :: name.toList ++ '"' :: ']' :: ws ++ ['=']) rest (by rw [htrim]; simp)
    refine ⟨hname, ws, ws', ?_, ?_⟩
    · simp only [List.mem_append]
      rintro c (hc | hc)
      exacts [hws c hc, hws' c hc]
    · rw [htrim, hrest, ← hvalue]
      simp
  · rintro ⟨hname, ws, ws', hblank, htrim⟩
    simp only [List.mem_append] at hblank
    refine ⟨hname, ws, ws' ++ value, fun c hc => hblank c (.inl hc), by rw [htrim]; simp, ?_⟩
    rw [trim_blanks_append (fun c hc => hblank c (.inr hc)) hv]

theorem vertexUniform_written_iff {arg : String} {u : VertexUniform} :
    u.Written arg ↔ ∃ value, splitUniform? arg = some (u.name, value) ∧
      ∃ x₁ x₂ x₃ x₄, value = '(' :: x₁ ++ ',' :: x₂ ++ ',' :: x₃ ++ ',' :: x₄ ++ [')'] ∧
        readBits? (trim x₁) = some u.values.1.bits ∧
        readBits? (trim x₂) = some u.values.2.1.bits ∧
        readBits? (trim x₃) = some u.values.2.2.1.bits ∧
        readBits? (trim x₄) = some u.values.2.2.2.bits := by
  -- a value in parentheses has no blank at either end
  have hsolid : ∀ x₁ x₂ x₃ x₄ : List Char,
      Solid ('(' :: x₁ ++ ',' :: x₂ ++ ',' :: x₃ ++ ',' :: x₄ ++ [')']) := fun _ _ _ _ =>
    ⟨⟨'(', by simp, by decide⟩, ')', by rw [List.getLast?_concat], by decide⟩
  constructor
  · rintro ⟨hname, ws, ws', x₁, x₂, x₃, x₄, hblank, htrim, h₁, h₂, h₃, h₄⟩
    refine ⟨_, (splitUniform?_solid_iff (hsolid x₁ x₂ x₃ x₄)).2 ⟨hname, ws, ws', hblank, ?_⟩,
      x₁, x₂, x₃, x₄, rfl, h₁, h₂, h₃, h₄⟩
    rw [htrim]
    simp
  · rintro ⟨value, hsplit, x₁, x₂, x₃, x₄, rfl, h₁, h₂, h₃, h₄⟩
    obtain ⟨hname, ws, ws', hblank, htrim⟩ := (splitUniform?_solid_iff (hsolid x₁ x₂ x₃ x₄)).1 hsplit
    refine ⟨hname, ws, ws', x₁, x₂, x₃, x₄, hblank, ?_, h₁, h₂, h₃, h₄⟩
    rw [htrim]
    simp

theorem fragmentUniform_written_iff {arg : String} {u : FragmentUniform} :
    u.Written arg ↔ ∃ value, splitUniform? arg = some (u.name, value) ∧
      readBits? value = some u.value.bits := by
  constructor
  · rintro ⟨hname, ws, ws', x, hblank, htrim, hx⟩
    exact ⟨x, (splitUniform?_solid_iff (solid_of_readBits? hx)).2 ⟨hname, ws, ws', hblank, htrim⟩,
      hx⟩
  · rintro ⟨value, hsplit, hv⟩
    obtain ⟨hname, ws, ws', hblank, htrim⟩ :=
      (splitUniform?_solid_iff (solid_of_readBits? hv)).1 hsplit
    exact ⟨hname, ws, ws', value, hblank, htrim, hv⟩

/-- The uniform readers accept exactly their syntax: a vertex uniform argument succeeds iff,
trimmed, it is `["name"]`, `=` and four numbers in parentheses separated by commas, a fragment
uniform argument iff it is `["name"]`, `=` and one number, blanks allowed around `=` and around
each number of a vertex uniform, the name nonempty and free of quotes; each gives back the
name and the numbers in order.  Every other argument is refused as malformed, with the
argument in the message. -/
theorem uniform_arguments_exact (arg : String) :
    (∀ u, parseVertexUniform arg = .ok u ↔ u.Written arg) ∧
      (∀ e, parseVertexUniform arg = .error e → e = .argument (.badArgument arg)) ∧
    (∀ u, parseFragmentUniform arg = .ok u ↔ u.Written arg) ∧
      (∀ e, parseFragmentUniform arg = .error e → e = .argument (.badArgument arg)) :=
  ⟨fun _ => parseVertexUniform_eq_ok_iff.trans vertexUniform_written_iff.symm,
    fun _ => parseVertexUniform_error,
    fun _ => parseFragmentUniform_eq_ok_iff.trans fragmentUniform_written_iff.symm,
    fun _ => parseFragmentUniform_error⟩

/-- Blanks around `=`, the parentheses and each number. -/
example : parseVertexUniform "[\"a\"] = ( 1, 2, 3, 4 )" =
    .ok ⟨"a", (⟨0x3F800000⟩, ⟨0x40000000⟩, ⟨0x40400000⟩, ⟨0x40800000⟩)⟩ := by
  rfl

end TegraGpu.Bench
