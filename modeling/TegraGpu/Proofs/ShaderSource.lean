import Mathlib
import TegraGpu.Proofs.Shader
import TegraGpu.Proofs.Text
/-!
# Reading gives back every rendering of a shader

A shader source is a list of lines.  A line is blank, or holds a header that opens a part, an
entry `[i] = value;` of a table part, or words of the `.asm` part; blanks may stand around its
tokens, and a comment may end it.  `Rendering s` is a source written for shader `s` in this way:
its headers only of parts that the kind allows, each entry and each line of words in the part
that the last header before it opened, the parts in any order and as often as wanted, and
between them the entries of each table, in any order, and the words in program order.

Main statement: reading any rendering of a shader that keeps the table of its kind gives the
shader back (`parse_rendering`).

The proof follows the reader, a fold of `step` over the lines:

* `Item.Line` : how an item may be written; `step_blank`, `step_header`, `step_name`,
  `step_constant`, `step_words` say what one step makes of such a line.
* `Placed` : the order of the items that the parts allow.
* `Reading` : what has been read so far, with the entries still to come, is the shader; each
  step keeps it (`Reading.blank`, ...), so the whole fold does (`foldlM_step_rendering`).
* The lines of the text are the lines written, up to the carriage returns the reader drops
  (`step_readAs`).
-/

namespace TegraGpu.Shader

open Text

/-! ### How lines are written -/

/-- The header line of a part. -/
def Part.header : Part → List Char
  | .attributes => ".attributes".toList
  | .exports => ".exports".toList
  | .uniforms => ".uniforms".toList
  | .constants => ".constants".toList
  | .words => ".asm".toList

theorem Part.ofHeader?_header (p : Part) : Part.ofHeader? p.header = some p := by
  cases p <;> rfl

theorem Part.header_quiet (p : Part) : Quiet p.header := by
  cases p <;> unfold Part.header <;> simp [Quiet]

theorem Part.header_solid (p : Part) : Solid p.header := by
  cases p <;> unfold Part.header <;> simp [Solid, isBlank]

theorem Part.head?_header (p : Part) : p.header.head? = some '.' := by
  cases p <;> rfl

/-- An entry `[i] = value;`, with blanks around its tokens and the index in decimal, perhaps
after zeros. -/
inductive Entry (i : Nat) (value : List Char) : List Char → Prop
  | mk {w₁ ds w₂ w₃ w₄ w₅ : List Char} : Spaces w₁ → Digits 10 i ds → Spaces w₂ → Spaces w₃ →
      Spaces w₄ → Spaces w₅ →
      Entry i value
        ('[' :: ((w₁ ++ ds ++ w₂) ++ ']' :: (w₃ ++ '=' :: (w₄ ++ value ++ w₅ ++ [';']))))

/-- The characters that separate words: blanks, commas and semicolons. -/
def Separators (cs : List Char) : Prop :=
  ∀ c ∈ cs, isWordSeparator c = true

theorem Separators.nil : Separators [] := fun _ h => absurd h List.not_mem_nil

/-- A word written as `0x` and its hexadecimal digits. -/
def Token (w : UInt32) (tok : List Char) : Prop :=
  ∃ ds, tok = '0' :: 'x' :: ds ∧ Digits 16 w.toNat ds

/-- The words of a line in program order, with separators before, between and after them. -/
inductive Words : List UInt32 → List Char → Prop
  | nil {cs : List Char} : Separators cs → Words [] cs
  | last {seps tok : List Char} {w : UInt32} : Separators seps → Token w tok →
      Words [w] (seps ++ tok)
  | cons {seps tok rest : List Char} {c : Char} {w : UInt32} {ws : List UInt32} :
      Separators seps → Token w tok → isWordSeparator c = true → Words ws rest →
      Words (w :: ws) (seps ++ tok ++ c :: rest)

/-- What a line of a source holds. -/
inductive Item where
  /-- Nothing but blanks and perhaps a comment. -/
  | blank
  /-- The header that opens a part. -/
  | header (p : Part)
  /-- A name at an index of the table of names of a part. -/
  | name (p : Part) (i : Nat) (n : String)
  /-- A constant word at an index. -/
  | constant (i : Nat) (w : UInt32)
  /-- Instruction words. -/
  | words (ws : List UInt32)

/-- How an item may be written as a line: blanks around its tokens and a comment at its end.
A constant is written in hexadecimal after `0x`, or as any other number text whose
single-precision bits are the word. -/
inductive Item.Line : Item → List Char → Prop
  | blank {pre com : List Char} : Spaces pre → Comment com → Item.Line .blank (pre ++ com)
  | header {p : Part} {pre post com : List Char} : Spaces pre → Spaces post → Comment com →
      Item.Line (.header p) (pre ++ p.header ++ post ++ com)
  | name {p : Part} {i : Nat} {n : String} {e pre post com : List Char} :
      Entry i ('"' :: n.toList ++ ['"']) e → Spaces pre → Spaces post → Comment com →
      Item.Line (.name p i n) (pre ++ e ++ post ++ com)
  | hex {i : Nat} {w : UInt32} {ds e pre post com : List Char} : Digits 16 w.toNat ds →
      Entry i ('0' :: 'x' :: ds) e → Spaces pre → Spaces post → Comment com →
      Item.Line (.constant i w) (pre ++ e ++ post ++ com)
  | literal {i : Nat} {w : UInt32} {lit e pre post com : List Char} : hasHexPrefix lit = false →
      Binary32.readBits? lit = some w → Entry i lit e → Spaces pre → Spaces post → Comment com →
      Item.Line (.constant i w) (pre ++ e ++ post ++ com)
  | words {ws : List UInt32} {cs com : List Char} : Words ws cs → Comment com →
      Item.Line (.words ws) (cs ++ com)

/-! ### Lines without their comments -/

/-- Text that the comment cutter passes whole, whatever follows it. -/
def Passes (x : List Char) : Prop :=
  ∀ rest, stripComment false (x ++ rest) = x ++ stripComment false rest

theorem Passes.append {a b : List Char} (ha : Passes a) (hb : Passes b) : Passes (a ++ b) := by
  intro rest
  rw [List.append_assoc, ha, hb, List.append_assoc]

theorem passes_quoted {n : List Char} (h : '"' ∉ n) : Passes ('"' :: n ++ ['"']) := by
  intro rest
  rw [List.append_assoc, List.singleton_append, stripComment_quoted h]
  simp

@[simp] theorem quiet_nil : Quiet [] :=
  fun _ h => absurd h List.not_mem_nil

@[simp] theorem quiet_append {a b : List Char} : Quiet (a ++ b) ↔ Quiet a ∧ Quiet b :=
  List.forall_mem_append

@[simp] theorem quiet_cons {c : Char} {a : List Char} :
    Quiet (c :: a) ↔ (c ≠ '"' ∧ c ≠ '#' ∧ c ≠ '/') ∧ Quiet a :=
  List.forall_mem_cons

theorem Quiet.passes {x : List Char} (h : Quiet x) : Passes x :=
  stripComment_quiet h false

theorem quiet_of_isBlank {c : Char} (hb : isBlank c = true) : c ≠ '"' ∧ c ≠ '#' ∧ c ≠ '/' := by
  refine ⟨?_, ?_, ?_⟩ <;> rintro rfl <;> exact absurd hb (by decide)

theorem Spaces.quiet {ws : List Char} (h : Spaces ws) : Quiet ws :=
  fun c hc => quiet_of_isBlank (h c hc).1

theorem quiet_of_isAlphanum {cs : List Char} (h : ∀ c ∈ cs, c.isAlphanum = true) : Quiet cs := by
  intro c hc
  have ha := h c hc
  refine ⟨?_, ?_, ?_⟩ <;> rintro rfl <;> exact absurd ha (by decide)

theorem Entry.decompose {i : Nat} {v e : List Char} (he : Entry i v e) :
    ∃ pre post, e = pre ++ v ++ post ∧ Quiet pre ∧ Quiet post ∧ Solid e := by
  obtain @⟨w₁, ds, w₂, w₃, w₄, w₅, hw₁, hds, hw₂, hw₃, hw₄, hw₅⟩ := he
  have hq : Quiet ds := quiet_of_isAlphanum (hds.isAlphanum (by norm_num) (by norm_num))
  refine ⟨'[' :: ((w₁ ++ ds ++ w₂) ++ ']' :: (w₃ ++ '=' :: w₄)), w₅ ++ [';'], by simp, ?_, ?_, ?_⟩
  · simp [Spaces.quiet hw₁, hq, Spaces.quiet hw₂, Spaces.quiet hw₃, Spaces.quiet hw₄]
  · simp [Spaces.quiet hw₅]
  · refine ⟨⟨'[', rfl, by decide⟩, ';', ?_, by decide⟩
    simp [List.getLast?_cons, List.getLast?_append]

theorem Entry.passes {i : Nat} {v e : List Char} (he : Entry i v e) (hv : Passes v) :
    Passes e := by
  obtain ⟨pre, post, rfl, hpre, hpost, -⟩ := he.decompose
  exact (hpre.passes.append hv).append hpost.passes

/-- A solid text that the comment cutter passes, between spaces and before a comment, is what
the reader sees of its line. -/
theorem trim_stripComment_framed {pre x post com : List Char} (hpre : Spaces pre)
    (hx : Passes x) (hs : Solid x) (hpost : Spaces post) (hcom : Comment com) :
    trim (stripComment false (pre ++ x ++ post ++ com)) = x := by
  rw [List.append_assoc, List.append_assoc, (Spaces.quiet hpre).passes, hx,
    (Spaces.quiet hpost).passes, hcom.stripComment_eq, List.append_nil, ← List.append_assoc]
  exact trim_solid hpre hpost hs

/-! ### One step of the reader -/

section Step

variable {path : String} {P : Progress} {k : Nat} {raw : List Char}

/-- A step depends only on what is left of its line without the comment and the blanks. -/
theorem step_congr {raw' : List Char}
    (h : trim (stripComment false raw) = trim (stripComment false raw')) :
    step path P (k, raw) = step path P (k, raw') := by
  simp only [step]
  rw [h]

theorem step_of_empty (h : trim (stripComment false raw) = []) : step path P (k, raw) = .ok P := by
  simp only [step]
  rw [h]

theorem step_of_header {p : Part} (h : trim (stripComment false raw) = p.header)
    (hp : (p.limit P.shader.kind).isSome = true) :
    step path P (k, raw) = .ok { P with part := some p } := by
  have hdot := Part.head?_header p
  simp only [step]
  rw [h]
  split
  · next he => rw [he] at hdot; cases hdot
  · rw [Part.ofHeader?_header]
    simpa using Option.isSome_iff_ne_none.1 hp
  · next hne hnd =>
    obtain ⟨c, rest, hcr⟩ := List.exists_cons_of_ne_nil hne
    rw [hcr] at hdot
    obtain rfl : c = '.' := Option.some.inj hdot
    exact absurd hcr (hnd rest)

/-- A line that is no header, read in a table part, is an entry of that part. -/
theorem step_of_entry {line : List Char} {part : Part} (h : trim (stripComment false raw) = line)
    (hne : line ≠ []) (hdot : line.head? ≠ some '.') (hpart : P.part = some part)
    (hw : part ≠ .words) :
    step path P (k, raw) = (readEntry path k P.shader part line).map
      fun s => { P with shader := s } := by
  simp only [step]
  rw [h]
  split
  · exact absurd rfl hne
  · exact absurd rfl hdot
  · rw [hpart]
    split
    · next he => cases he
    · next he => cases he; exact absurd rfl hw
    · next part' _ he => cases he; rfl

/-- A line that is no header, read in the words part, is a line of words. -/
theorem step_of_words {line : List Char} (h : trim (stripComment false raw) = line)
    (hne : line ≠ []) (hdot : line.head? ≠ some '.') (hpart : P.part = some .words) :
    step path P (k, raw) = (readWords path k P.shader (splitAt isWordSeparator line)).map
      fun s => { P with shader := s } := by
  simp only [step]
  rw [h]
  split
  · exact absurd rfl hne
  · exact absurd rfl hdot
  · rw [hpart]

end Step

/-! ### Entries -/

theorem Part.limit_lt {kind : Kind} {p : Part} {n : Nat} (h : p.limit kind = some n) :
    n < 2 ^ 32 := by
  cases p <;> cases kind <;> simp [Part.limit, vertexConstants, fragmentConstants] at h <;> omega

theorem Part.Fits.lt {kind : Kind} {p : Part} {i : Nat} (h : p.Fits kind i) : i < 2 ^ 32 := by
  obtain ⟨n, hn, hi⟩ := h
  exact hi.trans (Part.limit_lt hn)

/-- An entry splits into its index and its value. -/
theorem splitEntry_of_entry {i : Nat} {v e : List Char} (he : Entry i v e) (hi : i < 2 ^ 32)
    (hv : Solid v) : splitEntry e = .ok (i, v) := by
  obtain @⟨w₁, ds, w₂, w₃, w₄, w₅, hw₁, hds, hw₂, hw₃, hw₄, hw₅⟩ := he
  have hbr : ']' ∉ w₁ ++ ds ++ w₂ := by
    intro hmem
    simp only [List.mem_append] at hmem
    rcases hmem with (h | h) | h
    · exact absurd (hw₁ _ h).1 (by decide)
    · exact absurd (hds.isAlphanum (by norm_num) (by norm_num) _ h) (by decide)
    · exact absurd (hw₂ _ h).1 (by decide)
  have hidx : trim (w₁ ++ ds ++ w₂) = ds :=
    trim_solid hw₁ hw₂ (hds.solid (by norm_num) (by norm_num))
  have hword : readWord? 10 ds = some i.toUInt32 :=
    readWord?_of_digits (by norm_num) (by norm_num) hds hi
  have hafter : trimStart (w₃ ++ '=' :: (w₄ ++ v ++ w₅ ++ [';'])) =
      '=' :: (w₄ ++ v ++ w₅ ++ [';']) := by
    rw [trimStart_blank_append (fun c hc => (hw₃ c hc).1), trimStart_cons (by decide)]
  -- the value with what follows it up to the semicolon is solid: it starts with the value
  have hsolid : Solid (v ++ w₅ ++ [';']) := by
    obtain ⟨⟨c, hc, hcb⟩, -⟩ := hv
    refine ⟨⟨c, ?_, hcb⟩, ';', List.getLast?_concat, by decide⟩
    rw [List.append_assoc, List.head?_append, hc]
    rfl
  have hval : trim (w₄ ++ v ++ w₅ ++ [';']) = v ++ w₅ ++ [';'] := by
    simpa using trim_solid hw₄ Spaces.nil hsolid
  have hend : trimEnd (v ++ w₅) = v := by
    rw [trimEnd_append_blank (fun c hc => (hw₅ c hc).1)]
    obtain ⟨-, d, hd, hdb⟩ := hv
    exact trimEnd_of_getLast hd hdb
  unfold splitEntry
  -- the line starts with `[`, so only the entry branch is left
  split
  · next rest hrest =>
    obtain rfl := (List.cons.inj hrest).2
    rw [splitOnce_append hbr]
    dsimp only
    rw [hidx, hword]
    dsimp only
    rw [hafter]
    split
    · next value hvalue =>
      obtain rfl := (List.cons.inj hvalue).2
      rw [hval, List.getLast?_concat, if_pos rfl, List.dropLast_concat, hend]
      simpa [Nat.toUInt32] using hi
    · next hne => exact absurd rfl (hne _)
  · next hne => exact absurd rfl (hne _)

theorem readName?_quoted {n : String} (hn : NameOk n) :
    readName? ('"' :: n.toList ++ ['"']) = some n := by
  unfold readName?
  split
  · next rest hrest =>
    obtain rfl := (List.cons.inj hrest).2
    obtain ⟨hne, hq⟩ := hn
    simp [List.append_eq, hne, hq]
  · next hne => exact absurd rfl (hne _)

theorem readConstant?_hex {w : UInt32} {ds : List Char} (h : Digits 16 w.toNat ds) :
    readConstant? ('0' :: 'x' :: ds) = some w := by
  have hread := readWord?_of_digits (by norm_num) (by norm_num) h w.toNat_lt
  simp only [readConstant?, readHexWord?, hasHexPrefix, if_true, List.drop_succ_cons,
    List.drop_zero, hread]
  simp [Nat.toUInt32]

theorem readConstant?_literal {lit : List Char} {w : UInt32} (hx : hasHexPrefix lit = false)
    (h : Binary32.readBits? lit = some w) : readConstant? lit = some w := by
  simp only [readConstant?, hx, Bool.false_eq_true, if_false, h]

section ReadEntry

variable {path : String} {k : Nat} {s : Shader} {i : Nat} {e : List Char}

/-- A name entry of a table part stores the name. -/
theorem readEntry_name {s' : Shader} {p : Part} {n : String}
    (he : Entry i ('"' :: n.toList ++ ['"']) e) (hn : NameOk n) (hi : p.Fits s.kind i)
    (hp : p ≠ .constants) (hst : storeName s p i n = some s') :
    readEntry path k s p e = .ok s' := by
  have hv : Solid ('"' :: n.toList ++ ['"']) :=
    ⟨⟨'"', rfl, by decide⟩, '"', List.getLast?_concat, by decide⟩
  obtain ⟨lim, hlim, hlt⟩ := hi
  unfold readEntry
  rw [splitEntry_of_entry he (Part.Fits.lt ⟨lim, hlim, hlt⟩) hv]
  simp only [Except.mapError, bind, Except.bind, hlim, Option.getD_some]
  rw [if_neg (by omega)]
  cases p with
  | constants => exact absurd rfl hp
  | _ =>
    simp only [readName?_quoted hn]
    simp [hst, pure, Except.pure]

/-- A constant entry stores the constant. -/
theorem readEntry_constant {v : List Char} {w : UInt32} {t : Table UInt32} (he : Entry i v e)
    (hv : Solid v) (hw : readConstant? v = some w) (hi : Part.Fits s.kind .constants i)
    (ht : s.constants.insert? i w = some t) :
    readEntry path k s .constants e = .ok { s with constants := t } := by
  obtain ⟨lim, hlim, hlt⟩ := hi
  unfold readEntry
  rw [splitEntry_of_entry he (Part.Fits.lt ⟨lim, hlim, hlt⟩) hv]
  simp only [Except.mapError, bind, Except.bind, hlim, Option.getD_some]
  rw [if_neg (by omega)]
  simp [hw, ht, pure, Except.pure]

end ReadEntry

/-! ### Lines of words -/

theorem isWordSeparator_of_isAlphanum {c : Char} (h : c.isAlphanum = true) :
    isWordSeparator c = false := by
  have hb := isBlank_of_isAlphanum h
  have hcomma : c ≠ ',' := by
    rintro rfl
    exact absurd h (by decide)
  have hsemi : c ≠ ';' := by
    rintro rfl
    exact absurd h (by decide)
  simp [isWordSeparator, hb, hcomma, hsemi]

theorem Token.isAlphanum {w : UInt32} {tok : List Char} (h : Token w tok) :
    ∀ c ∈ tok, c.isAlphanum = true := by
  obtain ⟨ds, rfl, hds⟩ := h
  intro c hc
  rcases List.mem_cons.1 hc with rfl | hc
  · rfl
  rcases List.mem_cons.1 hc with rfl | hc
  · rfl
  · exact hds.isAlphanum (by norm_num) (by norm_num) c hc

theorem Token.ne_nil {w : UInt32} {tok : List Char} (h : Token w tok) : tok ≠ [] := by
  obtain ⟨ds, rfl, -⟩ := h
  exact List.cons_ne_nil _ _

theorem Token.read {w : UInt32} {tok : List Char} (h : Token w tok) :
    readHexWord? tok = some w := by
  obtain ⟨ds, rfl, hds⟩ := h
  simpa [readConstant?, hasHexPrefix] using readConstant?_hex hds

/-- Every character of a line of words separates words or belongs to one. -/
theorem Words.chars {ws : List UInt32} {cs : List Char} (h : Words ws cs) :
    ∀ c ∈ cs, isWordSeparator c = true ∨ c.isAlphanum = true := by
  induction h with
  | nil hseps => exact fun c hc => .inl (hseps c hc)
  | last hseps htok =>
    intro c hc
    rcases List.mem_append.1 hc with hc | hc
    · exact .inl (hseps c hc)
    · exact .inr (htok.isAlphanum c hc)
  | cons hseps htok hsep _ ih =>
    intro c hc
    simp only [List.mem_append, List.mem_cons] at hc
    rcases hc with (hc | hc) | rfl | hc
    · exact .inl (hseps c hc)
    · exact .inr (htok.isAlphanum c hc)
    · exact .inl hsep
    · exact ih c hc

theorem Words.quiet {ws : List UInt32} {cs : List Char} (h : Words ws cs) : Quiet cs := by
  intro c hc
  rcases h.chars c hc with hs | ha
  · simp only [isWordSeparator, Bool.or_eq_true, decide_eq_true_eq] at hs
    rcases hs with (hb | rfl) | rfl
    · exact quiet_of_isBlank hb
    · decide
    · decide
  · exact quiet_of_isAlphanum (fun _ h => by rw [List.mem_singleton.1 h]; exact ha) c
      List.mem_cons_self

section ReadWords

variable {path : String} {k : Nat}

theorem readWords_empty_cons (s : Shader) (ts : List (List Char)) :
    readWords path k s ([] :: ts) = readWords path k s ts := by
  simp [readWords]

theorem readWords_append_empty (s : Shader) (ts : List (List Char)) :
    readWords path k s (ts ++ [[]]) = readWords path k s ts := by
  induction ts generalizing s with
  | nil => rfl
  | cons t ts ih =>
    simp only [List.cons_append, readWords]
    split
    · exact ih s
    · split
      · rfl
      · exact ih _

/-- Separators before a line of words change nothing of what it reads as. -/
theorem readWords_seps_append (s : Shader) {seps : List Char} (hseps : Separators seps)
    (cs : List Char) :
    readWords path k s (splitAt isWordSeparator (seps ++ cs)) =
      readWords path k s (splitAt isWordSeparator cs) := by
  induction seps with
  | nil => rfl
  | cons c seps ih =>
    have hc := hseps c List.mem_cons_self
    rw [List.cons_append, splitAt, if_pos hc, readWords_empty_cons,
      ih fun x hx => hseps x (List.mem_cons_of_mem _ hx)]

/-- Nor do separators after it. -/
theorem readWords_append_seps (s : Shader) {seps : List Char} (hseps : Separators seps)
    (cs : List Char) :
    readWords path k s (splitAt isWordSeparator (cs ++ seps)) =
      readWords path k s (splitAt isWordSeparator cs) := by
  induction seps generalizing cs with
  | nil => rw [List.append_nil]
  | cons c seps ih =>
    have hc := hseps c List.mem_cons_self
    rw [← List.singleton_append, ← List.append_assoc, ih (fun x hx => hseps x
      (List.mem_cons_of_mem _ hx)), splitAt_append_sep hc, readWords_append_empty]

/-- Nor does trimming the line. -/
theorem readWords_splitAt_trim (s : Shader) (cs : List Char) :
    readWords path k s (splitAt isWordSeparator (trim cs)) =
      readWords path k s (splitAt isWordSeparator cs) := by
  obtain ⟨a, b, hcs, ha, hb⟩ := exists_blank_trim cs
  have hsep : ∀ {xs : List Char}, (∀ c ∈ xs, isBlank c = true) → Separators xs :=
    fun h c hc => by simp [isWordSeparator, h c hc]
  conv_rhs => rw [hcs]
  rw [readWords_append_seps s (hsep hb), readWords_seps_append s (hsep ha)]

/-- A line of words adds its words in order. -/
theorem readWords_of_words {ws : List UInt32} {cs : List Char} (h : Words ws cs) (s : Shader) :
    readWords path k s (splitAt isWordSeparator cs) =
      .ok { s with words := s.words ++ ws.toArray } := by
  induction h generalizing s with
  | @nil cs hseps =>
    rw [← List.append_nil cs, readWords_seps_append s hseps]
    simp [splitAt, readWords]
  | last hseps htok =>
    rw [readWords_seps_append s hseps, splitAt_of_forall fun x hx =>
      isWordSeparator_of_isAlphanum (htok.isAlphanum x hx)]
    simp [readWords, htok.ne_nil, htok.read]
  | cons hseps htok hsep _ ih =>
    rw [List.append_assoc, readWords_seps_append s hseps, splitAt_sep_append (fun x hx =>
      isWordSeparator_of_isAlphanum (htok.isAlphanum x hx)) hsep]
    simp [readWords, htok.ne_nil, htok.read, ih]

end ReadWords

/-! ### One line of a rendering -/

theorem Entry.head? {i : Nat} {v e : List Char} (he : Entry i v e) : e.head? = some '[' := by
  cases he
  rfl

theorem literalChar_quiet {c : Char} (h : Binary32.LiteralChar c) :
    c ≠ '"' ∧ c ≠ '#' ∧ c ≠ '/' := by
  rcases h with ha | rfl | rfl | rfl
  · exact quiet_of_isAlphanum (fun _ h => by rw [List.mem_singleton.1 h]; exact ha) c
      List.mem_cons_self
  all_goals decide

theorem literalChar_isBlank {c : Char} (h : Binary32.LiteralChar c) : isBlank c = false := by
  rcases h with ha | rfl | rfl | rfl
  · exact isBlank_of_isAlphanum ha
  all_goals decide

/-- The value of a constant entry: solid, passed whole by the comment cutter, and read as the
word. -/
theorem constant_value {i : Nat} {w : UInt32} {l : List Char} (h : Item.Line (.constant i w) l) :
    ∃ v e pre post com, l = pre ++ e ++ post ++ com ∧ Entry i v e ∧ Solid v ∧ Passes v ∧
      readConstant? v = some w ∧ Spaces pre ∧ Spaces post ∧ Comment com := by
  cases h with
  | hex hds he hpre hpost hcom =>
    have ha : ∀ c ∈ '0' :: 'x' :: _, c.isAlphanum = true := fun c hc => by
      simp only [List.mem_cons] at hc
      rcases hc with rfl | rfl | hc
      · rfl
      · rfl
      · exact hds.isAlphanum (by norm_num) (by norm_num) c hc
    refine ⟨_, _, _, _, _, rfl, he, ?_, (quiet_of_isAlphanum ha).passes, readConstant?_hex hds,
      hpre, hpost, hcom⟩
    exact solid_of_forall (List.cons_ne_nil _ _) fun c hc => isBlank_of_isAlphanum (ha c hc)
  | @literal _ _ lit e pre post com hx hbits he hpre hpost hcom =>
    have hchars := Binary32.readBits?_chars hbits
    have hne : lit ≠ [] := by
      rintro rfl
      cases hbits
    have hsolid : Solid lit := solid_of_forall hne fun c hc => literalChar_isBlank (hchars c hc)
    exact ⟨_, _, _, _, _, rfl, he, hsolid, Quiet.passes fun c hc => literalChar_quiet (hchars c hc),
      readConstant?_literal hx hbits, hpre, hpost, hcom⟩

section Lines

variable {path : String} {P : Progress} {k : Nat} {l : List Char}

theorem step_blank (h : Item.Line .blank l) : step path P (k, l) = .ok P := by
  cases h with
  | blank hpre hcom =>
    apply step_of_empty
    rw [(Spaces.quiet hpre).passes, hcom.stripComment_eq, List.append_nil]
    exact trim_blank fun c hc => (hpre c hc).1

theorem step_header {p : Part} (h : Item.Line (.header p) l)
    (hp : (p.limit P.shader.kind).isSome = true) :
    step path P (k, l) = .ok { P with part := some p } := by
  cases h with
  | header hpre hpost hcom =>
    exact step_of_header (trim_stripComment_framed hpre (p.header_quiet).passes p.header_solid
      hpost hcom) hp

/-- What the reader sees of an entry line: the entry. -/
theorem step_of_entry_line {i : Nat} {v e pre post com : List Char} {part : Part}
    (he : Entry i v e) (hv : Passes v) (hpre : Spaces pre) (hpost : Spaces post)
    (hcom : Comment com) (hpart : P.part = some part) (hw : part ≠ .words) :
    step path P (k, pre ++ e ++ post ++ com) =
      (readEntry path k P.shader part e).map fun s => { P with shader := s } := by
  obtain ⟨-, -, -, -, -, hsolid⟩ := he.decompose
  refine step_of_entry (trim_stripComment_framed hpre (he.passes hv) hsolid hpost hcom) ?_ ?_
    hpart hw
  · intro hnil
    have := he.head?
    rw [hnil] at this
    cases this
  · rw [he.head?]
    decide

theorem step_name {p : Part} {i : Nat} {n : String} {s' : Shader} (h : Item.Line (.name p i n) l)
    (hpart : P.part = some p) (hp : p ≠ .constants) (hw : p ≠ .words) (hn : NameOk n)
    (hi : p.Fits P.shader.kind i) (hst : storeName P.shader p i n = some s') :
    step path P (k, l) = .ok { P with shader := s' } := by
  cases h with
  | name he hpre hpost hcom =>
    rw [step_of_entry_line he (passes_quoted hn.2) hpre hpost hcom hpart hw,
      readEntry_name he hn hi hp hst]
    rfl

theorem step_constant {i : Nat} {w : UInt32} {t : Table UInt32} (h : Item.Line (.constant i w) l)
    (hpart : P.part = some .constants) (hi : Part.Fits P.shader.kind .constants i)
    (ht : P.shader.constants.insert? i w = some t) :
    step path P (k, l) = .ok { P with shader := { P.shader with constants := t } } := by
  obtain ⟨v, e, pre, post, com, rfl, he, hsolid, hv, hw, hpre, hpost, hcom⟩ := constant_value h
  rw [step_of_entry_line he hv hpre hpost hcom hpart (by decide),
    readEntry_constant he hsolid hw hi ht]
  rfl

theorem step_words {ws : List UInt32} (h : Item.Line (.words ws) l)
    (hpart : P.part = some .words) :
    step path P (k, l) =
      .ok { P with shader := { P.shader with words := P.shader.words ++ ws.toArray } } := by
  cases h with
  | @words _ cs com hws hcom =>
    have hline : trim (stripComment false (cs ++ com)) = trim cs := by
      rw [hws.quiet.passes, hcom.stripComment_eq, List.append_nil]
    have hread : readWords path k P.shader (splitAt isWordSeparator cs) = _ :=
      readWords_of_words hws P.shader
    rw [← readWords_splitAt_trim] at hread
    by_cases hnil : trim cs = []
    · -- a line of separators only: nothing is read, and there are no words
      rw [step_of_empty (hline.trans hnil)]
      rw [hnil] at hread
      simp only [splitAt, readWords_empty_cons, readWords, Except.ok.injEq] at hread
      rw [← hread]
    · have hdot : (trim cs).head? ≠ some '.' := by
        intro hd
        obtain ⟨a, b, hcs, -, -⟩ := exists_blank_trim cs
        have hmem : '.' ∈ cs := by
          rw [hcs]
          exact List.mem_append_left _ (List.mem_append_right _ (List.mem_of_head? hd))
        rcases hws.chars '.' hmem with h | h <;> exact absurd h (by decide)
      rw [step_of_words hline hnil hdot hpart, hread]
      rfl

end Lines

/-! ### Tables filled in any order -/

section Insert

variable {α : Type} {i : Nat} {a : α} {t t' : Table α}

theorem Table.insert?_perm (h : t.insert? i a = some t') : t'.Perm ((i, a) :: t) := by
  induction t generalizing t' with
  | nil =>
    simp only [Table.insert?, Option.some.injEq] at h
    subst h
    rfl
  | cons b rest ih =>
    obtain ⟨j, x⟩ := b
    simp only [Table.insert?] at h
    split at h
    · cases h
      rfl
    · split at h
      · cases h
      · obtain ⟨r, hr, rfl⟩ := Option.map_eq_some_iff.1 h
        exact ((ih hr).cons _).trans (List.Perm.swap _ _ _)

theorem Table.insert?_isSome (h : i ∉ t.map Prod.fst) : ∃ t', t.insert? i a = some t' := by
  induction t with
  | nil => exact ⟨_, rfl⟩
  | cons b rest ih =>
    obtain ⟨j, x⟩ := b
    simp only [List.map_cons, List.mem_cons, not_or] at h
    simp only [Table.insert?, if_neg h.1]
    split
    · exact ⟨_, rfl⟩
    · obtain ⟨r, hr⟩ := ih h.2
      exact ⟨_, by rw [hr]; rfl⟩

/-- An entry that a table still lacks goes in, when the table, the entry and the entries still
to come are a table with each index once. -/
theorem Table.insert?_of_perm {rest all : Table α} (hall : (all.map Prod.fst).Nodup)
    (hp : (t ++ (i, a) :: rest).Perm all) :
    ∃ t', t.insert? i a = some t' ∧ (t' ++ rest).Perm all := by
  have hnodup : ((t ++ (i, a) :: rest).map Prod.fst).Nodup := (hp.map Prod.fst).nodup_iff.2 hall
  have hi : i ∉ t.map Prod.fst := by
    rw [List.map_append, List.nodup_append] at hnodup
    exact fun hmem => hnodup.2.2 _ hmem _ List.mem_cons_self rfl
  obtain ⟨t', ht'⟩ := Table.insert?_isSome (a := a) hi
  refine ⟨t', ht', ?_⟩
  calc (t' ++ rest).Perm ((i, a) :: t ++ rest) := (Table.insert?_perm ht').append_right rest
    _ = (i, a) :: (t ++ rest) := rfl
    List.Perm _ (t ++ (i, a) :: rest) := List.perm_middle.symm
    List.Perm _ all := hp

/-- Two tables with increasing indices that hold the same entries are equal. -/
theorem Table.eq_of_perm {u : Table α} (hp : t.Perm u) (ht : (t.map Prod.fst).Pairwise (· < ·))
    (hu : (u.map Prod.fst).Pairwise (· < ·)) : t = u :=
  hp.eq_of_pairwise (fun _ _ _ _ h h' => absurd (h.trans h') (lt_irrefl _))
    (List.pairwise_map.1 ht) (List.pairwise_map.1 hu)

end Insert

/-- The table of names that the entries of a part go to. -/
def nameTable (s : Shader) : Part → Table String
  | .attributes => s.attributes
  | .exports => s.exports
  | _ => s.uniforms

/-- The shader with the table of names of a part replaced. -/
def setNameTable (s : Shader) (p : Part) (t : Table String) : Shader :=
  match p with
  | .attributes => { s with attributes := t }
  | .exports => { s with exports := t }
  | _ => { s with uniforms := t }

theorem storeName_eq (s : Shader) (p : Part) (i : Nat) (n : String) :
    storeName s p i n = ((s.nameTable p).insert? i n).map (s.setNameTable p) := by
  cases p <;> rfl

/-- The parts whose entries are names. -/
def Part.Named (p : Part) : Prop :=
  p ≠ .constants ∧ p ≠ .words

theorem nameTable_setNameTable {s : Shader} {p q : Part} (hp : p.Named) (hq : q.Named)
    (t : Table String) :
    (s.setNameTable q t).nameTable p = if p = q then t else s.nameTable p := by
  obtain ⟨hp1, hp2⟩ := hp
  obtain ⟨hq1, hq2⟩ := hq
  cases p <;> cases q <;> simp_all [Shader.setNameTable, Shader.nameTable]

@[simp] theorem kind_setNameTable (s : Shader) (p : Part) (t : Table String) :
    (s.setNameTable p t).kind = s.kind := by
  cases p <;> rfl

@[simp] theorem constants_setNameTable (s : Shader) (p : Part) (t : Table String) :
    (s.setNameTable p t).constants = s.constants := by
  cases p <;> rfl

@[simp] theorem words_setNameTable (s : Shader) (p : Part) (t : Table String) :
    (s.setNameTable p t).words = s.words := by
  cases p <;> rfl

theorem Respects.nameTable {s : Shader} (hs : s.Respects) {p : Part} (hp : p.Named) :
    Table.Fits s.kind p (s.nameTable p) ∧ ∀ e ∈ s.nameTable p, NameOk e.2 := by
  obtain ⟨hp1, hp2⟩ := hp
  have hmem : ∀ e ∈ s.nameTable p, e ∈ s.attributes ++ s.exports ++ s.uniforms := by
    intro e he
    cases p <;> simp_all [Shader.nameTable]
  refine ⟨?_, fun e he => hs.names e (hmem e he)⟩
  cases p with
  | attributes => exact hs.attributes
  | exports => exact hs.exports
  | uniforms => exact hs.uniforms
  | constants => exact absurd rfl hp1
  | words => exact absurd rfl hp2

/-! ### The order of the items -/

/-- The names an item gives the table of part `p`. -/
def Item.namesIn (p : Part) : Item → Table String
  | .name q i n => if q = p then [(i, n)] else []
  | _ => []

/-- The constants an item gives. -/
def Item.constantsIn : Item → Table UInt32
  | .constant i w => [(i, w)]
  | _ => []

/-- The words an item gives. -/
def Item.wordsIn : Item → List UInt32
  | .words ws => ws
  | _ => []

/-- Items in an order that reading accepts for a kind, after a header of part `cur` (or none):
a header only of a part that the kind allows, and an entry or a line of words only in the part
that the last header before it opened. -/
inductive Placed (kind : Kind) : Option Part → List Item → Prop
  | nil {cur : Option Part} : Placed kind cur []
  | blank {cur : Option Part} {items : List Item} : Placed kind cur items →
      Placed kind cur (.blank :: items)
  | header {cur : Option Part} {p : Part} {items : List Item} : (p.limit kind).isSome = true →
      Placed kind (some p) items → Placed kind cur (.header p :: items)
  | name {p : Part} {i : Nat} {n : String} {items : List Item} : p.Named →
      Placed kind (some p) items → Placed kind (some p) (.name p i n :: items)
  | constant {i : Nat} {w : UInt32} {items : List Item} : Placed kind (some .constants) items →
      Placed kind (some .constants) (.constant i w :: items)
  | words {ws : List UInt32} {items : List Item} : Placed kind (some .words) items →
      Placed kind (some .words) (.words ws :: items)

/-- What has been read of a rendering of `s` when the items `rest` are still to come: the
entries read so far, with those still to come, are the entries of `s`, and the words read so
far, followed by those still to come, are its words. -/
structure Reading (s : Shader) (rest : List Item) (P : Progress) : Prop where
  kind : P.shader.kind = s.kind
  names : ∀ p, p.Named →
    (P.shader.nameTable p ++ rest.flatMap (Item.namesIn p)).Perm (s.nameTable p)
  constants : (P.shader.constants ++ rest.flatMap Item.constantsIn).Perm s.constants
  words : P.shader.words.toList ++ rest.flatMap Item.wordsIn = s.words.toList

section Reading

variable {s : Shader} {rest : List Item} {P : Progress}

theorem Reading.of_blank (h : Reading s (.blank :: rest) P) : Reading s rest P :=
  ⟨h.kind, fun p hp => by simpa [Item.namesIn] using h.names p hp,
    by simpa [Item.constantsIn] using h.constants, by simpa [Item.wordsIn] using h.words⟩

theorem Reading.of_header {p : Part} (h : Reading s (.header p :: rest) P) :
    Reading s rest { P with part := some p } :=
  ⟨h.kind, fun q hq => by simpa [Item.namesIn] using h.names q hq,
    by simpa [Item.constantsIn] using h.constants, by simpa [Item.wordsIn] using h.words⟩

/-- A name still to come goes into its table, which then keeps the invariant. -/
theorem Reading.of_name {p : Part} {i : Nat} {n : String} (hs : s.Respects) (hp : p.Named)
    (h : Reading s (.name p i n :: rest) P) :
    ∃ t, (P.shader.nameTable p).insert? i n = some t ∧ NameOk n ∧ p.Fits P.shader.kind i ∧
      Reading s rest { P with shader := P.shader.setNameTable p t } := by
  have hperm := h.names p hp
  simp only [List.flatMap_cons, Item.namesIn] at hperm
  obtain ⟨hfits, hnames⟩ := hs.nameTable hp
  obtain ⟨t, ht, hperm'⟩ := Table.insert?_of_perm hfits.nodup hperm
  have hmem : (i, n) ∈ s.nameTable p := hperm.subset (by simp)
  refine ⟨t, ht, hnames _ hmem, h.kind ▸ hfits.fit _ hmem, ⟨by simpa using h.kind, fun q hq => ?_,
    ?_, ?_⟩⟩
  · -- the other tables of names, and what is still to come for them, stay as they were
    have hq' := h.names q hq
    rw [nameTable_setNameTable hq hp]
    by_cases hqp : q = p
    · subst hqp
      simpa using hperm'
    · simpa [Item.namesIn, hqp, Ne.symm hqp] using hq'
  · simpa [Item.constantsIn] using h.constants
  · simpa [Item.wordsIn] using h.words

theorem Reading.of_constant {i : Nat} {w : UInt32} (hs : s.Respects)
    (h : Reading s (.constant i w :: rest) P) :
    ∃ t, P.shader.constants.insert? i w = some t ∧ Part.Fits P.shader.kind .constants i ∧
      Reading s rest { P with shader := { P.shader with constants := t } } := by
  have hperm := h.constants
  simp only [List.flatMap_cons, Item.constantsIn, List.singleton_append] at hperm
  obtain ⟨t, ht, hperm'⟩ := Table.insert?_of_perm hs.constants.nodup hperm
  have hmem : (i, w) ∈ s.constants := hperm.subset (by simp)
  refine ⟨t, ht, h.kind ▸ hs.constants.fit _ hmem, ⟨h.kind, fun q hq => ?_, hperm', ?_⟩⟩
  · simpa [Item.namesIn, Shader.nameTable] using h.names q hq
  · simpa [Item.wordsIn] using h.words

theorem Reading.of_words {ws : List UInt32} (h : Reading s (.words ws :: rest) P) :
    Reading s rest { P with shader := { P.shader with words := P.shader.words ++ ws.toArray } } :=
  ⟨h.kind, fun q hq => by simpa [Item.namesIn, Shader.nameTable] using h.names q hq,
    by simpa [Item.constantsIn] using h.constants, by simpa [Item.wordsIn] using h.words⟩

/-- At the end of a rendering the shader read is the shader rendered. -/
theorem Reading.eq (hs : s.Respects) (h : Reading s [] P) (hP : P.shader.Respects) :
    P.shader = s := by
  have htable : ∀ p, p.Named → P.shader.nameTable p = s.nameTable p := fun p hp =>
    Table.eq_of_perm (by simpa using h.names p hp) (hP.nameTable hp).1.sorted
      (hs.nameTable hp).1.sorted
  have hc : P.shader.constants = s.constants :=
    Table.eq_of_perm (by simpa using h.constants) hP.constants.sorted hs.constants.sorted
  have hw : P.shader.words = s.words := Array.ext' (by simpa using h.words)
  have ha := htable .attributes ⟨by decide, by decide⟩
  have he := htable .exports ⟨by decide, by decide⟩
  have hu := htable .uniforms ⟨by decide, by decide⟩
  -- a shader is its kind, its words and its four tables
  have hext : ∀ a b : Shader, a.kind = b.kind → a.words = b.words → a.attributes = b.attributes →
      a.exports = b.exports → a.uniforms = b.uniforms → a.constants = b.constants → a = b := by
    rintro ⟨⟩ ⟨⟩ h1 h2 h3 h4 h5 h6
    simp_all
  exact hext _ _ h.kind hw ha he hu hc

end Reading

/-! ### The whole fold -/

/-- A numbered line as the reader gets it for an item: the item's written line, perhaps without
the carriage return it ended with. -/
def Sees (it : Item) (nl : Nat × List Char) : Prop :=
  ∃ l, Item.Line it l ∧ ReadAs l nl.2

/-- A carriage return that the reader drops at the end of a line changes nothing of the step. -/
theorem step_readAs {path : String} {P : Progress} {k : Nat} {l l' : List Char}
    (h : ReadAs l l') : step path P (k, l') = step path P (k, l) := by
  rcases h with rfl | rfl
  · rfl
  · apply step_congr
    have hq : Quiet ['\r'] := by simp
    rcases stripComment_append_quiet hq false l' with h | h
    · rw [h]
    · rw [h, trim_append_blank (by decide)]

theorem foldlM_step_cons {path : String} {P P₁ : Progress} {nl : Nat × List Char}
    {nls : List (Nat × List Char)} (h : step path P nl = .ok P₁) :
    (nl :: nls).foldlM (step path) P = nls.foldlM (step path) P₁ := by
  rw [List.foldlM_cons, h]
  rfl

section Fold

variable {path : String} {s : Shader}

/-- Reading the lines of the items of a rendering, from a state that keeps the invariant, ends
in a state that keeps it with nothing left to read.  The induction is on the order of the
items; each case is one step of the reader. -/
theorem foldlM_step_placed (hs : s.Respects) {cur : Option Part} {items : List Item}
    (hpl : Placed s.kind cur items) :
    ∀ {nls : List (Nat × List Char)} {P : Progress}, List.Forall₂ Sees items nls →
      P.shader.Respects → Reading s items P → P.part = cur →
      ∃ P', nls.foldlM (step path) P = .ok P' ∧ P'.shader.Respects ∧ Reading s [] P' := by
  induction hpl with
  | nil =>
    intro nls P hnls hP hread _
    cases hnls
    exact ⟨P, rfl, hP, hread⟩
  | blank _ ih =>
    intro nls P hnls hP hread hcur
    obtain ⟨nl, nls, ⟨l, hl, hra⟩, hrest, rfl⟩ := List.forall₂_cons_left_iff.1 hnls
    rw [foldlM_step_cons (by rw [step_readAs hra, step_blank hl])]
    exact ih hrest hP hread.of_blank hcur
  | @header _ p _ hp _ ih =>
    intro nls P hnls hP hread _
    obtain ⟨nl, nls, ⟨l, hl, hra⟩, hrest, rfl⟩ := List.forall₂_cons_left_iff.1 hnls
    have hstep : step path P nl = .ok { P with part := some p } := by
      rw [step_readAs hra, step_header hl (hread.kind ▸ hp)]
    rw [foldlM_step_cons hstep]
    exact ih hrest hP hread.of_header rfl
  | @name p _ _ _ hp _ ih =>
    intro nls P hnls hP hread hcur
    obtain ⟨nl, nls, ⟨l, hl, hra⟩, hrest, rfl⟩ := List.forall₂_cons_left_iff.1 hnls
    obtain ⟨t, ht, hn, hi, hread'⟩ := hread.of_name hs hp
    have hstep : step path P nl = .ok { P with shader := P.shader.setNameTable p t } := by
      rw [step_readAs hra, step_name hl hcur hp.1 hp.2 hn hi (by rw [storeName_eq, ht]; rfl)]
    rw [foldlM_step_cons hstep]
    exact ih hrest (step_respects hP hstep).2 hread' hcur
  | constant _ ih =>
    intro nls P hnls hP hread hcur
    obtain ⟨nl, nls, ⟨l, hl, hra⟩, hrest, rfl⟩ := List.forall₂_cons_left_iff.1 hnls
    obtain ⟨t, ht, hi, hread'⟩ := hread.of_constant hs
    have hstep : step path P nl = .ok { P with shader := { P.shader with constants := t } } := by
      rw [step_readAs hra, step_constant hl hcur hi ht]
    rw [foldlM_step_cons hstep]
    exact ih hrest (step_respects hP hstep).2 hread' hcur
  | @words ws _ _ ih =>
    intro nls P hnls hP hread hcur
    obtain ⟨nl, nls, ⟨l, hl, hra⟩, hrest, rfl⟩ := List.forall₂_cons_left_iff.1 hnls
    have hstep : step path P nl =
        .ok { P with shader := { P.shader with words := P.shader.words ++ ws.toArray } } := by
      rw [step_readAs hra, step_words hl hcur]
    rw [foldlM_step_cons hstep]
    exact ih hrest (step_respects hP hstep).2 hread.of_words hcur

end Fold

/-! ### Renderings -/

/-- A source written for shader `s`: items in an order that its kind allows, each written as a
line, the lines joined by line feeds; between them, the items hold the entries of `s`, in any
order, and its words in program order. -/
structure Rendering (s : Shader) where
  /-- What the lines hold, in order. -/
  items : List Item
  /-- The lines as written, without their line feeds. -/
  lines : List (List Char)
  /-- Whether a line feed follows the last line too. -/
  ended : Bool
  placed : Placed s.kind none items
  written : List.Forall₂ Item.Line items lines
  single : ∀ l ∈ lines, '\n' ∉ l
  names : ∀ p, p.Named → (items.flatMap (Item.namesIn p)).Perm (s.nameTable p)
  constants : (items.flatMap Item.constantsIn).Perm s.constants
  words : items.flatMap Item.wordsIn = s.words.toList

/-- The text of a rendering. -/
def Rendering.text {s : Shader} (r : Rendering s) : String :=
  String.ofList (joinLines r.ended r.lines)

theorem respects_empty (kind : Kind) : ({ kind } : Shader).Respects :=
  ⟨⟨by simp, by simp⟩, ⟨by simp, by simp⟩, ⟨by simp, by simp⟩, ⟨by simp, by simp⟩, by simp⟩

/-- The numbered lines a reader gets for the lines written for some items. -/
theorem forall₂_sees {items : List Item} {lines : List (List Char)}
    (hl : List.Forall₂ Item.Line items lines) :
    ∀ {ls : List (List Char)}, List.Forall₂ ReadAs lines ls →
      ∀ ns : List Nat, ns.length = ls.length → List.Forall₂ Sees items (ns.zip ls) := by
  induction hl with
  | nil =>
    intro ls hr ns _
    cases hr
    simp
  | @cons it l items lines hline _ ih =>
    intro ls hr ns hns
    obtain ⟨l', ls, hra, hr', rfl⟩ := List.forall₂_cons_left_iff.1 hr
    obtain _ | ⟨n, ns⟩ := ns
    · cases hns
    · exact .cons ⟨l, hline, hra⟩ (ih hr' ns (by simpa using hns))

/-- An empty line at the end changes nothing of what is read. -/
theorem foldlM_append_empty (path : String) (nls : List (Nat × List Char)) (n : Nat)
    (P : Progress) :
    (nls ++ [(n, [])]).foldlM (step path) P = nls.foldlM (step path) P := by
  rw [List.foldlM_append]
  cases nls.foldlM (step path) P with
  | error e => rfl
  | ok P' =>
    show (step path P' (n, []) >>= fun P'' => pure P'') = .ok P'
    rw [step_of_empty rfl]
    rfl

/-- Reading any rendering of a shader that keeps the table of its kind gives the shader back. -/
theorem parse_rendering {s : Shader} (hs : s.Respects) (r : Rendering s) (path : String) :
    parse s.kind path r.text = .ok s := by
  have hempty : ∀ p, ({ kind := s.kind } : Shader).nameTable p = [] := by
    intro p
    cases p <;> rfl
  have hread : Reading s r.items { shader := { kind := s.kind }, part := none } :=
    ⟨rfl, fun p hp => by simpa [hempty p] using r.names p hp, by simpa using r.constants,
      by simpa using r.words⟩
  -- the reader numbers the lines it gets from the text
  have hrun : ∀ ls : List (List Char), List.Forall₂ ReadAs r.lines ls →
      ∃ P, ((List.range ls.length).map (· + 1) |>.zip ls).foldlM (step path)
        { shader := { kind := s.kind }, part := none } = .ok P ∧ P.shader = s := by
    intro ls hra
    obtain ⟨P, hfold, hP, hread'⟩ := foldlM_step_placed hs r.placed
      (forall₂_sees r.written hra ((List.range ls.length).map (· + 1)) (by simp))
      (respects_empty s.kind) hread rfl
    exact ⟨P, hfold, hread'.eq hs hP⟩
  unfold parse numberedLines
  dsimp only
  rw [Rendering.text, String.toList_ofList]
  rcases linesOf_joinLines r.ended r.lines r.single with hra | ⟨init, hinit, hra⟩
  · obtain ⟨P, hfold, hP⟩ := hrun _ hra
    rw [hfold, ← hP]
    rfl
  · -- an empty last line without a line feed is not read; reading it would change nothing
    set ls := linesOf (joinLines r.ended r.lines)
    have hra' : List.Forall₂ ReadAs r.lines (ls ++ [[]]) := by
      rw [hinit]
      exact List.rel_append hra (.cons (.inl rfl) .nil)
    obtain ⟨P, hfold, hP⟩ := hrun _ hra'
    rw [List.length_append, List.length_singleton, List.range_succ, List.map_append,
      List.zip_append (by simp), List.map_singleton, List.zip_cons_cons, List.zip_nil_left,
      foldlM_append_empty] at hfold
    rw [hfold, ← hP]
    rfl

/-- A vertex shader with one attribute, one constant and two words. -/
def sampleShader : Shader :=
  { kind := .vertex, words := #[0x1, 0xA], attributes := [(0, "pos")],
    constants := [(1, 0x3F800000)] }

theorem sampleShader_respects : sampleShader.Respects where
  attributes := ⟨by simp [sampleShader], by simp [sampleShader, Part.Fits, Part.limit]⟩
  exports := ⟨by simp [sampleShader], by simp [sampleShader]⟩
  uniforms := ⟨by simp [sampleShader], by simp [sampleShader]⟩
  constants :=
    ⟨by simp [sampleShader], by simp [sampleShader, Part.Fits, Part.limit, vertexConstants]⟩
  names := by simp [sampleShader, NameOk]

/-- The sample written with a comment line, blanks, a float constant and a trailing comment:

    # a vertex shader
    .attributes
    [0] = "pos";
    .constants
    [ 1 ]=1.0 ;
    .asm
    0x1, 0xa // two words
-/
def sampleRendering : Rendering sampleShader where
  items := [.blank, .header .attributes, .name .attributes 0 "pos", .header .constants,
    .constant 1 0x3F800000, .header .words, .words [0x1, 0xA]]
  lines := ["# a vertex shader".toList, ".attributes".toList, "[0] = \"pos\";".toList,
    ".constants".toList, "[ 1 ]=1.0 ;".toList, ".asm".toList, "0x1, 0xa // two words".toList]
  ended := true
  placed := .blank (.header rfl (.name ⟨by decide, by decide⟩ (.header rfl (.constant
    (.header rfl (.words .nil))))))
  written := by
    have hsp : Spaces [' '] := fun c hc => by
      rw [List.mem_singleton.1 hc]
      decide
    have hsep : Separators [' '] := fun c hc => by
      rw [List.mem_singleton.1 hc]
      rfl
    have h0 : Digits 10 0 ['0'] := ⟨0, by rw [digitsOf]; decide⟩
    have h1 : Digits 10 1 ['1'] := ⟨0, by rw [digitsOf]; decide⟩
    have hx1 : Token 0x1 ['0', 'x', '1'] := ⟨['1'], rfl, 0, by rw [digitsOf]; decide⟩
    have hxa : Token 0xA ['0', 'x', 'a'] := ⟨['a'], rfl, 0, by rw [digitsOf]; decide⟩
    have hpos := @Entry.mk 0 ('"' :: "pos".toList ++ ['"']) [] ['0'] [] [' '] [' '] []
      Spaces.nil h0 Spaces.nil hsp hsp Spaces.nil
    have hone := @Entry.mk 1 ['1', '.', '0'] [' '] ['1'] [' '] [] [] [' ']
      hsp h1 hsp Spaces.nil Spaces.nil hsp
    have hwords := @Words.cons [] ['0', 'x', '1'] [' ', '0', 'x', 'a', ' '] ',' 0x1 [0xA]
      Separators.nil hx1 rfl (@Words.cons [' '] ['0', 'x', 'a'] [] ' ' 0xA [] hsep hxa rfl
        (.nil Separators.nil))
    refine .cons (@Item.Line.blank [] _ Spaces.nil (.hash _)) ?_
    refine .cons (@Item.Line.header .attributes [] [] [] Spaces.nil Spaces.nil .none) ?_
    refine .cons (@Item.Line.name .attributes 0 "pos" _ [] [] [] hpos Spaces.nil Spaces.nil
      .none) ?_
    refine .cons (@Item.Line.header .constants [] [] [] Spaces.nil Spaces.nil .none) ?_
    refine .cons (@Item.Line.literal 1 0x3F800000 ['1', '.', '0'] _ [] [] [] rfl (by decide)
      hone Spaces.nil Spaces.nil .none) ?_
    refine .cons (@Item.Line.header .words [] [] [] Spaces.nil Spaces.nil .none) ?_
    exact .cons (@Item.Line.words _ _ _ hwords (.slashes _)) .nil
  single := by decide
  names := by
    intro p hp
    cases p <;> simp [Item.namesIn, Shader.nameTable, sampleShader] at hp ⊢
  constants := by simp [Item.constantsIn, sampleShader]
  words := rfl

theorem parse_rendering_sample :
    sampleShader.Respects ∧ parse .vertex "sample.vert" sampleRendering.text = .ok sampleShader :=
  ⟨sampleShader_respects, parse_rendering sampleShader_respects sampleRendering "sample.vert"⟩

end TegraGpu.Shader
