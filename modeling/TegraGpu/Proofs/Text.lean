import Mathlib
import TegraGpu.Shader.Parser
/-!
# Reading text back: blanks, numbers, comments and lines

What the readers of this library give back for the texts a writer may produce.  Each reader
takes a line apart with a few list functions; for each of them this module says what it does on
text of a known shape, so that a proof about a whole reader never unfolds them.

* Blanks: `Spaces` are the blanks a line may hold; trimming removes them and nothing else
  (`trim_solid`, `trim_append_blank`).
* Numbers: `Digits` are the digits of a number as a text may write them, in either case and after
  any zeros; reading them gives the number back (`readDigits_of_digits`, `readWord?_of_digits`).
* Comments: text without quotes or comment marks passes the comment cutter unchanged, a quoted
  name passes whole, and a comment mark ends the line (`stripComment_quiet`,
  `stripComment_quoted`).
* Splitting: at the first `]` of an entry (`splitOnce_append`), and at the separators of a words
  line (`splitAt_sep_append`, `splitAt_append_sep`).
* Lines: the lines of a text written as lines and line feeds (`linesOf_joinLines`).
* Number texts: a text that reads as a number holds only letters, digits, signs and points
  (`readBits?_chars`).
-/

namespace TegraGpu

namespace Text

/-! ### Characters -/

theorem toNat_of_isAlphanum {c : Char} (h : c.isAlphanum = true) :
    (48 ≤ c.toNat ∧ c.toNat ≤ 57) ∨ (65 ≤ c.toNat ∧ c.toNat ≤ 90) ∨
      (97 ≤ c.toNat ∧ c.toNat ≤ 122) := by
  simp only [Char.isAlphanum, Char.isAlpha, Char.isUpper, Char.isLower, Char.isDigit,
    Bool.or_eq_true, Bool.and_eq_true, decide_eq_true_eq, ge_iff_le, UInt32.le_iff_toNat_le] at h
  have e1 : ('A' : Char).val.toNat = 65 := rfl
  have e2 : ('Z' : Char).val.toNat = 90 := rfl
  have e3 : ('a' : Char).val.toNat = 97 := rfl
  have e4 : ('z' : Char).val.toNat = 122 := rfl
  have e5 : ('0' : Char).val.toNat = 48 := rfl
  have e6 : ('9' : Char).val.toNat = 57 := rfl
  rw [e1, e2, e3, e4, e5, e6] at h
  have hc : c.toNat = c.val.toNat := rfl
  rw [hc]
  omega

/-- A letter or a digit is no blank. -/
theorem isBlank_of_isAlphanum {c : Char} (h : c.isAlphanum = true) : isBlank c = false := by
  have hc := toNat_of_isAlphanum h
  simp only [isBlank, Bool.or_eq_false_iff, Bool.and_eq_false_iff, decide_eq_false_iff_not,
    beq_eq_false_iff_ne]
  omega

/-- Blanks that may stand inside a line: every blank but the line feed. -/
def Spaces (ws : List Char) : Prop :=
  ∀ c ∈ ws, isBlank c = true ∧ c ≠ '\n'

theorem Spaces.nil : Spaces [] := fun _ h => (List.not_mem_nil h).elim

/-! ### Trimming -/

theorem trimStart_blank_append {ws : List Char} (h : ∀ c ∈ ws, isBlank c = true)
    (cs : List Char) : trimStart (ws ++ cs) = trimStart cs := by
  induction ws with
  | nil => rfl
  | cons c ws ih =>
    have hc : isBlank c = true := h c List.mem_cons_self
    simp only [trimStart, List.cons_append, List.dropWhile_cons, hc, if_true] at ih ⊢
    exact ih fun d hd => h d (List.mem_cons_of_mem _ hd)

theorem trimStart_cons {c : Char} (hc : isBlank c = false) (cs : List Char) :
    trimStart (c :: cs) = c :: cs := by
  simp [trimStart, hc]

theorem trimEnd_append_blank {ws : List Char} (h : ∀ c ∈ ws, isBlank c = true)
    (cs : List Char) : trimEnd (cs ++ ws) = trimEnd cs := by
  unfold trimEnd
  rw [List.reverse_append]
  exact congrArg List.reverse
    (trimStart_blank_append (fun c hc => h c (List.mem_reverse.1 hc)) cs.reverse)

theorem trimEnd_append_singleton {c : Char} (hc : isBlank c = false) (cs : List Char) :
    trimEnd (cs ++ [c]) = cs ++ [c] := by
  unfold trimEnd
  rw [List.reverse_append, List.reverse_singleton, List.singleton_append]
  have h := trimStart_cons hc cs.reverse
  unfold trimStart at h
  rw [h, List.reverse_cons, List.reverse_reverse]

/-- A text that starts and ends with a character that is no blank. -/
def Solid (cs : List Char) : Prop :=
  (∃ c, cs.head? = some c ∧ isBlank c = false) ∧ ∃ d, cs.getLast? = some d ∧ isBlank d = false

theorem solid_of_forall {cs : List Char} (hne : cs ≠ []) (h : ∀ c ∈ cs, isBlank c = false) :
    Solid cs := by
  have hc := List.head?_eq_some_head hne
  have hd := List.getLast?_eq_some_getLast hne
  exact ⟨⟨_, hc, h _ (List.mem_of_head? hc)⟩, _, hd, h _ (List.mem_of_getLast? hd)⟩

theorem trimStart_of_head {cs : List Char} {c : Char} (h : cs.head? = some c)
    (hc : isBlank c = false) : trimStart cs = cs := by
  obtain _ | ⟨c', rest⟩ := cs
  · cases h
  · obtain rfl : c' = c := Option.some.inj h
    exact trimStart_cons hc rest

theorem trimEnd_of_getLast {cs : List Char} {d : Char} (h : cs.getLast? = some d)
    (hd : isBlank d = false) : trimEnd cs = cs := by
  obtain rfl | ⟨mid, d', rfl⟩ := List.eq_nil_or_concat' cs
  · cases h
  · rw [List.getLast?_concat] at h
    obtain rfl : d' = d := Option.some.inj h
    exact trimEnd_append_singleton hd mid

/-- Trimming a solid text between spaces gives the text. -/
theorem trim_solid {pre cs post : List Char} (hpre : Spaces pre) (hpost : Spaces post)
    (h : Solid cs) : trim (pre ++ cs ++ post) = cs := by
  obtain ⟨⟨c, hc, hcb⟩, d, hd, hdb⟩ := h
  have hhead : (cs ++ post).head? = some c := by
    rw [List.head?_append, hc]
    rfl
  unfold trim
  rw [List.append_assoc, trimStart_blank_append (fun x hx => (hpre x hx).1),
    trimStart_of_head hhead hcb, trimEnd_append_blank (fun x hx => (hpost x hx).1),
    trimEnd_of_getLast hd hdb]

theorem trim_blank {ws : List Char} (h : ∀ c ∈ ws, isBlank c = true) : trim ws = [] := by
  have := trimStart_blank_append h []
  rw [List.append_nil] at this
  rw [trim, this]
  rfl

/-- A blank at the end of a text changes nothing of it trimmed. -/
theorem trim_append_blank {b : Char} (hb : isBlank b = true) (cs : List Char) :
    trim (cs ++ [b]) = trim cs := by
  unfold trim
  induction cs with
  | nil => simp [trimStart, trimEnd, hb]
  | cons c cs ih =>
    cases hc : isBlank c with
    | true =>
      have h1 : trimStart (c :: cs ++ [b]) = trimStart (cs ++ [b]) := by
        simp [trimStart, hc]
      have h2 : trimStart (c :: cs) = trimStart cs := by
        simp [trimStart, hc]
      rw [h1, h2, ih]
    | false =>
      rw [List.cons_append, trimStart_cons hc, trimStart_cons hc, ← List.cons_append,
        trimEnd_append_blank (fun x hx => by rw [List.mem_singleton.1 hx]; exact hb)]

/-! ### Numbers -/

theorem digitValue_lowerAscii (r : Nat) (c : Char) :
    digitValue r (lowerAscii c) = digitValue r c := by
  unfold lowerAscii
  split
  · next h =>
    obtain ⟨h1, h2⟩ := h
    have hk : 65 ≤ c.toNat ∧ c.toNat ≤ 90 := by
      simp only [Char.le_def] at h1 h2
      exact ⟨h1, h2⟩
    -- an upper-case letter is one of 26 characters; each is checked
    obtain ⟨k, hk'⟩ : ∃ k, c.toNat = k := ⟨_, rfl⟩
    have hc : c = Char.ofNat k := by
      rw [← hk', Char.ofNat_toNat]
    subst hc
    rw [hk'] at hk
    obtain ⟨hk1, hk2⟩ := hk
    interval_cases k <;> rfl
  · rfl

theorem digitValue_digitChar {r d : Nat} (hr : r ≤ 16) (hd : d < r) :
    digitValue r (digitChar false d) = some d := by
  have h16 : d < 16 := by omega
  interval_cases d <;> simp [digitValue, digitChar, hd]

theorem digitValue_zero {r : Nat} (hr : 0 < r) : digitValue r '0' = some 0 := by
  simp [digitValue, hr]

/-- The step of `readDigits`. -/
def digitStep (r : Nat) (acc : Option Nat) (d : Char) : Option Nat :=
  acc.bind fun a => (digitValue r d).map (a * r + ·)

theorem readDigits_cons (r : Nat) (c : Char) (cs : List Char) :
    readDigits r (c :: cs) = cs.foldl (digitStep r) (digitValue r c) := rfl

theorem readDigits_append_singleton (r : Nat) {cs : List Char} (hcs : cs ≠ []) (d : Char) :
    readDigits r (cs ++ [d]) =
      (readDigits r cs).bind fun a => (digitValue r d).map (a * r + ·) := by
  obtain ⟨c, cs, rfl⟩ := List.exists_cons_of_ne_nil hcs
  rw [List.cons_append, readDigits_cons, readDigits_cons, List.foldl_append]
  rfl

/-- Reading is blind to the case of letters. -/
theorem readDigits_map_lowerAscii (r : Nat) (cs : List Char) :
    readDigits r (cs.map lowerAscii) = readDigits r cs := by
  cases cs with
  | nil => rfl
  | cons c cs =>
    rw [List.map_cons, readDigits_cons, readDigits_cons, digitValue_lowerAscii, List.foldl_map]
    congr 1
    funext acc d
    simp only [digitStep, digitValue_lowerAscii]

/-- Zeros in front change no number. -/
theorem readDigits_zeros {r : Nat} (hr : 0 < r) (z : Nat) {cs : List Char} (hcs : cs ≠ []) :
    readDigits r (List.replicate z '0' ++ cs) = readDigits r cs := by
  induction z with
  | zero => rfl
  | succ z ih =>
    rw [← ih]
    obtain ⟨c, cs', hcs'⟩ := List.exists_cons_of_ne_nil
      (show List.replicate z '0' ++ cs ≠ [] by simp [hcs])
    rw [List.replicate_succ, List.cons_append, hcs', readDigits_cons, readDigits_cons,
      digitValue_zero hr, List.foldl_cons]
    congr 1
    simp only [digitStep, Option.bind_some, zero_mul, zero_add, Option.map_id']

theorem digitsOf_ne_nil (r n : Nat) : digitsOf r false n ≠ [] := by
  rw [digitsOf]
  split
  · simp
  · split
    · simp
    · simp

theorem readDigits_digitsOf {r : Nat} (hr : 2 ≤ r) (hr' : r ≤ 16) (n : Nat) :
    readDigits r (digitsOf r false n) = some n := by
  induction n using Nat.strong_induction_on with
  | _ n ih =>
    rw [digitsOf]
    rw [dif_neg (by omega)]
    split
    · next hn =>
      rw [readDigits_cons, digitValue_digitChar hr' hn]
      rfl
    · next hn =>
      have hlt : n / r < n := Nat.div_lt_self (by omega) (by omega)
      rw [readDigits_append_singleton r (digitsOf_ne_nil r (n / r)), ih _ hlt,
        digitValue_digitChar hr' (Nat.mod_lt _ (by omega))]
      simp only [Option.bind_some, Option.map_some, Nat.div_add_mod']

/-- The digits of `n` in a radix as a text may write them: after any number of zeros, each
letter in either case. -/
def Digits (radix n : Nat) (ds : List Char) : Prop :=
  ∃ zeros, ds.map lowerAscii = List.replicate zeros '0' ++ digitsOf radix false n

/-- Each digit written is the digit of a value below the radix. -/
theorem mem_digitsOf {r n : Nat} (hr : 2 ≤ r) {x : Char} (hx : x ∈ digitsOf r false n) :
    ∃ d < r, x = digitChar false d := by
  induction n using Nat.strong_induction_on with
  | _ n ih =>
    rw [digitsOf, dif_neg (by omega)] at hx
    split at hx
    · next hn => exact ⟨n, hn, List.mem_singleton.1 hx⟩
    · rcases List.mem_append.1 hx with hx | hx
      · exact ih _ (Nat.div_lt_self (by omega) (by omega)) hx
      · exact ⟨n % r, Nat.mod_lt _ (by omega), List.mem_singleton.1 hx⟩

theorem Digits.ne_nil {r n : Nat} {ds : List Char} (h : Digits r n ds) : ds ≠ [] := by
  obtain ⟨z, hz⟩ := h
  intro hds
  rw [hds, List.map_nil] at hz
  exact digitsOf_ne_nil r n (List.append_eq_nil_iff.1 hz.symm).2

theorem readDigits_of_digits {r n : Nat} (hr : 2 ≤ r) (hr' : r ≤ 16) {ds : List Char}
    (h : Digits r n ds) : readDigits r ds = some n := by
  obtain ⟨z, hz⟩ := h
  rw [← readDigits_map_lowerAscii, hz, readDigits_zeros (by omega) z (digitsOf_ne_nil r n),
    readDigits_digitsOf hr hr' n]

/-- Every digit a text writes is a letter or a digit. -/
theorem Digits.isAlphanum {r n : Nat} (hr : 2 ≤ r) (hr' : r ≤ 16) {ds : List Char}
    (h : Digits r n ds) : ∀ c ∈ ds, c.isAlphanum = true := by
  obtain ⟨z, hz⟩ := h
  intro c hc
  have hlow : lowerAscii c ∈ List.replicate z '0' ++ digitsOf r false n := by
    rw [← hz]
    exact List.mem_map_of_mem hc
  -- a digit is written as itself, or a letter in either case
  have hdigit : (lowerAscii c).isAlphanum = true := by
    rcases List.mem_append.1 hlow with h0 | hd
    · rw [List.eq_of_mem_replicate h0]
      rfl
    · obtain ⟨d, hd, hx⟩ := mem_digitsOf hr hd
      rw [hx]
      have : d < 16 := by omega
      interval_cases d <;> rfl
  unfold lowerAscii at hdigit
  split at hdigit
  · next hu =>
    have h1 : c.val ≥ ('A' : Char).val := hu.1
    have h2 : c.val ≤ ('Z' : Char).val := hu.2
    simp only [Char.isAlphanum, Char.isAlpha, Char.isUpper, Bool.or_eq_true, decide_eq_true_eq]
    exact .inl (.inl ⟨h1, h2⟩)
  · exact hdigit

theorem Digits.solid {r n : Nat} (hr : 2 ≤ r) (hr' : r ≤ 16) {ds : List Char}
    (h : Digits r n ds) : Solid ds :=
  solid_of_forall h.ne_nil fun c hc => isBlank_of_isAlphanum (h.isAlphanum hr hr' c hc)

/-- Reading gives back a number from its written digits, when it is below `2^32`. -/
theorem readWord?_of_digits {r n : Nat} (hr : 2 ≤ r) (hr' : r ≤ 16) {ds : List Char}
    (h : Digits r n ds) (hn : n < 2 ^ 32) : readWord? r ds = some n.toUInt32 := by
  -- the digits start with a digit, not with the `+` that reading allows
  have hread : readNat? r ds = readDigits r ds := by
    obtain ⟨c, cs, hcs⟩ := List.exists_cons_of_ne_nil h.ne_nil
    have hc : c.isAlphanum = true := h.isAlphanum hr hr' c (by rw [hcs]; exact List.mem_cons_self)
    have hplus : c ≠ '+' := by
      rintro rfl
      exact absurd hc (by decide)
    rw [hcs]
    unfold readNat?
    split
    · next cs' heq => exact absurd (List.cons.inj heq).1 hplus
    · rfl
  unfold readWord?
  rw [hread, readDigits_of_digits hr hr' h]
  simp only [Nat.pow_eq]
  rw [if_pos hn]

/-- An upper-case letter is one when made lower-case. -/
theorem isAlphanum_of_lowerAscii {c : Char} (h : (lowerAscii c).isAlphanum = true) :
    c.isAlphanum = true := by
  unfold lowerAscii at h
  split at h
  · next hu =>
    have h1 : c.val ≥ ('A' : Char).val := hu.1
    have h2 : c.val ≤ ('Z' : Char).val := hu.2
    simp only [Char.isAlphanum, Char.isAlpha, Char.isUpper, Bool.or_eq_true, decide_eq_true_eq]
    exact .inl (.inl ⟨h1, h2⟩)
  · exact h

/-! ### Lines -/

/-- Lines joined by line feeds; the last one is followed by a line feed when `ended`. -/
def joinLines (ended : Bool) : List (List Char) → List Char
  | [] => []
  | [l] => if ended then l ++ ['\n'] else l
  | l :: l' :: ls => l ++ '\n' :: joinLines ended (l' :: ls)

/-- A line as a reader gets it back: as written, or without the carriage return it ended with. -/
def ReadAs (l l' : List Char) : Prop :=
  l' = l ∨ l = l' ++ ['\r']

theorem pieces_of_no_newline {l : List Char} (h : '\n' ∉ l) : pieces l = [(l, false)] := by
  induction l with
  | nil => rfl
  | cons c l ih =>
    have hc : c ≠ '\n' := fun hc => h (hc ▸ List.mem_cons_self)
    rw [pieces, if_neg hc, ih fun h' => h (List.mem_cons_of_mem _ h')]

theorem pieces_line {l : List Char} (h : '\n' ∉ l) (rest : List Char) :
    pieces (l ++ '\n' :: rest) = (l, true) :: pieces rest := by
  induction l with
  | nil => simp [pieces]
  | cons c l ih =>
    have hc : c ≠ '\n' := fun hc => h (hc ▸ List.mem_cons_self)
    rw [List.cons_append, pieces, if_neg hc, ih fun h' => h (List.mem_cons_of_mem _ h')]

theorem readAs_chopReturn (l : List Char) : ReadAs l (chopReturn (l, true)) := by
  unfold ReadAs
  simp only [chopReturn]
  split
  · next h => exact .inr (List.dropLast_append_getLast? _ h).symm
  · exact .inl rfl

theorem forall₂_readAs_chopReturn (ls : List (List Char)) :
    List.Forall₂ ReadAs ls ((ls.map (·, true)).map chopReturn) := by
  rw [List.map_map, List.forall₂_map_right_iff]
  exact List.forall₂_same.2 fun l _ => readAs_chopReturn l

/-- The lines of a text whose last piece is not ended by a line feed: that piece is a line
unless it is empty. -/
theorem linesOf_eq {cs p : List Char} {ps : List (List Char × Bool)}
    (h : pieces cs = ps ++ [(p, false)]) :
    linesOf cs = (if p = [] then ps else ps ++ [(p, false)]).map chopReturn := by
  unfold linesOf
  dsimp only
  rw [h, List.getLast?_concat]
  split
  · next heq =>
    obtain rfl : p = [] := (Prod.mk.inj (Option.some.inj heq)).1
    simp
  · next hne =>
    have hp : p ≠ [] := by
      rintro rfl
      exact hne rfl
    simp [hp]

/-- The pieces of lines joined by line feeds. -/
theorem pieces_joinLines (ended : Bool) (init : List (List Char)) (last : List Char)
    (h : ∀ l ∈ init ++ [last], '\n' ∉ l) :
    pieces (joinLines ended (init ++ [last])) =
      if ended then (init ++ [last]).map (·, true) ++ [([], false)]
      else init.map (·, true) ++ [(last, false)] := by
  induction init with
  | nil =>
    have hl : '\n' ∉ last := h last (by simp)
    cases ended
    · simp [joinLines, pieces_of_no_newline hl]
    · simp [joinLines, pieces_line hl, pieces]
  | cons l init ih =>
    have hl : '\n' ∉ l := h l List.mem_cons_self
    have ih' := ih fun x hx => h x (List.mem_cons_of_mem _ hx)
    obtain ⟨l', ls, hls⟩ := List.exists_cons_of_ne_nil (List.append_ne_nil_of_right_ne_nil init
      (List.cons_ne_nil last []))
    rw [List.cons_append, hls, joinLines, pieces_line hl, ← hls, ih']
    cases ended <;> simp

/-- The lines read back from lines joined by line feeds: each as written, perhaps without a
final carriage return; an empty last line without a line feed is not read at all. -/
theorem linesOf_joinLines (ended : Bool) (ls : List (List Char)) (h : ∀ l ∈ ls, '\n' ∉ l) :
    List.Forall₂ ReadAs ls (linesOf (joinLines ended ls)) ∨
      ∃ init, ls = init ++ [[]] ∧ List.Forall₂ ReadAs init (linesOf (joinLines ended ls)) := by
  obtain rfl | ⟨init, last, rfl⟩ := List.eq_nil_or_concat' ls
  · exact .inl .nil
  have hp := pieces_joinLines ended init last h
  cases ended
  · rw [if_neg Bool.false_ne_true] at hp
    rw [linesOf_eq hp]
    by_cases hlast : last = []
    · subst hlast
      exact .inr ⟨init, rfl, by simpa using forall₂_readAs_chopReturn init⟩
    · rw [if_neg hlast, List.map_append]
      refine .inl (List.rel_append (forall₂_readAs_chopReturn init) ?_)
      exact List.Forall₂.cons (.inl rfl) .nil
  · rw [if_pos rfl] at hp
    rw [linesOf_eq hp, if_pos rfl]
    exact .inl (forall₂_readAs_chopReturn _)

/-- Any text lies between the blanks that trimming removes from its ends. -/
theorem exists_blank_trim (cs : List Char) :
    ∃ a b, cs = a ++ trim cs ++ b ∧ (∀ c ∈ a, isBlank c = true) ∧ ∀ c ∈ b, isBlank c = true := by
  -- trimming drops a blank prefix, then a blank suffix of what remains
  have hstart : cs = cs.takeWhile isBlank ++ trimStart cs :=
    (List.takeWhile_append_dropWhile).symm
  have hend : trimStart cs =
      trim cs ++ ((trimStart cs).reverse.takeWhile isBlank).reverse := by
    unfold trim trimEnd
    rw [← List.reverse_append, List.takeWhile_append_dropWhile, List.reverse_reverse]
  refine ⟨cs.takeWhile isBlank, ((trimStart cs).reverse.takeWhile isBlank).reverse, ?_, ?_, ?_⟩
  · rw [List.append_assoc, ← hend]
    exact hstart
  · exact fun c hc => List.mem_takeWhile_imp hc
  · exact fun c hc => List.mem_takeWhile_imp (List.mem_reverse.1 hc)

end Text

/-! ### Comments and splitting in shader sources -/

namespace Shader

open Text

/-- Text that the comment cutter passes as it is: no quote and no comment mark. -/
def Quiet (cs : List Char) : Prop :=
  ∀ c ∈ cs, c ≠ '"' ∧ c ≠ '#' ∧ c ≠ '/'

theorem stripComment_quiet {cs : List Char} (h : Quiet cs) (q : Bool) (rest : List Char) :
    stripComment q (cs ++ rest) = cs ++ stripComment q rest := by
  induction cs with
  | nil => rfl
  | cons c cs ih =>
    obtain ⟨h1, h2, h3⟩ := h c List.mem_cons_self
    rw [List.cons_append, stripComment, if_neg h1, if_neg (by simp [h2]), if_neg (by simp [h3]),
      ih fun x hx => h x (List.mem_cons_of_mem _ hx), List.cons_append]

/-- Inside quotes, the comment marks are text. -/
theorem stripComment_inside {cs : List Char} (h : '"' ∉ cs) (rest : List Char) :
    stripComment true (cs ++ rest) = cs ++ stripComment true rest := by
  induction cs with
  | nil => rfl
  | cons c cs ih =>
    have hc : c ≠ '"' := fun hc => h (hc ▸ List.mem_cons_self)
    rw [List.cons_append, stripComment, if_neg hc, if_neg (by simp), if_neg (by simp),
      ih fun h' => h (List.mem_cons_of_mem _ h'), List.cons_append]

/-- A quoted text passes the comment cutter whole, whatever comment marks it holds. -/
theorem stripComment_quoted {name : List Char} (h : '"' ∉ name) (rest : List Char) :
    stripComment false ('"' :: name ++ '"' :: rest) =
      '"' :: name ++ '"' :: stripComment false rest := by
  rw [List.cons_append, stripComment, if_pos rfl, Bool.not_false, stripComment_inside h,
    stripComment, if_pos rfl, Bool.not_true, List.cons_append]

/-- What may end a line as a comment: nothing, or `#` or `//` and any text. -/
inductive Comment : List Char → Prop
  | none : Comment []
  | hash (text : List Char) : Comment ('#' :: text)
  | slashes (text : List Char) : Comment ('/' :: '/' :: text)

theorem Comment.stripComment_eq {com : List Char} (h : Comment com) :
    stripComment false com = [] := by
  cases h <;> simp [stripComment]

/-- A character that is no quote and no comment mark, put at the end of a line, is cut off with
the comment or kept at the end. -/
theorem stripComment_append_quiet {c : Char} (hc : Quiet [c]) (q : Bool) (cs : List Char) :
    stripComment q (cs ++ [c]) = stripComment q cs ∨
      stripComment q (cs ++ [c]) = stripComment q cs ++ [c] := by
  obtain ⟨h1, h2, h3⟩ := hc c List.mem_cons_self
  induction cs generalizing q with
  | nil =>
    right
    simp [stripComment, h1, h2, h3]
  | cons x cs ih =>
    -- `//` is seen alike with or without `c` behind it, since `c` is no `/`
    have hhead : ((cs ++ [c]).head? = some '/') = (cs.head? = some '/') := by
      cases cs with
      | nil => simp [h3]
      | cons y cs => simp
    rw [List.cons_append, stripComment, stripComment]
    simp only [hhead]
    split
    · rcases ih (!q) with h | h <;> simp [h]
    · split
      · exact .inl rfl
      · split
        · exact .inl rfl
        · rcases ih q with h | h <;> simp [h]

/-- Splitting at the first separator of a text that has none before it. -/
theorem splitOnce_append {sep : Char} {xs : List Char} (h : sep ∉ xs) (ys : List Char) :
    splitOnce sep (xs ++ sep :: ys) = some (xs, ys) := by
  induction xs with
  | nil => simp [splitOnce]
  | cons x xs ih =>
    have hx : x ≠ sep := fun hx => h (hx ▸ List.mem_cons_self)
    rw [List.cons_append, splitOnce, if_neg hx, ih fun h' => h (List.mem_cons_of_mem _ h')]
    rfl

section SplitAt

variable {sep : Char → Bool}

theorem splitAt_ne_nil (cs : List Char) : splitAt sep cs ≠ [] := by
  cases cs with
  | nil => simp [splitAt]
  | cons c cs =>
    rw [splitAt]
    split
    · simp
    · split <;> simp

/-- A text without separators is one piece. -/
theorem splitAt_of_forall {tok : List Char} (h : ∀ x ∈ tok, sep x = false) :
    splitAt sep tok = [tok] := by
  induction tok with
  | nil => rfl
  | cons x tok ih =>
    rw [splitAt, if_neg (by simp [h x List.mem_cons_self]), ih fun y hy => h y
      (List.mem_cons_of_mem _ hy)]

/-- A text without separators ends its piece at the next separator. -/
theorem splitAt_sep_append {tok : List Char} (h : ∀ x ∈ tok, sep x = false) {c : Char}
    (hc : sep c = true) (rest : List Char) :
    splitAt sep (tok ++ c :: rest) = tok :: splitAt sep rest := by
  induction tok with
  | nil => simp [splitAt, hc]
  | cons x tok ih =>
    rw [List.cons_append, splitAt, if_neg (by simp [h x List.mem_cons_self]),
      ih fun y hy => h y (List.mem_cons_of_mem _ hy)]

/-- A separator at the end adds an empty piece. -/
theorem splitAt_append_sep {c : Char} (hc : sep c = true) (cs : List Char) :
    splitAt sep (cs ++ [c]) = splitAt sep cs ++ [[]] := by
  induction cs with
  | nil => simp [splitAt, hc]
  | cons x cs ih =>
    obtain ⟨p, ps, hps⟩ := List.exists_cons_of_ne_nil (@splitAt_ne_nil sep cs)
    rw [List.cons_append, splitAt, splitAt, ih, hps]
    split <;> simp

end SplitAt

end Shader

/-! ### Number texts -/

namespace Binary32

/-- The characters of a number text: letters, digits, signs and the point. -/
def LiteralChar (c : Char) : Prop :=
  c.isAlphanum = true ∨ c = '+' ∨ c = '-' ∨ c = '.'

theorem isAlphanum_of_isDigit {c : Char} (h : c.isDigit = true) : c.isAlphanum = true := by
  simp [Char.isAlphanum, h]

theorem literalChar_of_takeWhile {cs : List Char} :
    ∀ c ∈ cs.takeWhile Char.isDigit, LiteralChar c :=
  fun _ hc => .inl (isAlphanum_of_isDigit (List.mem_takeWhile_imp hc))

theorem literalChar_of_dropWhile {cs : List Char} (h : cs.dropWhile Char.isDigit = []) :
    ∀ c ∈ cs, LiteralChar c := by
  have hcs := List.takeWhile_append_dropWhile (p := Char.isDigit) (l := cs)
  rw [h, List.append_nil] at hcs
  rw [← hcs]
  exact literalChar_of_takeWhile

theorem readExponent?_chars {cs : List Char} {x : Int} (h : readExponent? cs = some x) :
    ∀ c ∈ cs, LiteralChar c := by
  unfold readExponent? spanDigits at h
  split at h
  next negative rest hsign =>
  dsimp only at h
  split at h
  · exact absurd h nofun
  next hds =>
  have hrest : ∀ c ∈ rest, LiteralChar c := by
    simp only [Bool.or_eq_true, Bool.not_eq_true', not_or, Bool.not_eq_false,
      List.isEmpty_iff] at hds
    exact literalChar_of_dropWhile hds.2
  split at hsign
  all_goals
    obtain ⟨-, rfl⟩ := Prod.mk.inj hsign
    simpa [LiteralChar] using hrest

theorem chars_of_spanDigits {cs ds after : List Char} (h : spanDigits cs = (ds, after))
    (hafter : ∀ c ∈ after, LiteralChar c) : ∀ c ∈ cs, LiteralChar c := by
  obtain ⟨rfl, rfl⟩ := Prod.mk.inj h
  rw [← List.takeWhile_append_dropWhile (p := Char.isDigit) (l := cs)]
  intro c hc
  rcases List.mem_append.1 hc with hc | hc
  · exact literalChar_of_takeWhile c hc
  · exact hafter c hc

/-- What may follow the digits of a decimal: nothing, or an exponent. -/
theorem exponentTail_chars {t : List Char}
    (h : t = [] ∨ ∃ c rest e, t = c :: rest ∧ (c = 'e' ∨ c = 'E') ∧ readExponent? rest = some e) :
    ∀ c ∈ t, LiteralChar c := by
  rcases h with rfl | ⟨c, rest, e, rfl, hc, he⟩
  · exact fun _ h => absurd h List.not_mem_nil
  · intro d hd
    rcases List.mem_cons.1 hd with rfl | hd
    · rcases hc with rfl | rfl <;> exact .inl rfl
    · exact readExponent?_chars he d hd

theorem readUnsignedDecimal?_chars {cs : List Char} {x : Nat × Int}
    (h : readUnsignedDecimal? cs = some x) : ∀ c ∈ cs, LiteralChar c := by
  unfold readUnsignedDecimal? at h
  generalize hs : spanDigits cs = p at h
  obtain ⟨ip, r⟩ := p
  refine chars_of_spanDigits hs ?_
  dsimp only at h
  -- both ways through the fraction end at the same test of what follows the digits
  split at h
  on_goal 1 =>
    rename_i r'
    generalize hs' : spanDigits r' = q at h
    obtain ⟨fp, t⟩ := q
    dsimp only at h
    refine List.forall_mem_cons.2 ⟨.inr (.inr (.inr rfl)), chars_of_spanDigits hs' ?_⟩
  on_goal 2 => dsimp only at h
  all_goals
    refine exponentTail_chars ?_
    split at h
    · exact absurd h nofun
    split at h
    · exact .inl rfl
    split at h
    · next hc =>
      obtain ⟨e, he, -⟩ := Option.map_eq_some_iff.1 h
      exact .inr ⟨_, _, e, rfl, hc, he⟩
    · exact absurd h nofun

theorem readLiteral?_chars {cs : List Char} {l : Literal} (h : readLiteral? cs = some l) :
    ∀ c ∈ cs, LiteralChar c := by
  unfold readLiteral? at h
  split at h
  next negative body hsign =>
  dsimp only at h
  have hbody : ∀ c ∈ body, LiteralChar c := by
    split at h
    · exact absurd h nofun
    split at h
    · next heq => exact readUnsignedDecimal?_chars heq
    · have hword : ∀ d ∈ body.map Text.lowerAscii, d.isAlphanum = true := by
        split at h
        · next hw => rcases hw with hw | hw <;> rw [hw] <;> simp
        split at h
        · next hw =>
          rw [hw]
          simp
        · exact absurd h nofun
      exact fun c hc => .inl (Text.isAlphanum_of_lowerAscii (hword _ (List.mem_map_of_mem hc)))
  split at hsign
  all_goals
    obtain ⟨-, rfl⟩ := Prod.mk.inj hsign
    simpa [LiteralChar] using hbody

theorem readBits?_chars {cs : List Char} {w : UInt32} (h : readBits? cs = some w) :
    ∀ c ∈ cs, LiteralChar c := by
  obtain ⟨l, hl, -⟩ := Option.map_eq_some_iff.1 h
  exact readLiteral?_chars hl

end Binary32

end TegraGpu
