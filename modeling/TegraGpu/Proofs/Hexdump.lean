import Mathlib
import TegraGpu.Proofs.Text
import TegraGpu.Text.Hexdump
/-!
# The layout of hexadecimal dumps

A dump cuts its bytes into pieces of `c` bytes (`c` at least one) and writes one line for each
piece.  This module says what the lines are, column by column, without the string functions
that build them: the lead text, the margin (the offset of the line's first byte in at least eight
lower-case hexadecimal digits and a colon, when asked for), the hex field of `3 c - 1` columns, a
bar between spaces, and the character column.  The hex field is given by its columns
(`fieldChar`): byte `j` of the line takes columns `3 j` and `3 j + 1`, every third column is a
space, and the slots past the last byte of a short line are spaces.  So reading the hex fields
positionally gives the bytes back, and the bar stands at one column on every line while the
offsets fit in eight digits.  It does not stand at one column past that: the first offset of
nine digits moves it one column to the right.

* `chunksOf_eq`, `flatMap_chunkAt` : the pieces of a list, and the list they make up again.
* `length_digitsOf_le_iff`, `hexLower_byte`, `length_hexLower_eight` : numbers in hexadecimal.
* `fieldChar`, `hexField`, `toList_hexText` : the hex field of a line, column by column;
  `readField_hexField` : read back positionally.
* `dumpLineOf`, `toList_hexdump` : a dump is its lines, each followed by a newline.
* `Dumped`, `hexdump_dumped` : **the layout of every dump**; `hexdump_layout` : with the
  writing of a dump when verbose.
* `separator_moves_past_eight_digits` : the bar of a line at offset `2 ^ 32` stands one column
  further right than the bar of the line before it.
-/

namespace TegraGpu

/-- The loop of `ByteArray.toList` puts the bytes from `i` on after the reversed accumulator. -/
theorem ByteArray.toList_loop (bs : ByteArray) (i : Nat) (r : List UInt8) :
    ByteArray.toList.loop bs i r = r.reverse ++ bs.data.toList.drop i := by
  have hsize : bs.size = bs.data.toList.length := Array.length_toList.symm
  fun_induction ByteArray.toList.loop bs i r with
  | case1 i r hi ih =>
    have hi' : i < bs.data.toList.length := by omega
    rw [ih, List.reverse_cons, List.append_assoc, List.singleton_append,
      List.drop_eq_getElem_cons hi']
    simp [ByteArray.get!, getElem!_pos bs.data i hi]
  | case2 i r hi =>
    rw [List.drop_of_length_le (by omega), List.append_nil]

theorem ByteArray.toList_eq (bs : ByteArray) : bs.toList = bs.data.toList := by
  rw [ByteArray.toList, ByteArray.toList_loop]
  rfl

namespace Text

variable {α : Type}

/-! ### Pieces of a list -/

/-- The `i`-th piece of `n` elements of a list, the last one possibly shorter. -/
def chunkAt (xs : List α) (n i : Nat) : List α :=
  (xs.drop (i * n)).take n

/-- The number of pieces of `n` elements that a list of `len` elements is cut into: `len / n`
rounded up. -/
def pieceCount (len n : Nat) : Nat :=
  (len + n - 1) / n

theorem pieceCount_succ {len n : Nat} (hn : 0 < n) (hlen : 0 < len) :
    pieceCount len n = pieceCount (len - n) n + 1 := by
  unfold pieceCount
  rcases Nat.lt_or_ge n len with h | h
  · rw [show len + n - 1 = len - n + n - 1 + n by omega, Nat.add_div_right _ hn]
  · have hone : (len + n - 1) / n = 1 := Nat.div_eq_of_lt_le (by omega) (by omega)
    have hzero : (n - 1) / n = 0 := Nat.div_eq_of_lt (by omega)
    rw [Nat.sub_eq_zero_of_le h, Nat.zero_add, hone, hzero]

theorem chunkAt_succ (xs : List α) (n i : Nat) :
    chunkAt xs n (i + 1) = chunkAt (xs.drop n) n i := by
  simp only [chunkAt, List.drop_drop, Nat.succ_mul]
  rw [Nat.add_comm]

/-- Cutting a list into pieces gives the pieces in order. -/
theorem chunksOf_eq {n : Nat} (hn : 0 < n) (xs : List α) :
    chunksOf n xs = (List.range (pieceCount xs.length n)).map (chunkAt xs n) := by
  induction xs using chunksOf.induct n with
  | case1 => simp [chunksOf, pieceCount, Nat.div_eq_of_lt (show n - 1 < n by omega)]
  | case2 x rest h => omega
  | case3 x rest h ih =>
    -- the first piece, then the pieces of the rest, counted from one
    rw [chunksOf, dif_neg h, ih, List.length_drop,
      @pieceCount_succ (x :: rest).length n hn (by simp), List.range_succ_eq_map,
      List.map_cons, List.map_map]
    congr 1
    · simp [chunkAt]
    · refine List.map_congr_left fun i _ => ?_
      simp only [Function.comp_apply, Nat.succ_eq_add_one, chunkAt_succ]

theorem lt_length_of_lt_pieceCount {len n i : Nat} (hn : 0 < n) (hi : i < pieceCount len n) :
    i * n < len := by
  unfold pieceCount at hi
  have h := (Nat.le_div_iff_mul_le hn).1 hi
  rw [Nat.succ_mul] at h
  omega

/-- Every piece is nonempty. -/
theorem chunkAt_ne_nil {xs : List α} {n i : Nat} (hn : 0 < n) (hi : i < pieceCount xs.length n) :
    chunkAt xs n i ≠ [] := by
  have := lt_length_of_lt_pieceCount hn hi
  simp [chunkAt, List.take_eq_nil_iff]
  omega

theorem length_chunkAt_le (xs : List α) (n i : Nat) : (chunkAt xs n i).length ≤ n := by
  simp [chunkAt]

/-- The pieces, put back together, are the list. -/
theorem flatten_chunksOf (n : Nat) (xs : List α) : (chunksOf n xs).flatten = xs := by
  induction xs using chunksOf.induct n with
  | case1 => simp [chunksOf]
  | case2 x rest h => simp [chunksOf, h]
  | case3 x rest h ih => rw [chunksOf, dif_neg h, List.flatten_cons, ih, List.take_append_drop]

theorem flatMap_chunkAt {n : Nat} (hn : 0 < n) (xs : List α) :
    (List.range (pieceCount xs.length n)).flatMap (chunkAt xs n) = xs := by
  rw [List.flatMap_def, ← chunksOf_eq hn, flatten_chunksOf]

/-! ### Numbers in hexadecimal -/

/-- A number has at most `k + 1` digits in a radix exactly when it is below the radix to the
`k + 1`. -/
theorem length_digitsOf_le_iff {r : Nat} (hr : 2 ≤ r) (k n : Nat) :
    (digitsOf r false n).length ≤ k + 1 ↔ n < r ^ (k + 1) := by
  induction k generalizing n with
  | zero =>
    rw [digitsOf, dif_neg (by omega)]
    split
    · next hn => simpa using hn
    · next hn =>
      have := List.length_pos_iff.2 (digitsOf_ne_nil r (n / r))
      simp only [List.length_append, List.length_singleton, zero_add, pow_one]
      omega
  | succ k ih =>
    rw [digitsOf, dif_neg (by omega)]
    split
    · next hn =>
      have : r ≤ r ^ (k + 1 + 1) := Nat.le_self_pow (by omega) r
      simp only [List.length_singleton]
      omega
    · next hn =>
      -- one digit more than the quotient by the radix
      rw [List.length_append, List.length_singleton, Nat.add_le_add_iff_right, ih,
        Nat.div_lt_iff_lt_mul (by omega), ← pow_succ]

/-- The two digits of a byte, most significant first. -/
def byteDigits (b : UInt8) : List Char :=
  [digitChar false (b.toNat / 16), digitChar false (b.toNat % 16)]

/-- A byte is written as exactly its two digits. -/
theorem hexLower_byte (b : UInt8) : (hexLower 2 b.toNat).toList = byteDigits b := by
  have hb := b.toNat_lt
  unfold hexLower padZeros byteDigits
  rw [String.toList_ofList, digitsOf, dif_neg (by omega)]
  split
  · next h =>
    rw [Nat.div_eq_of_lt h, Nat.mod_eq_of_lt h]
    rfl
  · next h =>
    have hq : b.toNat / 16 < 16 := by omega
    rw [digitsOf, dif_neg (by omega), dif_pos hq]
    rfl

/-- An offset is written as exactly eight digits when it is below `2 ^ 32`, and as more
otherwise. -/
theorem length_hexLower_eight (s : Nat) :
    (hexLower 8 s).toList.length = 8 ↔ s < 2 ^ 32 := by
  have hle := length_digitsOf_le_iff (r := 16) (by omega) 7 s
  unfold hexLower padZeros
  rw [String.toList_ofList, List.length_append, List.length_replicate]
  rw [show (2 : Nat) ^ 32 = 16 ^ 8 by norm_num]
  omega

theorem eight_le_length_hexLower (s : Nat) : 8 ≤ (hexLower 8 s).toList.length := by
  unfold hexLower padZeros
  rw [String.toList_ofList, List.length_append, List.length_replicate]
  omega

/-- A written number reads back as itself. -/
theorem readDigits_hexLower (w s : Nat) : readDigits 16 (hexLower w s).toList = some s := by
  unfold hexLower padZeros
  rw [String.toList_ofList, readDigits_zeros (by omega) _ (digitsOf_ne_nil 16 s),
    readDigits_digitsOf (by omega) (le_refl 16)]

/-- Every character of a written number is a lower-case hexadecimal digit. -/
theorem mem_hexLower {w s : Nat} {ch : Char} (h : ch ∈ (hexLower w s).toList) :
    ∃ d < 16, ch = digitChar false d := by
  unfold hexLower padZeros at h
  rw [String.toList_ofList] at h
  rcases List.mem_append.1 h with h | h
  · exact ⟨0, by omega, List.eq_of_mem_replicate h⟩
  · exact mem_digitsOf (by omega) h

theorem digitChar_ne {d : Nat} (hd : d < 16) :
    digitChar false d ≠ '\n' ∧ digitChar false d ≠ '|' := by
  interval_cases d <;> decide

/-! ### The hex field of a line -/

/-- Column `p` of the hex field of a line holding `chunk`: byte `j` takes columns `3 j` and
`3 j + 1` for its two digits and column `3 j + 2` is a space; past the last byte every column is
a space. -/
def fieldChar (chunk : List UInt8) (p : Nat) : Char :=
  if h : p % 3 < 2 ∧ p / 3 < chunk.length then (byteDigits chunk[p / 3]).getD (p % 3) ' '
  else ' '

/-- The hex field of a line of `c` slots holding `chunk`, column by column: `3 c - 1` columns. -/
def hexField (c : Nat) (chunk : List UInt8) : List Char :=
  (List.range (3 * c - 1)).map (fieldChar chunk)

theorem length_hexField (c : Nat) (chunk : List UInt8) :
    (hexField c chunk).length = 3 * c - 1 := by
  simp [hexField]

theorem toList_padding (k : Nat) :
    (String.join (List.replicate k "   ")).toList = List.replicate (3 * k) ' ' := by
  induction k with
  | zero => rfl
  | succ k ih =>
    rw [List.replicate_succ, String.join_cons, String.toList_append, ih,
      show 3 * (k + 1) = 3 + 3 * k by omega, List.replicate_add]
    rfl

theorem fieldChar_cons_add_three (b : UInt8) (t : List UInt8) (p : Nat) :
    fieldChar (b :: t) (p + 3) = fieldChar t p := by
  have hmod : (p + 3) % 3 = p % 3 := by omega
  have hdiv : (p + 3) / 3 = p / 3 + 1 := by omega
  simp only [fieldChar, hmod, hdiv, List.length_cons, Nat.add_lt_add_iff_right,
    List.getElem_cons_succ]

theorem fieldChar_of_length_le {chunk : List UInt8} {p : Nat} (h : chunk.length ≤ p / 3) :
    fieldChar chunk p = ' ' := by
  simp only [fieldChar]
  rw [dif_neg (by omega)]

/-- The bytes of a line as two digits each, separated by single spaces and padded with three
spaces for each slot past the last byte, are the hex field of the line. -/
theorem toList_hexText {chunk : List UInt8} (hne : chunk ≠ []) {c : Nat}
    (hc : chunk.length ≤ c) :
    (" ".intercalate (chunk.map fun b => hexLower 2 b.toNat)).toList ++
      (String.join (List.replicate (c - chunk.length) "   ")).toList = hexField c chunk := by
  induction chunk generalizing c with
  | nil => exact absurd rfl hne
  | cons b t ih =>
    obtain ⟨c, rfl⟩ : ∃ c', c = c' + 1 := ⟨c - 1, by simp at hc; omega⟩
    rw [hexField, show 3 * (c + 1) - 1 = 3 * c + 2 by omega]
    cases t with
    | nil =>
      -- one byte: its two digits, then spaces to the end of the field
      have hpad : (List.range (3 * c)).map (fun p => fieldChar [b] (2 + p)) =
          List.replicate (3 * c) ' ' := by
        refine List.eq_replicate_iff.2 ⟨by simp, fun x hx => ?_⟩
        obtain ⟨p, -, rfl⟩ := List.mem_map.1 hx
        by_cases hp : (2 + p) % 3 = 2
        · simp [fieldChar, hp]
        · exact fieldChar_of_length_le (by simp; omega)
      rw [List.map_singleton, String.intercalate_singleton, hexLower_byte, List.length_singleton,
        Nat.add_sub_cancel, toList_padding, Nat.add_comm, List.range_add, List.map_append,
        List.map_map, Function.comp_def, hpad]
      rfl
    | cons b' t =>
      -- a byte, a space, then the field of the rest one slot shorter
      have hc' : 1 ≤ c := by simp at hc; omega
      have hrest := ih (List.cons_ne_nil b' t) (c := c) (by simp at hc ⊢; omega)
      rw [hexField, List.map_cons] at hrest
      rw [List.map_cons, List.map_cons, String.toList_intercalate, List.map_cons, List.map_cons,
        List.intercalate_cons_cons, ← List.map_cons, ← String.toList_intercalate,
        show c + 1 - (b :: b' :: t).length = c - (b' :: t).length by simp, List.append_assoc,
        List.append_assoc, hrest, show 3 * c + 2 = 3 + (3 * c - 1) by omega, List.range_add,
        List.map_append, List.map_map, Function.comp_def]
      simp only [Nat.add_comm 3, fieldChar_cons_add_three]
      rw [hexLower_byte]
      rfl

/-- Every column of a hex field is a space or a lower-case hexadecimal digit. -/
theorem mem_hexField {c : Nat} {chunk : List UInt8} {ch : Char} (h : ch ∈ hexField c chunk) :
    ch = ' ' ∨ ∃ d < 16, ch = digitChar false d := by
  obtain ⟨p, -, rfl⟩ := List.mem_map.1 h
  unfold fieldChar
  split
  · next hp =>
    have hb := chunk[p / 3].toNat_lt
    -- the first or the second digit of the byte, by the column within its slot
    rcases (show p % 3 = 0 ∨ p % 3 = 1 by omega) with h0 | h1
    · exact .inr ⟨chunk[p / 3].toNat / 16, by omega, by simp [byteDigits, h0]⟩
    · exact .inr ⟨chunk[p / 3].toNat % 16, by omega, by simp [byteDigits, h1]⟩
  · exact .inl rfl

/-- Reads a hex field positionally: the two digits at the start of every slot of three columns,
up to the first slot that does not start with two hexadecimal digits. -/
def readField : List Char → List UInt8
  | a :: b :: rest =>
    match digitValue 16 a, digitValue 16 b with
    | some h, some l => (h * 16 + l).toUInt8 :: readField (rest.drop 1)
    | _, _ => []
  | _ => []
termination_by cs => cs.length

theorem readField_byteDigits (b : UInt8) (rest : List Char) :
    readField (byteDigits b ++ rest) = b :: readField (rest.drop 1) := by
  have hb := b.toNat_lt
  have hhi := digitValue_digitChar (r := 16) (d := b.toNat / 16) (le_refl 16) (by omega)
  have hlo := digitValue_digitChar (r := 16) (d := b.toNat % 16) (le_refl 16) (by omega)
  rw [byteDigits, List.cons_append, List.cons_append, List.nil_append, readField, hhi, hlo]
  simp only [List.cons.injEq, and_true]
  rw [Nat.div_add_mod' b.toNat 16]
  exact UInt8.ofNat_toNat

theorem readField_spaces (k : Nat) : readField (List.replicate k ' ') = [] := by
  rcases k with _ | _ | k
  · simp [readField]
  · simp [readField]
  · rw [List.replicate_succ, List.replicate_succ, readField]
    rfl

/-- Reading the hex field of a line positionally gives back its bytes. -/
theorem readField_hexField {chunk : List UInt8} (hne : chunk ≠ []) {c : Nat}
    (hc : chunk.length ≤ c) : readField (hexField c chunk) = chunk := by
  rw [← toList_hexText hne hc]
  induction chunk generalizing c with
  | nil => exact absurd rfl hne
  | cons b t ih =>
    cases t with
    | nil =>
      rw [List.map_singleton, String.intercalate_singleton, hexLower_byte, toList_padding,
        readField_byteDigits, List.drop_replicate, readField_spaces]
    | cons b' t =>
      -- the first byte, then the field of the rest with one slot fewer
      have hrest := ih (List.cons_ne_nil b' t) (c := c - 1) (by simp at hc ⊢; omega)
      rw [List.map_cons, List.map_cons, String.toList_intercalate, List.map_cons, List.map_cons,
        List.intercalate_cons_cons, ← List.map_cons, ← String.toList_intercalate,
        hexLower_byte, List.append_assoc, List.append_assoc, readField_byteDigits]
      rw [List.map_cons] at hrest
      have hspace : " ".toList = [' '] := rfl
      rw [hspace, List.singleton_append, List.drop_succ_cons, List.drop_zero, show
        c - (b :: b' :: t).length = c - 1 - (b' :: t).length by simp; omega, hrest]

/-! ### Lines -/

/-- What stands between the lead text and the hex field of a line whose first byte is at
`start`: the offset and a colon, or nothing. -/
def marginChars (margin : Margin) (start : Nat) : List Char :=
  if margin = .offset then (hexLower 8 start).toList ++ [':', ' '] else []

/-- The character column of a line: each byte as itself when it is printable ASCII and as a point
otherwise; nothing when the column is not asked for. -/
def charColumn (ascii : Bool) (chunk : List UInt8) : List Char :=
  if ascii then chunk.map shownChar else []

/-- Line `i` of the dump of `bytes` in lines of `c` slots, without its newline: the lead text, the
margin of the line's offset, the hex field of its bytes, a bar between spaces and the character
column. -/
def dumpLineOf (margin : Margin) (lead : String) (bytes : List UInt8) (c : Nat) (ascii : Bool)
    (i : Nat) : List Char :=
  lead.toList ++ marginChars margin (i * c) ++ hexField c (chunkAt bytes c i) ++ [' ', '|', ' '] ++
    charColumn ascii (chunkAt bytes c i)

theorem toList_dumpLine (margin : Margin) (lead : String) {c : Nat} (start : Nat)
    {chunk : List UInt8} (hne : chunk ≠ []) (hc : chunk.length ≤ c) (ascii : Bool) :
    (dumpLine margin lead c start chunk ascii).toList =
      lead.toList ++ marginChars margin start ++ hexField c chunk ++ [' ', '|', ' '] ++
        charColumn ascii chunk ++ ['\n'] := by
  rw [← toList_hexText hne hc]
  unfold dumpLine marginChars charColumn
  cases margin <;> cases ascii <;> simp

/-- A dump, as text, is its lines, each followed by a newline. -/
theorem toList_hexdump (margin : Margin) (lead : String) (bytes : ByteArray) (columns : Nat)
    (ascii : Bool) :
    (hexdump margin lead bytes columns ascii).toList =
      (List.range (pieceCount bytes.toList.length (max columns 1))).flatMap fun i =>
        dumpLineOf margin lead bytes.toList (max columns 1) ascii i ++ ['\n'] := by
  have hc : 0 < max columns 1 := by omega
  unfold hexdump
  dsimp only
  rw [chunksOf_eq hc, List.length_map, List.length_range, ← List.map_prod_left_eq_zip,
    List.map_map, String.toList_join, List.flatMap_map]
  refine List.flatMap_congr fun i hi => ?_
  rw [List.mem_range] at hi
  simp only [Function.comp_apply]
  rw [toList_dumpLine _ _ _ (chunkAt_ne_nil hc hi) (length_chunkAt_le _ _ _)]
  rfl

/-- Every character of a margin is a hexadecimal digit, the colon or a space. -/
theorem mem_marginChars {margin : Margin} {s : Nat} {ch : Char} (h : ch ∈ marginChars margin s) :
    ch = ' ' ∨ ch = ':' ∨ ∃ d < 16, ch = digitChar false d := by
  unfold marginChars at h
  split at h
  · rcases List.mem_append.1 h with h | h
    · exact .inr (.inr (mem_hexLower h))
    · simp only [List.mem_cons, List.not_mem_nil, or_false] at h
      rcases h with rfl | rfl
      · exact .inr (.inl rfl)
      · exact .inl rfl
  · cases h

/-- The margin takes ten columns for an offset below `2 ^ 32`, and none without offsets. -/
theorem length_marginChars {margin : Margin} {s : Nat} (h : margin = .none ∨ s < 2 ^ 32) :
    (marginChars margin s).length = if margin = .offset then 10 else 0 := by
  unfold marginChars
  rcases h with rfl | h
  · rfl
  · split
    · rw [List.length_append, (length_hexLower_eight s).2 h]
      rfl
    · rfl

/-- A character that is neither a space nor a digit stands nowhere in a hex field. -/
theorem not_mem_hexField {ch : Char} (hspace : ch ≠ ' ')
    (hdigit : ∀ d < 16, digitChar false d ≠ ch) (c : Nat) (chunk : List UInt8) :
    ch ∉ hexField c chunk := by
  intro h
  rcases mem_hexField h with h | ⟨d, hd, h⟩
  · exact hspace h
  · exact hdigit d hd h.symm

/-- A character that is neither a space, the colon nor a digit stands nowhere in a margin. -/
theorem not_mem_marginChars {ch : Char} (hspace : ch ≠ ' ') (hcolon : ch ≠ ':')
    (hdigit : ∀ d < 16, digitChar false d ≠ ch) (margin : Margin) (s : Nat) :
    ch ∉ marginChars margin s := by
  intro h
  rcases mem_marginChars h with h | h | ⟨d, hd, h⟩
  · exact hspace h
  · exact hcolon h
  · exact hdigit d hd h.symm

/-- A byte shown in the character column is never a newline. -/
theorem shownChar_ne_newline (b : UInt8) : shownChar b ≠ '\n' := by
  unfold shownChar
  split
  · next h =>
    intro he
    have := congrArg Char.toNat he
    rw [Char.toNat_ofNat, if_pos (by omega)] at this
    simp at this
    omega
  · decide

theorem newline_not_mem_charColumn (ascii : Bool) (chunk : List UInt8) :
    '\n' ∉ charColumn ascii chunk := by
  unfold charColumn
  split
  · intro h
    obtain ⟨b, -, hb⟩ := List.mem_map.1 h
    exact shownChar_ne_newline b hb
  · exact List.not_mem_nil

/-! ### The layout of a dump -/

/-- The layout of the dump of `bytes` in lines of `c` slots: one line for each piece of `c` bytes,
made as `dumpLineOf` makes it, its offset and hex field written as follows, and its bar at one
column while offsets fit in eight digits. -/
structure Dumped (margin : Margin) (lead : String) (bytes : List UInt8) (c : Nat) (ascii : Bool)
    (text : List Char) : Prop where
  /-- The text is the lines, one for each piece of `c` bytes, each followed by a newline. -/
  lines : text = (List.range (pieceCount bytes.length c)).flatMap fun i =>
    dumpLineOf margin lead bytes c ascii i ++ ['\n']
  /-- No line holds a newline of its own. -/
  newline_free : ∀ i < pieceCount bytes.length c, '\n' ∉ dumpLineOf margin lead bytes c ascii i
  /-- The offset of line `i` is `i c` in lower-case hexadecimal digits, at least eight of them,
  and exactly eight when it is below `2 ^ 32`. -/
  offset : margin = .offset → ∀ i, ∃ o, marginChars margin (i * c) = o ++ [':', ' '] ∧
    readDigits 16 o = some (i * c) ∧ 8 ≤ o.length ∧ (o.length = 8 ↔ i * c < 2 ^ 32) ∧
    ∀ ch ∈ o, ∃ d < 16, ch = digitChar false d
  /-- Every hex field takes `3 c - 1` columns. -/
  field_length : ∀ i, (hexField c (chunkAt bytes c i)).length = 3 * c - 1
  /-- Reading the hex fields positionally, line by line, gives back the bytes. -/
  read_back : (List.range (pieceCount bytes.length c)).flatMap
    (fun i => readField (hexField c (chunkAt bytes c i))) = bytes
  /-- The bar of every line without an offset, or with an offset below `2 ^ 32`, stands at the
  same column. -/
  separator : ∀ i, (margin = .none ∨ i * c < 2 ^ 32) →
    (lead.toList ++ marginChars margin (i * c) ++ hexField c (chunkAt bytes c i)).length =
      lead.toList.length + (if margin = .offset then 10 else 0) + (3 * c - 1)

/-- **The layout of a dump.**  For any lead text without a newline, the dump of any bytes in
lines of any number of columns (none taken as one) is laid out as `Dumped` says. -/
theorem hexdump_dumped (margin : Margin) (lead : String) (hlead : '\n' ∉ lead.toList)
    (bytes : ByteArray) (columns : Nat) (ascii : Bool) :
    Dumped margin lead bytes.toList (max columns 1) ascii
      (hexdump margin lead bytes columns ascii).toList where
  lines := toList_hexdump margin lead bytes columns ascii
  newline_free i _ := by
    unfold dumpLineOf
    simp only [List.mem_append, not_or]
    have hdigit : ∀ d < 16, digitChar false d ≠ '\n' := fun _ hd => (digitChar_ne hd).1
    exact ⟨⟨⟨⟨hlead, not_mem_marginChars (by decide) (by decide) hdigit _ _⟩,
      not_mem_hexField (by decide) hdigit _ _⟩, by decide⟩, newline_not_mem_charColumn _ _⟩
  offset hm i := by
    refine ⟨(hexLower 8 (i * max columns 1)).toList, by simp [marginChars, hm],
      readDigits_hexLower _ _, eight_le_length_hexLower _, length_hexLower_eight _,
      fun _ h => mem_hexLower h⟩
  field_length i := length_hexField _ _
  read_back := by
    have hc : 0 < max columns 1 := by omega
    conv_rhs => rw [← flatMap_chunkAt hc bytes.toList]
    refine List.flatMap_congr fun i hi => ?_
    exact readField_hexField (chunkAt_ne_nil hc (List.mem_range.1 hi)) (length_chunkAt_le _ _ _)
  separator i h := by
    rw [List.length_append, List.length_append, length_marginChars h, length_hexField]

/-- **Dumps and their printing.**  Every dump is laid out as `Dumped` says, and printing writes
the dump when verbose and nothing otherwise. -/
theorem hexdump_layout (margin : Margin) (lead : String) (bytes : ByteArray) (columns : Nat)
    (ascii : Bool) (hlead : '\n' ∉ lead.toList) :
    Dumped margin lead bytes.toList (max columns 1) ascii
        (hexdump margin lead bytes columns ascii).toList ∧
      ∀ {W ε : Type} (writeAll : W → ByteArray → Except ε Unit × W) (out : W),
        printHexdump writeAll out true margin lead bytes columns ascii =
            writeAll out (hexdump margin lead bytes columns ascii).toUTF8 ∧
          printHexdump writeAll out false margin lead bytes columns ascii = (.ok (), out) :=
  ⟨hexdump_dumped margin lead hlead bytes columns ascii, fun _ _ => ⟨rfl, rfl⟩⟩

theorem hexdump_layout_sample :
    '\n' ∉ "  ".toList ∧
      Dumped .offset "  " (ByteArray.mk #[0x41, 0x42, 0x0a]).toList (max 2 1) true
        (hexdump .offset "  " ⟨#[0x41, 0x42, 0x0a]⟩ 2 true).toList :=
  ⟨by decide, (hexdump_layout .offset "  " ⟨#[0x41, 0x42, 0x0a]⟩ 2 true (by decide)).1⟩

/-! ### Offsets past eight digits -/

/-- Without a lead text or a character column, the bar of a line stands right after its margin
and its hex field. -/
theorem idxOf_bar_dumpLineOf (margin : Margin) (bytes : List UInt8) (c i : Nat) :
    (dumpLineOf margin "" bytes c false i).idxOf '|' =
      (marginChars margin (i * c)).length + (3 * c - 1) + 1 := by
  have hdigit : ∀ d < 16, digitChar false d ≠ '|' := fun _ hd => (digitChar_ne hd).2
  have hfield := not_mem_hexField (by decide) hdigit c (chunkAt bytes c i)
  have hmargin := not_mem_marginChars (by decide) (by decide) hdigit margin (i * c)
  have hempty : "".toList = [] := rfl
  unfold dumpLineOf charColumn
  simp only [hempty, List.nil_append, Bool.false_eq_true, if_false, List.append_nil]
  rw [List.idxOf_append, if_neg (by simp [hfield, hmargin]), List.length_append, length_hexField]
  have hbar : [' ', '|', ' '].idxOf '|' = 1 := rfl
  omega

/-- **The bar moves once offsets need nine digits.**  Dumping `2 ^ 32 + 1` zero bytes in lines of
`2 ^ 32` columns with offsets gives two lines, and the bar of the second, whose offset
`100000000` has nine digits, stands one column further right than the bar of the first. -/
theorem separator_moves_past_eight_digits :
    ∃ l₀ l₁ : List Char,
      (hexdump .offset "" ⟨Array.replicate (2 ^ 32 + 1) 0⟩ (2 ^ 32) false).toList =
        l₀ ++ ['\n'] ++ (l₁ ++ ['\n']) ∧ '\n' ∉ l₀ ∧ '\n' ∉ l₁ ∧
      l₀.idxOf '|' = 3 * 2 ^ 32 + 10 ∧ l₁.idxOf '|' = 3 * 2 ^ 32 + 11 := by
  have hd := hexdump_dumped .offset "" (by decide)
    ⟨Array.replicate (2 ^ 32 + 1) 0⟩ (2 ^ 32) false
  have hmax : max (2 ^ 32) 1 = 2 ^ 32 := by norm_num
  have hlen : (ByteArray.mk (Array.replicate (2 ^ 32 + 1) 0)).toList.length = 2 ^ 32 + 1 := by
    rw [ByteArray.toList_eq, Array.toList_replicate, List.length_replicate]
  have hcount : pieceCount (2 ^ 32 + 1) (2 ^ 32) = 2 := by
    unfold pieceCount
    norm_num
  rw [hmax] at hd
  -- the two lines, named without computing them
  have hlines := hd.lines
  rw [hlen, hcount, show List.range 2 = [0, 1] from rfl, List.flatMap_cons, List.flatMap_cons,
    List.flatMap_nil, List.append_nil] at hlines
  have hfree := hd.newline_free
  rw [hlen, hcount] at hfree
  -- the first offset is eight zeros, the second, `2 ^ 32`, takes nine digits
  have hwide : (hexLower 8 (2 ^ 32)).toList.length = 9 := by
    have h9 := (length_digitsOf_le_iff (r := 16) (by omega) 8 (2 ^ 32)).2 (by norm_num)
    have h8 := (length_digitsOf_le_iff (r := 16) (by omega) 7 (2 ^ 32)).not.2 (by norm_num)
    unfold hexLower padZeros
    rw [String.toList_ofList, List.length_append, List.length_replicate]
    omega
  refine ⟨_, _, hlines, hfree 0 (by omega), hfree 1 (by omega), ?_, ?_⟩
  · rw [idxOf_bar_dumpLineOf, Nat.zero_mul, marginChars, if_pos rfl, List.length_append,
      (length_hexLower_eight 0).2 (by norm_num)]
    rfl
  · rw [idxOf_bar_dumpLineOf, Nat.one_mul, marginChars, if_pos rfl, List.length_append, hwide]
    rfl

end Text

end TegraGpu
