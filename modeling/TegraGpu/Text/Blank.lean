/-!
# Blank characters and trimming

The blank characters are those with the Unicode `White_Space` property: the ASCII controls
`U+0009` to `U+000D`, the space, `U+0085`, `U+00A0`, `U+1680`, `U+2000` to `U+200A`, the line and
paragraph separators `U+2028` and `U+2029`, `U+202F`, `U+205F` and `U+3000`.  Every text format of
this library (shader sources, command arguments, option files) trims and splits at these
characters, so they are defined once here.

* `isBlank` : the class, as a table of code points.
* `isBlank_of_isWhitespace` : core's ASCII notion of white space is contained in it.
* `trimStart`, `trimEnd`, `trim` : the trimmed forms of a character list.
-/

namespace TegraGpu.Text

/-- Whether `c` has the Unicode `White_Space` property. -/
def isBlank (c : Char) : Bool :=
  let n := c.toNat
  (0x09 ≤ n && n ≤ 0x0D) || n == 0x20 || n == 0x85 || n == 0xA0 || n == 0x1680 ||
    (0x2000 ≤ n && n ≤ 0x200A) || n == 0x2028 || n == 0x2029 || n == 0x202F ||
    n == 0x205F || n == 0x3000

theorem isBlank_of_isWhitespace {c : Char} (h : c.isWhitespace = true) : isBlank c = true := by
  simp only [Char.isWhitespace, Bool.or_eq_true, decide_eq_true_eq] at h
  have h9 : Char.toNat '\t' = 9 := rfl
  have h10 : Char.toNat '\n' = 10 := rfl
  have h13 : Char.toNat '\r' = 13 := rfl
  have h32 : Char.toNat ' ' = 32 := rfl
  rcases h with ((h | h) | h) | h <;> subst h <;> simp [isBlank, h9, h10, h13, h32]

/-- Drops the blank characters at the front. -/
def trimStart (cs : List Char) : List Char :=
  cs.dropWhile isBlank

/-- Drops the blank characters at the end. -/
def trimEnd (cs : List Char) : List Char :=
  (cs.reverse.dropWhile isBlank).reverse

/-- Drops the blank characters at both ends. -/
def trim (cs : List Char) : List Char :=
  trimEnd (trimStart cs)

/-- The text with its blank characters at both ends removed. -/
def trimText (s : String) : String :=
  String.ofList (trim s.toList)

end TegraGpu.Text
