/-!
# TOML values

A TOML document is a table of keys and values.  Values are strings, integers, double-precision
floats (kept as their bits), booleans, dates and times (kept as their text), arrays and tables;
tables keep their keys in their order as texts.  An integer is kept whatever its
size up to the 128-bit ranges, and a number whose text gives no value of its kind (an integer
without digits or past those ranges, a float past the double-precision range) is kept as such,
so that reading it refuses it where it stands.  Every key and every value remembers the stretch
of the text it was read from, so that a message about it can point there.

* `Span` : a stretch of the text.
* `Value` : the values, with `Entry` the entries of a table.
-/

namespace TegraGpu.Toml

/-- A stretch of a document's text: the byte where it starts and the byte after its end. -/
structure Span where
  /-- The first byte. -/
  start : Nat
  /-- The byte after the last. -/
  stop : Nat
  deriving DecidableEq, Inhabited

/-- The two kinds of number. -/
inductive NumberKind where
  /-- Integers. -/
  | integer
  /-- Floats. -/
  | float
  deriving DecidableEq

/-- A TOML value. -/
inductive Value where
  /-- A string. -/
  | string (s : String)
  /-- An integer, from `-2 ^ 127` to `2 ^ 128 - 1`. -/
  | integer (n : Int)
  /-- A double-precision float, by its bits. -/
  | float (bits : UInt64)
  /-- A boolean. -/
  | boolean (b : Bool)
  /-- A date, a time or both, as written. -/
  | datetime (text : String)
  /-- A number whose text gives no value of its kind. -/
  | overflow (kind : NumberKind)
  /-- An array, each item with its stretch of text. -/
  | array (items : List (Value × Span))
  /-- A table, keys in document order, each with the stretches of the key and of the value. -/
  | table (entries : List (String × Span × Value × Span))

/-- An entry of a table: the key, its stretch, the value and its stretch. -/
abbrev Entry := String × Span × Value × Span

end TegraGpu.Toml
