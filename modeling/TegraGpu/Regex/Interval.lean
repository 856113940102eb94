/-!
# Sets of code points as ranges

A character class of a pattern is a set of code points, kept as a list of inclusive ranges.
The canonical form sorts the ranges and joins those that overlap or touch, so that two
canonical lists of the same set are equal and the empty set is the empty list.  The set
operations of bracketed classes (union, intersection, difference, symmetric difference and
complement up to a largest code point) all give canonical lists.

* `Ranges`, `Ranges.contains` : a set and its membership test.
* `Ranges.canonical` : the canonical form.
* `Ranges.union`, `Ranges.inter`, `Ranges.negate`, `Ranges.diff`, `Ranges.symDiff` : the
  operations.
* `Ranges.foldAscii` : the set closed under changing the case of ASCII letters.
-/

namespace TegraGpu.Regex

/-- A set of code points as inclusive ranges. -/
abbrev Ranges := List (Nat × Nat)

namespace Ranges

/-- Whether a code point lies in one of the ranges. -/
def contains (rs : Ranges) (n : Nat) : Bool :=
  rs.any fun (a, b) => a ≤ n && n ≤ b

/-- Joins the ranges of a list sorted by start: a range that overlaps or touches the last one
kept extends it. -/
def joinSorted : Ranges → Ranges
  | [] => []
  | [r] => [r]
  | (a, b) :: (c, d) :: rest =>
    if c ≤ b + 1 then joinSorted ((a, max b d) :: rest)
    else (a, b) :: joinSorted ((c, d) :: rest)
termination_by rs => rs.length

/-- The canonical form: empty ranges dropped, sorted by start, overlapping and touching ranges
joined. -/
def canonical (rs : Ranges) : Ranges :=
  joinSorted ((rs.filter fun (a, b) => a ≤ b).mergeSort fun x y => x.1 ≤ y.1)

/-- The union of two sets. -/
def union (rs ss : Ranges) : Ranges := canonical (rs ++ ss)

/-- The intersection of two sets. -/
def inter (rs ss : Ranges) : Ranges :=
  canonical (rs.flatMap fun (a, b) => ss.map fun (c, d) => (max a c, min b d))

/-- The gaps of a canonical list from `lo` up to `top`. -/
def gaps (top lo : Nat) : Ranges → Ranges
  | [] => if lo ≤ top then [(lo, top)] else []
  | (a, b) :: rest =>
    let tail := gaps top (b + 1) rest
    if lo < a then (lo, a - 1) :: tail else tail

/-- The complement of a set among the code points up to `top`. -/
def negate (top : Nat) (rs : Ranges) : Ranges :=
  gaps top 0 (canonical rs)

/-- The code points of the first set that are not in the second. -/
def diff (top : Nat) (rs ss : Ranges) : Ranges :=
  inter rs (negate top ss)

/-- The code points in exactly one of two sets. -/
def symDiff (top : Nat) (rs ss : Ranges) : Ranges :=
  diff top (union rs ss) (inter rs ss)

/-- Whether every code point of the set is ASCII. -/
def isAscii (rs : Ranges) : Bool :=
  rs.all fun (_, b) => b ≤ 0x7F

/-- The set with the other case of each ASCII letter in it added. -/
def foldAscii (rs : Ranges) : Ranges :=
  let upper := inter rs [(0x41, 0x5A)]
  let lower := inter rs [(0x61, 0x7A)]
  canonical (rs ++ upper.map (fun (a, b) => (a + 32, b + 32)) ++
    lower.map (fun (a, b) => (a - 32, b - 32)))

end Ranges

end TegraGpu.Regex
