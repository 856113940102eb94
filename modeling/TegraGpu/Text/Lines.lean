/-!
# Lines of a text

A text is cut into lines at each line feed.  A line that ended with a line feed loses one carriage
return before it, so `"a\r\nb"` and `"a\nb"` have the same lines; a carriage return at the very end
of the text, with no line feed after it, stays.  A line feed at the end of the text does not start
another, empty line, and the empty text has no lines at all.

* `linesOf` : the lines as character lists.
* `linesOf_nil` and `linesOf_newline` : the two rules at the ends of a text.
-/

namespace TegraGpu.Text

/-- The pieces of `cs` between line feeds, each with the flag saying whether a line feed ended
it.  The last piece is never ended by one. -/
def pieces : List Char → List (List Char × Bool)
  | [] => [([], false)]
  | c :: cs =>
    if c = '\n' then ([], true) :: pieces cs
    else
      match pieces cs with
      | [] => [([c], false)]
      | (p, e) :: rest => (c :: p, e) :: rest

/-- Drops one carriage return at the end of a line that a line feed ended. -/
def chopReturn : List Char × Bool → List Char
  | (p, true) => if p.getLast? = some '\r' then p.dropLast else p
  | (p, false) => p

/-- The lines of a text, without their line ends. -/
def linesOf (cs : List Char) : List (List Char) :=
  let ps := pieces cs
  let ps := match ps.getLast? with
    | some ([], false) => ps.dropLast
    | _ => ps
  ps.map chopReturn

theorem linesOf_nil : linesOf [] = [] := rfl

theorem linesOf_newline : linesOf ['a', '\n'] = [['a']] := by decide

/-- The lines of a text, as strings. -/
def lines (s : String) : List String :=
  (linesOf s.toList).map String.ofList

end TegraGpu.Text
