/-!
# Wall-clock times as text

Times are counted in nanoseconds since the start of 1970 in UTC and written as RFC 3339 dates
with a `Z`: `YYYY-MM-DDTHH:MM:SS`, optionally followed by the fraction of the second, with as
many groups of three digits as needed.  The calendar is the proleptic Gregorian one; days are
turned into dates by counting 400-year eras from the first of March of the year 0, so that the
leap day falls at the end of the counted year.

* `civilOfDays` : the date of a day number.
* `rfc3339` : a time as text.
-/

namespace TegraGpu.Cli

/-- The year, month (1 to 12) and day (1 to 31) of the day that lies `days` days after the first
of January 1970. -/
def civilOfDays (days : Int) : Int × Nat × Nat :=
  let z := days + 719468
  let era := z / 146097
  let doe := (z - era * 146097).toNat
  let yoe := (doe - doe / 1460 + doe / 36524 - doe / 146096) / 365
  let doy := doe - (365 * yoe + yoe / 4 - yoe / 100)
  let mp := (5 * doy + 2) / 153
  let d := doy - (153 * mp + 2) / 5 + 1
  let m := if mp < 10 then mp + 3 else mp - 9
  let y := (yoe : Int) + era * 400 + (if m ≤ 2 then 1 else 0)
  (y, m, d)

/-- A number with at least `w` digits, zeros in front. -/
def padded (w n : Nat) : String :=
  let s := toString n
  String.ofList (List.replicate (w - s.length) '0') ++ s

/-- A time given in nanoseconds since 1970 as RFC 3339 text in UTC; with `fraction` the part of
the second follows in groups of three digits, as few as show it exactly. -/
def rfc3339 (nanos : Int) (fraction : Bool) : String :=
  let secs := nanos / 1000000000
  let sub := (nanos - secs * 1000000000).toNat
  let days := secs / 86400
  let inDay := (secs - days * 86400).toNat
  let (y, m, d) := civilOfDays days
  let year := if y < 0 then "-" ++ padded 4 y.natAbs else padded 4 y.toNat
  let frac :=
    if !fraction || sub = 0 then ""
    else if sub % 1000000 = 0 then "." ++ padded 3 (sub / 1000000)
    else if sub % 1000 = 0 then "." ++ padded 6 (sub / 1000)
    else "." ++ padded 9 sub
  year ++ "-" ++ padded 2 m ++ "-" ++ padded 2 d ++ "T" ++ padded 2 (inDay / 3600) ++ ":" ++
    padded 2 (inDay / 60 % 60) ++ ":" ++ padded 2 (inDay % 60) ++ frac ++ "Z"

end TegraGpu.Cli
