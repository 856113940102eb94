/-!
# Dates and times of a TOML document

A bare value whose first digits go on with `-` or `:` is a date, a time, or both, in the forms
of RFC 3339:

* a date `YYYY-MM-DD`, with a month from 01 to 12 and a day within the month, February having
  29 days in a leap year;
* a time `HH:MM`, with `:SS` and then a fraction `.DDD…` if any, hours to 23, minutes to 59 and
  seconds to 60;
* a date and a time, between them `T`, `t` or one blank, and an offset if any: `Z`, `z`, or
  `+HH:MM` or `-HH:MM` with hours to 23 and minutes to 59.

The text is cut into pieces (runs of digits and single signs) and read piece by piece.  Each
piece is first checked for its kind, and only when all the pieces of a part are there are their
widths and then their ranges checked, so that a refusal names the first of these that fails.

* `DatetimeFault` : what is wrong, in the words a refusal uses.
* `readDatetime` : the reading, `none` when the text is a date, a time or both.
-/

namespace TegraGpu.Toml

/-- The piece of a date and time a refusal is about. -/
inductive DatetimePart where
  | date
  | time
  | dateTime
  | offset

/-- How a refusal names a piece. -/
def DatetimePart.name : DatetimePart → String
  | .date => "date"
  | .time => "time"
  | .dateTime => "date-time"
  | .offset => "offset"

/-- Why a text is no date and time: the piece that is wrong, if one is named, and what was
expected there, if that is said. -/
structure DatetimeFault where
  /-- The piece. -/
  part : Option DatetimePart
  /-- What would have done. -/
  expected : Option String

/-- The words of a refusal: `invalid` and the piece, or `datetime` when no piece is named, then
`expected` and what would have done, if that is said. -/
def DatetimeFault.message (f : DatetimeFault) : String :=
  let what := "invalid " ++ (f.part.map DatetimePart.name).getD "datetime"
  match f.expected with
  | some e => what ++ ", expected " ++ e
  | none => what

/-- The pieces a date and time is cut into. -/
inductive DatetimePiece where
  /-- A run of digits. -/
  | digits (ds : List Char)
  | dash
  | colon
  | dot
  /-- `T` or `t`. -/
  | tee
  | space
  /-- `Z` or `z`. -/
  | zulu
  | plus
  /-- Anything else, which takes the rest of the text. -/
  | other
  deriving DecidableEq

/-- Cuts a text into pieces; digits that follow each other are one piece. -/
def datetimePieces : List Char → List DatetimePiece
  | [] => []
  | c :: r =>
    if c.isDigit then
      match datetimePieces r with
      | .digits ds :: rest => .digits (c :: ds) :: rest
      | rest => .digits [c] :: rest
    else if c = '-' then .dash :: datetimePieces r
    else if c = ':' then .colon :: datetimePieces r
    else if c = '.' then .dot :: datetimePieces r
    else if c = 'T' || c = 't' then .tee :: datetimePieces r
    else if c = ' ' then .space :: datetimePieces r
    else if c = 'Z' || c = 'z' then .zulu :: datetimePieces r
    else if c = '+' then .plus :: datetimePieces r
    else [.other]

namespace Datetime

/-- Reading pieces, refusing at the first fault. -/
abbrev Reader := StateT (List DatetimePiece) (Except DatetimeFault)

/-- Refuses with a piece and what was expected. -/
def fail {α : Type} (part : Option DatetimePart) (expected : String) : Reader α :=
  throw ⟨part, some expected⟩

/-- The next piece, which must be one run of digits. -/
def digits (part : Option DatetimePart) (expected : String) : Reader (List Char) := do
  match ← get with
  | .digits ds :: rest => set rest; pure ds
  | _ :: rest => set rest; fail part expected
  | [] => fail part expected

/-- The next piece, which must be a given sign. -/
def sign (p : DatetimePiece) (part : Option DatetimePart) (expected : String) : Reader Unit := do
  match ← get with
  | q :: rest => set rest; if q = p then pure () else fail part expected
  | [] => fail part expected

/-- Takes the next piece if it is a given sign. -/
def sign? (p : DatetimePiece) : Reader Bool := do
  match ← get with
  | q :: rest => if q = p then do set rest; pure true else pure false
  | [] => pure false

/-- The number digits spell. -/
def number (ds : List Char) : Nat := ds.foldl (fun n d => n * 10 + (d.toNat - '0'.toNat)) 0

/-- Whether a year is a leap year. -/
def isLeap (year : Nat) : Bool := year % 4 = 0 && (year % 100 ≠ 0 || year % 400 = 0)

/-- The days of a month from 1 to 12. -/
def monthDays (year month : Nat) : Nat :=
  if month = 2 then (if isLeap year then 29 else 28)
  else if month = 4 || month = 6 || month = 9 || month = 11 then 30
  else 31

/-- Reads a date after its year and its dash. -/
def date (year : List Char) : Reader Unit := do
  let month ← digits (some .date) "month"
  sign .dash (some .date) "`-` (MM-DD)"
  let day ← digits (some .date) "day"
  if year.length ≠ 4 then fail (some .date) "a four-digit year (YYYY)"
  if month.length ≠ 2 then fail (some .date) "a two-digit month (MM)"
  if day.length ≠ 2 then fail (some .date) "a two-digit day (DD)"
  let m := number month
  if m < 1 || 12 < m then fail (some .date) "month between 01 and 12"
  let most := monthDays (number year) m
  let d := number day
  if d < 1 || most < d then fail (some .date) ("day between 01 and " ++ toString most)

/-- Reads a time. -/
def time : Reader Unit := do
  let hour ← digits (some .time) "hour"
  sign .colon (some .time) "`:` (HH:MM)"
  let minute ← digits (some .time) "minute"
  let second ← if ← sign? .colon then some <$> digits (some .time) "second" else pure none
  if second.isSome then
    if ← sign? .dot then
      discard <| digits (some .time) "nanosecond"
  if hour.length ≠ 2 then fail (some .time) "a two-digit hour (HH)"
  if minute.length ≠ 2 then fail (some .time) "a two-digit minute (MM)"
  if let some s := second then
    if s.length ≠ 2 then fail (some .time) "a two-digit second (SS)"
  if 23 < number hour then fail (some .time) "hour between 00 and 23"
  if 59 < number minute then fail (some .time) "minute between 00 and 59"
  if 60 < number (second.getD []) then fail (some .time) "second between 00 and 60"

/-- Reads the offset after a date and a time, if there is one. -/
def offset : Reader Unit := do
  match ← get with
  | [] => pure ()
  | .zulu :: rest => set rest
  | p :: rest =>
    if p = .plus || p = .dash then do
      set rest
      let hours ← digits (some .offset) "hour"
      sign .colon (some .offset) "`:` (HH:MM)"
      let minutes ← digits (some .offset) "minute"
      if hours.length ≠ 2 then fail (some .offset) "a two-digit hour (HH)"
      if minutes.length ≠ 2 then fail (some .offset) "a two-digit minute (MM)"
      if 23 < number hours then fail (some .offset) "hours between 00 and 23"
      if 59 < number minutes then fail (some .offset) "minutes between 00 and 59"
    else fail (some .offset) "`Z`, +OFFSET, -OFFSET"

/-- Reads a whole date and time: a date, then a time and an offset if any; or a time. -/
def whole : Reader Unit := do
  let start ← get
  let first ← digits none "year or hour"
  match ← get with
  | .dash :: rest => do
    set rest
    date first
    match ← get with
    | [] => pure ()
    | p :: rest =>
      if p = .tee || p = .space then do
        set rest
        time
        offset
      else fail (some .dateTime) "`T` between date and time"
  | .colon :: _ => do
    set start
    time
  | _ => fail none "`-` (YYYY-MM) or `:` (HH:MM)"
  if !(← get).isEmpty then throw ⟨none, none⟩

end Datetime

/-- Reads a date and time; `none` when the text is one, else why it is not. -/
def readDatetime (text : List Char) : Option DatetimeFault :=
  match (Datetime.whole.run (datetimePieces text)) with
  | .ok _ => none
  | .error f => some f

end TegraGpu.Toml
