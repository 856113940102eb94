import TegraGpu.Bench.Test
import TegraGpu.Chip
/-!
# Reports of test runs

A report records a run for later reading: when it ran, the three shader paths, the pixel found
and the one expected (as `0x` and eight upper-case hexadecimal digits), whether they agree and
the chip.  It is written as a JSON object with one field a line, indented by two spaces, in that
order.  Strings escape the quote, the backslash and the control characters; everything else is
kept as it is.

* `Report`, `Report.ofOutcome` : reports.
* `Report.render`, `Report.write` : the JSON text, and writing it.
-/

namespace TegraGpu.Bench

/-- A report of a run. -/
structure Report where
  /-- When the run happened. -/
  timestamp : String
  /-- The vertex shader's path. -/
  vs : String
  /-- The fragment shader's path. -/
  fs : String
  /-- The linker shader's path. -/
  linker : String
  /-- The pixel found. -/
  result : UInt32
  /-- The pixel expected. -/
  expected : Option UInt32
  /-- Whether the run passed. -/
  passed : Bool
  /-- The chip it ran on. -/
  chip : Chip

/-- The report of a run of a test on a chip. -/
def Report.ofOutcome (timestamp : String) (t : Test) (o : Outcome) (chip : Chip) : Report :=
  { timestamp, vs := t.vsPath, fs := t.fsPath, linker := t.linkerPath, result := o.result,
    expected := o.expected, passed := o.passed, chip }

/-- A character as it stands inside a JSON string. -/
def escapeChar (c : Char) : String :=
  if c = '"' then "\\\""
  else if c = '\\' then "\\\\"
  else if c = '\n' then "\\n"
  else if c = '\r' then "\\r"
  else if c = '\t' then "\\t"
  else if c = '\x08' then "\\b"
  else if c = '\x0c' then "\\f"
  else if c.toNat < 0x20 then "\\u00" ++ Text.hexLower 2 c.toNat
  else c.toString

/-- A JSON string. -/
def jsonString (s : String) : String :=
  "\"" ++ String.join (s.toList.map escapeChar) ++ "\""

/-- The report as indented JSON. -/
def Report.render (r : Report) : String :=
  let fields : List (String × String) :=
    [("timestamp", jsonString r.timestamp), ("vs", jsonString r.vs), ("fs", jsonString r.fs),
      ("linker", jsonString r.linker), ("result", jsonString (Text.wordHex r.result)),
      ("expected", match r.expected with
        | some e => jsonString (Text.wordHex e)
        | none => "null"),
      ("passed", if r.passed then "true" else "false"), ("chip", jsonString r.chip.name)]
  "\x7b\n" ++ ",\n".intercalate (fields.map fun (k, v) => "  " ++ jsonString k ++ ": " ++ v) ++
    "\n\x7d"

/-- Writes the report to a file and says so. -/
def Report.write (r : Report) (path : String) : Act Unit := do
  let m ← get
  match m.folder.write path r.render with
  | .error e => throw (.io e)
  | .ok folder =>
    set { m with folder }
    Act.note .info .bench ("Wrote test report to " ++ path)

end TegraGpu.Bench
