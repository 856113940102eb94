import TegraGpu.Options
import TegraGpu.Toml.Decode
import TegraGpu.Machine
/-!
# Reading options

Options are read from a TOML table with the keys `fullscreen`, `vsync` and `verbose`
(booleans) and `x`, `y`, `width` and `height` (32-bit words); a left-out key keeps its default,
and any other key, or a value of another type, refuses the text.  The entries are read in the
order of their keys, so the first of them that is wrong is the one reported.

* `Options.ofToml` : options from TOML text.
* `Options.load` : options from a file, logged when read.
-/

namespace TegraGpu

open Toml

/-- The keys of options, in the order of the fields. -/
def optionKeys : List String := ["fullscreen", "vsync", "x", "y", "width", "height", "verbose"]

/-- Sets the field of an entry of an options table. -/
def Options.setEntry (o : Options) (e : Entry) : Except Fault Options :=
  let (k, ks, v, vs) := e
  match k with
  | "fullscreen" => do pure { o with fullscreen := ← v.readBool vs }
  | "vsync" => do pure { o with vsync := ← v.readBool vs }
  | "x" => do pure { o with x := ← v.readWord vs }
  | "y" => do pure { o with y := ← v.readWord vs }
  | "width" => do pure { o with width := ← v.readWord vs }
  | "height" => do pure { o with height := ← v.readWord vs }
  | "verbose" => do pure { o with verbose := ← v.readBool vs }
  | _ => .error (unknownField k ks optionKeys)

/-- Options from a TOML table: the defaults, with the entries set in the order of their keys. -/
def Options.ofTable (t : List Entry) : Except Fault Options :=
  (sortedEntries t).foldlM Options.setEntry {}

/-- Options from TOML text; anything wrong with the text is a configuration error that shows
where. -/
def Options.ofToml (text : String) : Except Error Options :=
  match readDocument text >>= Options.ofTable with
  | .ok o => .ok o
  | .error f => .error (.config (f.render text))

/-- Options read from a file of the working directory. -/
def Options.load (path : String) : Act Options := do
  let text ← match (← get).folder.read path with
    | .ok text => pure text
    | .error e => throw (.io e)
  let o ← Act.ofExcept (Options.ofToml text)
  Act.note .debug .options ("Loaded options from " ++ path ++ ": " ++ o.debugText)
  pure o

end TegraGpu
