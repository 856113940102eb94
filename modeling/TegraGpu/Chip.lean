import TegraGpu.Machine
import TegraGpu.Text.Blank
/-!
# Chip identification

The SoC generation is read from the first readable file of a list: its text, after leading
blanks, starts with the decimal chip number.  A file that does not start with a number below
`2^32` warns and counts as number zero, which is no known chip.  When no file is readable the
chip is unknown and an error is logged.  The answer is found once per resolver and remembered.

* `Chip`, `Chip.ofRaw`, `Chip.name` : the known generations.
* `leadingDecimal?` : the number at the start of a text.
* `Resolver`, `Resolver.resolve` : the remembered lookup.
-/

namespace TegraGpu

open Act

/-- The SoC generations. -/
inductive Chip where
  | tegra20
  | tegra30
  | tegra114
  | unknown
  deriving DecidableEq

/-- The generation of a chip number. -/
def Chip.ofRaw (raw : Nat) : Chip :=
  if raw = 0x20 then .tegra20
  else if raw = 0x30 then .tegra30
  else if raw = 0x35 then .tegra114
  else .unknown

/-- The name of a generation. -/
def Chip.name : Chip → String
  | .tegra20 => "Tegra20"
  | .tegra30 => "Tegra30"
  | .tegra114 => "Tegra114"
  | .unknown => "unknown"

/-- The decimal number at the start of a text, after leading blanks, if it is below `2^32`. -/
def leadingDecimal? (text : String) : Option Nat :=
  let digits := (Text.trimStart text.toList).takeWhile Char.isDigit
  (Text.readWord? 10 digits).map UInt32.toNat

/-- The system files that give the chip number, in the order they are tried. -/
def systemChipPaths : List String :=
  ["/sys/module/tegra_fuse/parameters/tegra_chip_id", "/sys/module/fuse/parameters/tegra_chip_id",
    "/sys/devices/soc0/soc_id"]

/-- A chip lookup over a list of files, remembering its answer. -/
structure Resolver where
  /-- The files tried, in order. -/
  paths : List String
  /-- The answer, once found. -/
  cached : Option Chip := none

/-- The chip of the first readable file, warning when its text is no number. -/
def chipOfFiles (folder : Folder) : List String → Act (Option Chip)
  | [] => pure none
  | path :: rest =>
    match folder.read path with
    | .error _ => chipOfFiles folder rest
    | .ok text =>
      match leadingDecimal? text with
      | some raw => pure (some (Chip.ofRaw raw))
      | none => do
        note .warn .chip ("failed to parse chip id from " ++ path)
        pure (some (Chip.ofRaw 0))

/-- The chip, looked up on the first call and remembered after. -/
def Resolver.resolve (r : Resolver) : Act (Chip × Resolver) := do
  match r.cached with
  | some c => pure (c, r)
  | none =>
    let found ← chipOfFiles (← get).folder r.paths
    let c ← match found with
      | some c => pure c
      | none => do
        note .error .chip "failed to identify SoC version"
        pure .unknown
    note .debug .chip ("SoC version: " ++ c.name)
    pure (c, { r with cached := some c })

end TegraGpu
