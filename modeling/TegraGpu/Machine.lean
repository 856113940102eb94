import TegraGpu.Host.Device
import TegraGpu.Buffer.Basic
import TegraGpu.Folder
/-!
# The machine

Everything that the operations of the stack change lives in one `Machine`: the device, the
backing stores with their reference counts, the working directory and the journal of log
records.  An operation is an `Act`: it runs on the machine and ends with a value or an error;
what it changed before an error stays changed, as on the hardware.

* `Machine`, `Act` : the state and the operations on it.
* `Act.emit`, `Act.note` : writing log records.
* `Act.ofExcept` : a pure result as an operation.
-/

namespace TegraGpu

/-- The state that the operations of the stack change. -/
structure Machine where
  /-- The device. -/
  device : Host.Device := {}
  /-- The live backing stores. -/
  stores : Buffer.Stores := .empty
  /-- The working directory. -/
  folder : Folder := {}
  /-- The log records written so far. -/
  journal : Journal := #[]

/-- An operation on the machine. -/
abbrev Act := ExceptT Error (StateM Machine)

namespace Act

/-- Writes a log record. -/
def emit (r : Record) : Act Unit :=
  modify fun m => { m with journal := m.journal.push r }

/-- Writes a log record of a level and component. -/
def note (level : Level) (origin : Origin) (text : String) : Act Unit :=
  emit { level, origin, text }

/-- A pure result as an operation. -/
def ofExcept {α : Type} (r : Except Error α) : Act α :=
  match r with
  | .ok a => pure a
  | .error e => throw e

/-- Runs an operation on a machine. -/
def run' {α : Type} (act : Act α) (m : Machine) : Except Error α × Machine :=
  (ExceptT.run act).run m

end Act

end TegraGpu
