import TegraGpu.Intercept.Registry
/-!
# Sample file handlers

Three behaviours for wrapped files, enough to exercise the registry: a plain file that supports
no call, a loopback file whose reads return what was written to it, and a file that refuses to
be opened.  The loopback's control call fails on request zero and otherwise reverses its
argument bytes and answers the request modulo 1000 plus the descriptor the file was opened
with.

* `Behaviour`, `Behaviour.start` : the behaviours and opening a file with one.
* `Handler.read`, `Handler.write`, `Handler.control` : the calls.
-/

namespace TegraGpu.Intercept

/-- Why a call on a file failed. -/
inductive IoKind where
  /-- The file does not support the call. -/
  | unsupported
  /-- The call's argument is refused. -/
  | invalidInput
  deriving DecidableEq

/-- The name of a failure kind. -/
def IoKind.name : IoKind → String
  | .unsupported => "Unsupported"
  | .invalidInput => "InvalidInput"

/-- The behaviours of a wrapped file. -/
inductive Behaviour where
  /-- Supports no call. -/
  | plain
  /-- Reads give back what was written. -/
  | loopback
  /-- Opening fails. -/
  | refusing
  deriving DecidableEq

/-- The state of an opened file. -/
structure Handler where
  /-- How it answers calls. -/
  behaviour : Behaviour
  /-- The descriptor it was opened with. -/
  fd : Int
  /-- Bytes written and not yet read. -/
  pending : ByteArray := ByteArray.empty

/-- Opens a file with a behaviour; a refusing behaviour fails with the reason `refused`. -/
def Behaviour.start (b : Behaviour) (_path : String) (fd : Int) : Except String Handler :=
  match b with
  | .refusing => .error "refused"
  | b => .ok { behaviour := b, fd }

namespace Handler

/-- Reads at most `len` pending bytes. -/
def read (h : Handler) (len : Nat) : Handler × Except IoKind ByteArray :=
  match h.behaviour with
  | .loopback =>
    let n := min len h.pending.size
    ({ h with pending := h.pending.extract n h.pending.size }, .ok (h.pending.extract 0 n))
  | _ => (h, .error .unsupported)

/-- Writes bytes, all of them. -/
def write (h : Handler) (data : ByteArray) : Handler × Except IoKind Nat :=
  match h.behaviour with
  | .loopback => ({ h with pending := h.pending ++ data }, .ok data.size)
  | _ => (h, .error .unsupported)

/-- A control call: gives the answer and the argument bytes after the call. -/
def control (h : Handler) (request : Nat) (arg : ByteArray) :
    Handler × Except IoKind (Int × ByteArray) :=
  match h.behaviour with
  | .loopback =>
    if request = 0 then (h, .error .invalidInput)
    else (h, .ok ((request % 1000 : Nat) + h.fd, ⟨arg.data.reverse⟩))
  | _ => (h, .error .unsupported)

end Handler

end TegraGpu.Intercept
