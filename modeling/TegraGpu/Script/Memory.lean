import TegraGpu.Script.Session
import TegraGpu.Host.Calls
/-!
# Scripted sessions: the device, buffers and mappings

Steps on the device itself, on named buffers and on named mappings.  A mapping holds its own
reference to the buffer's store, so the store outlives the buffer's name until the mapping
ends.  Reading or writing a buffer maps it for the time of the copy; a write that does not fit
fails after the mapping has ended.

* `bufferCreate`, `bufferMap`, `bufferWrite` … : the steps that do more than one call.
-/

namespace TegraGpu.Script

open Buffer Session

/-- The handle of a number. -/
def handleOf (n : Nat) : Host.Handle := ⟨n.toUInt32⟩

/-- Sets the device's byte budget. -/
def setMemoryLimit (limit : Option Nat) : StepM Reply := do
  modify fun s => { s with machine.device.limit := limit }
  pure .nothing

/-- Makes the device refuse or allow mappings. -/
def setMapFailure (fail : Bool) : StepM Reply := do
  modify fun s => { s with machine.device.failMaps := fail }
  pure .nothing

/-- The device's counts and invalidations. -/
def hostStats : StepM Reply := do
  let d := (← get).machine.device
  pure (.stats d.live d.bytes d.invalidations)

/-- Copies bytes into a view at an offset, failing when they do not fit. -/
def copyInto (v : View) (offset : Nat) (data : ByteArray) : StepM Unit := do
  if v.size < offset + data.size then throw .outsideMapping
  lift (v.writeBytes offset data)

/-- Creates a buffer. -/
def bufferCreate (name : String) (size : Nat) (flags : Flags) : StepM Reply := do
  let v ← lift (allocate size flags)
  putBuffer name v
  pure (.buffer (← bufferInfo v))

/-- Creates a buffer holding bytes. -/
def bufferFromData (name : String) (data : ByteArray) (flags : Flags) : StepM Reply := do
  let v ← lift (allocateWith flags data)
  putBuffer name v
  pure (.buffer (← bufferInfo v))

/-- Stores a view of a buffer from an offset on. -/
def bufferWrap (buffer : String) (offset : Nat) (name : String) : StepM Reply := do
  let w ← lift ((← Session.buffer buffer).wrap offset)
  putBuffer name w
  pure (.buffer (← bufferInfo w))

/-- Stores a second reference to a buffer. -/
def bufferClone (buffer name : String) : StepM Reply := do
  let v ← Session.buffer buffer
  lift v.retain
  putBuffer name v
  pure (.buffer (← bufferInfo v))

/-- Forgets a buffer's name and gives back its reference. -/
def bufferFree (buffer : String) : StepM Reply := do
  let v ← Session.buffer buffer
  modify fun s => { s with buffers := eraseNamed s.buffers buffer }
  lift v.release
  pure .nothing

/-- The bytes of a buffer, read through a mapping. -/
def bufferRead (buffer : String) : StepM Reply := do
  let v ← Session.buffer buffer
  let data ← lift <| v.withMap do
    pure (v.bytes (← get))
  pure (.blob data)

/-- Writes bytes into a buffer through a mapping; there is no invalidation. -/
def bufferWrite (buffer : String) (offset : Nat) (data : ByteArray) : StepM Reply := do
  let v ← Session.buffer buffer
  lift v.map
  if v.size < offset + data.size then
    lift v.unmap
    throw .outsideMapping
  lift (v.writeBytes offset data)
  lift v.unmap
  pure .nothing

/-- Maps a buffer and keeps the mapping, with its own reference, under a name. -/
def bufferMap (buffer name : String) : StepM Reply := do
  let v ← Session.buffer buffer
  lift v.retain
  lift (try v.map catch e => do v.release; throw e)
  putMapping name v
  pure (.mapping v.size)

/-- Ends a mapping. -/
def bufferUnmap (mapping : String) : StepM Reply := do
  let v ← Session.mapping mapping
  modify fun s => { s with mappings := eraseNamed s.mappings mapping }
  lift (unmapRelease v)
  pure .nothing

end TegraGpu.Script
