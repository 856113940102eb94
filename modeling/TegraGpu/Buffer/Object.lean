import TegraGpu.Host.Calls
/-!
# Operations on buffer objects

A view is made by allocating a new backing store, by cloning a view, or by wrapping one at an
offset; each of these adds a reference to the store, and releasing a view removes one.  When the
last reference goes the store is released and the device frees the allocation.  Mapping a view
marks its store mapped, so that a second mapping of any view of the same store is refused until
the first is undone.

* `allocate`, `allocateWith` : new stores, empty or holding given bytes.
* `View.retain`, `View.release`, `View.wrap` : references.
* `View.map`, `View.unmap`, `View.withMap` : the mapping flag of the store, and a mapping for
  the time of an operation.
* `View.invalidate` : an invalidation clamped to the view.
* `View.bytes`, `View.writeBytes`, `View.readWord` : the bytes that a view sees.
-/

namespace TegraGpu.Buffer

open Host Act

/-- The store of a key. -/
def storeOf? (m : Machine) (k : Nat) : Option Store :=
  m.stores.find? k

/-- Changes the store of a key. -/
def updateStore (k : Nat) (f : Store → Store) : Act Unit :=
  modify fun m => { m with stores := m.stores.modify k f }

/-- Allocates a new store of `size` bytes, two-byte aligned, and a view of all of it. -/
def allocate (size : Nat) (flags : Flags) : Act View := do
  let h ← Host.create size 2
  note .debug .buffer
    ("Created " ++ h.label ++ " (" ++ toString size ++ " bytes, " ++ flags.debugText ++ ")")
  let k ← modifyGet fun m =>
    let (k, stores) := m.stores.add { handle := h, size, refs := 1 }
    (k, { m with stores })
  pure { store := k, handle := h, offset := 0, size, flags }

/-- Adds a reference to the view's store. -/
def View.retain (v : View) : Act Unit :=
  updateStore v.store fun s => { s with refs := s.refs + 1 }

/-- Removes a reference to the view's store; the last one releases the store and frees its
allocation. -/
def View.release (v : View) : Act Unit := do
  match storeOf? (← get) v.store with
  | none => pure ()
  | some s =>
    if s.refs ≤ 1 then
      modify fun m => { m with stores := m.stores.erase v.store }
      note .debug .buffer
        ("Releasing " ++ s.handle.label ++ " (" ++ toString s.size ++ " bytes)")
      Host.free s.handle
    else updateStore v.store fun s => { s with refs := s.refs - 1 }

/-- A new view of the same store from `offset` on, holding its own reference. -/
def View.wrap (v : View) (offset : Nat) : Act View := do
  if v.size ≤ offset then throw (.range offset v.size)
  let w : View := { v with offset := v.offset + offset, size := v.size - offset }
  w.retain
  pure w

/-- Whether the view's store is mapped. -/
def View.isMapped (m : Machine) (v : View) : Bool :=
  match storeOf? m v.store with
  | some s => s.mapped
  | none => false

/-- Maps the view: refused while the store is mapped, and when the device refuses. -/
def View.map (v : View) : Act Unit := do
  let m ← get
  if View.isMapped m v then throw (.map (.alreadyMapped v.handle))
  try Host.mmap v.handle catch e => do
    note .error .buffer ("Failed to mmap BO: " ++ e.message)
    throw e
  updateStore v.store fun s => { s with mapped := true }

/-- Ends the mapping of the view's store. -/
def View.unmap (v : View) : Act Unit :=
  updateStore v.store fun s => { s with mapped := false }

/-- Runs `body` while the view is mapped.  The mapping ends when `body` returns and also when it
fails; when the view cannot be mapped, `body` does not run. -/
def View.withMap {α : Type} (v : View) (body : Act α) : Act α := do
  v.map
  let x ← tryCatch body fun e => do
    v.unmap
    throw e
  v.unmap
  pure x

/-- Invalidates the first `size` bytes of the view, at most all of it. -/
def View.invalidate (v : View) (size : Nat) : Act Unit :=
  Host.invalidate v.handle v.offset (min size v.size)

/-- The bytes that the view sees. -/
def View.bytes (m : Machine) (v : View) : ByteArray :=
  match m.device.storage? v.handle with
  | some data => data.extract v.offset (v.offset + v.size)
  | none => ByteArray.empty

/-- Copies `src` into the view from `pos` on. -/
def View.writeBytes (v : View) (pos : Nat) (src : ByteArray) : Act Unit :=
  modify fun m =>
    match m.device.modifyStorage v.handle
        (fun data => (src.copySlice 0 data (v.offset + pos) src.size, ())) with
    | some ((), d) => { m with device := d }
    | none => m

/-- Applies `f` to the storage of the view's allocation; `f` is given the view's offset. -/
def View.modifyStorage {α : Type} (v : View) (dflt : α) (f : ByteArray → ByteArray × α) :
    Act α :=
  modifyGet fun m =>
    match m.device.modifyStorage v.handle f with
    | some (a, d) => (a, { m with device := d })
    | none => (dflt, m)

/-- The little-endian word at `pos` in a byte array, if four bytes are there. -/
def wordAt (data : ByteArray) (pos : Nat) : Option UInt32 :=
  if h : pos + 4 ≤ data.size then
    some (data[pos].toUInt32 ||| (data[pos + 1].toUInt32 <<< 8) |||
      (data[pos + 2].toUInt32 <<< 16) ||| (data[pos + 3].toUInt32 <<< 24))
  else none

/-- The little-endian word at `pos` in the view, if four bytes of it are there. -/
def View.readWord (m : Machine) (v : View) (pos : Nat) : Option UInt32 :=
  wordAt (v.bytes m) pos

/-- Allocates a store holding `data`: allocate, copy through a mapping, then invalidate all of
it.  When the mapping or the invalidation fails the new store is released again. -/
def allocateWith (flags : Flags) (data : ByteArray) : Act View := do
  let v ← allocate data.size flags
  tryCatch (do
      v.withMap (v.writeBytes 0 data)
      v.invalidate data.size)
    fun e => do
      v.release
      throw e
  pure v

end TegraGpu.Buffer
