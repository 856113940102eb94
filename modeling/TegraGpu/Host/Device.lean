import TegraGpu.Error
import TegraGpu.Log
/-!
# The software host device

The device hands out zero-filled memory under handles counted up from one.  It rounds every size
up to the requested alignment, keeps count of the bytes it holds, and may be given a limit on
them.  It can be told to refuse every mapping, and it records every cache invalidation it
accepts.

* `Device.create`, `Device.mmap`, `Device.invalidate`, `Device.free` : the four calls, each with
  the failures of its contract; `Device.createWith` allocates from any host allocator.
* `Device.live`, `Device.bytes` : the counts of objects and bytes held.
* `Device.modifyStorage` : access to the storage of an allocation.
-/

namespace TegraGpu.Host

/-- The greatest value of a machine word. -/
def wordMax : Nat := Nat.pow 2 64 - 1

/-- The largest single allocation the host grants. -/
def hostCapacity : Nat := Nat.pow 2 34

/-- The zero-filled storage of `n` bytes. -/
def zeros (n : Nat) : ByteArray :=
  n.fold (fun _ _ acc => acc.push 0) (ByteArray.emptyWithCapacity n)

/-- The least multiple of `align` that is at least `size`. -/
def roundUp (size align : Nat) : Nat :=
  (size + align - 1) / align * align

/-- One accepted invalidation: handle, offset and size. -/
structure Invalidation where
  /-- The allocation. -/
  handle : Handle
  /-- The first byte. -/
  offset : Nat
  /-- The number of bytes. -/
  size : Nat

/-- One allocation of the device: its handle, its length and its bytes. -/
structure Allocation where
  /-- The handle it is held under. -/
  handle : Handle
  /-- Its length in bytes, fixed when it is made. -/
  len : Nat
  /-- Its bytes. -/
  data : ByteArray

/-- The state of the device.  The handle counter is kept as the number of handles given out:
the next handle is that number plus one, taken modulo `2 ^ 32`. -/
structure Device where
  /-- The held allocations, at most one under each handle, oldest first. -/
  objects : List Allocation := []
  /-- The number of handles given out so far. -/
  created : Nat := 0
  /-- The bytes held, counted up on each allocation and down on each release. -/
  allocated : Nat := 0
  /-- The limit on the bytes held, if any. -/
  limit : Option Nat := none
  /-- Whether every mapping is refused. -/
  failMaps : Bool := false
  /-- The accepted invalidations, oldest first. -/
  invalidations : Array Invalidation := #[]

namespace Device

/-- The number of allocations held. -/
def live (d : Device) : Nat := d.objects.length

/-- The number of bytes held. -/
def bytes (d : Device) : Nat := d.allocated

/-- The bytes that the held allocations take in the host's memory. -/
def held (d : Device) : Nat := d.objects.foldr (fun a n => a.len + n) 0

/-- The handle of the next allocation: the handles count up from one and wrap around. -/
def nextHandle (d : Device) : Handle := ⟨(d.created + 1).toUInt32⟩

/-- The allocation under a handle. -/
def object? (d : Device) (h : Handle) : Option Allocation :=
  d.objects.find? (fun a => a.handle == h)

/-- The storage of an allocation. -/
def storage? (d : Device) (h : Handle) : Option ByteArray :=
  (d.object? h).map Allocation.data

/-- Whether a handle names a held allocation. -/
def holds (d : Device) (h : Handle) : Bool :=
  d.objects.any (fun a => a.handle == h)

/-- Allocates `size` bytes rounded up to `align` (one when zero), zero-filled, from a host
whose allocator answers `grants` on the rounded size.  Whatever it answers, the host never gives
more than the address space holds beside the allocations of the device.  The new allocation
takes the place of one held under the same handle. -/
def createWith (grants : Nat → Bool) (d : Device) (size align : Nat) :
    Except Error (Handle × Device) :=
  if size = 0 then .error (.allocation size .zeroSized)
  else
    let align := max align 1
    let aligned := roundUp size align
    if wordMax < aligned then .error (.allocation size (.alignOverflow align))
    else
      let overLimit := match d.limit with
        | some l => decide (wordMax < d.allocated + aligned) || decide (l < d.allocated + aligned)
        | none => false
      if overLimit then
        .error (.allocation size (.outOfMemory d.allocated (d.limit.getD 0)))
      else if grants aligned = false ∨ wordMax < d.held + aligned then
        .error (.allocation size (.hostRefused aligned))
      else
        let h := d.nextHandle
        .ok (h, { d with
          objects := d.objects.filter (fun a => a.handle != h) ++ [⟨h, aligned, zeros aligned⟩],
          created := d.created + 1,
          allocated := min (d.allocated + aligned) wordMax })

/-- Allocates `size` bytes rounded up to `align` from a host that grants up to
`hostCapacity` bytes at a time. -/
def create (d : Device) (size align : Nat) : Except Error (Handle × Device) :=
  d.createWith (fun n => decide (n ≤ hostCapacity)) size align

/-- The trace record of an allocation. -/
def createdRecord (h : Handle) (aligned : Nat) : Record :=
  { level := .trace, origin := .host,
    text := "host1x: created " ++ h.label ++ " (" ++ toString aligned ++ " bytes)" }

/-- Maps an allocation: refused when maps fail, else it must be held. -/
def mmap (d : Device) (h : Handle) : Except Error Unit :=
  if d.failMaps then .error (.map (.refused h))
  else if d.holds h then .ok ()
  else .error (.map (.notAllocated h))

/-- Records an invalidation of `size` bytes at `offset`, which must lie inside the allocation. -/
def invalidate (d : Device) (h : Handle) (offset size : Nat) : Except Error Device :=
  match d.object? h with
  | none => .error (.map (.notAllocated h))
  | some a =>
    if wordMax < offset + size ∨ a.len < offset + size then
      .error (.range (min (offset + size) wordMax) a.len)
    else .ok { d with invalidations := d.invalidations.push ⟨h, offset, size⟩ }

/-- Releases an allocation; the record says whether it was held. -/
def free (d : Device) (h : Handle) : Device × Record :=
  match d.object? h with
  | some a =>
    ({ d with objects := d.objects.filter (fun a => a.handle != h),
              allocated := d.allocated - a.len },
     { level := .trace, origin := .host, text := "host1x: freed " ++ h.label })
  | none => (d, { level := .warn, origin := .host, text := "host1x: free of unknown " ++ h.label })

/-- Applies `f` to the storage of an allocation, in place when the device is not shared. -/
def modifyStorage {α : Type} (d : Device) (h : Handle) (f : ByteArray → ByteArray × α) :
    Option (α × Device) :=
  let rec go : List Allocation → Option (α × List Allocation)
    | [] => none
    | a :: rest =>
      if a.handle == h then
        let (data, x) := f a.data
        some (x, { a with data } :: rest)
      else (go rest).map fun (x, rest) => (x, a :: rest)
  (go d.objects).map fun (x, objects) => (x, { d with objects })

end Device

end TegraGpu.Host
