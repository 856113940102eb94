import TegraGpu.Machine
/-!
# Device calls

The four calls of the device as operations on the machine: creating an allocation, mapping it,
recording an invalidation and freeing it.  Creating and freeing write trace records; freeing
an allocation that is not held warns instead.

* `Host.create`, `Host.mmap`, `Host.invalidate`, `Host.free` : the calls.
-/

namespace TegraGpu.Host

open Act

/-- Creates an allocation of `size` bytes rounded up to `align`, and gives its handle. -/
def create (size align : Nat) : Act Handle := do
  let m ← get
  let (h, d) ← Act.ofExcept (m.device.create size align)
  set { m with device := d }
  emit (Device.createdRecord h (roundUp size (max align 1)))
  pure h

/-- Maps an allocation. -/
def mmap (h : Handle) : Act Unit := do
  Act.ofExcept ((← get).device.mmap h)

/-- Records an invalidation of part of an allocation. -/
def invalidate (h : Handle) (offset size : Nat) : Act Unit := do
  let m ← get
  let d ← Act.ofExcept (m.device.invalidate h offset size)
  set { m with device := d }

/-- Frees an allocation. -/
def free (h : Handle) : Act Unit := do
  let m ← get
  let (d, r) := m.device.free h
  set { m with device := d }
  emit r

end TegraGpu.Host
