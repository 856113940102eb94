/-!
# Handles of device memory

The device names each allocation by a 32-bit handle, counted up from one.  A handle prints as
`bo#` followed by its number.
-/

namespace TegraGpu.Host

/-- The name of a device allocation. -/
structure Handle where
  /-- The handle's number. -/
  id : UInt32
  deriving DecidableEq

/-- The printed form of a handle. -/
def Handle.label (h : Handle) : String :=
  "bo#" ++ toString h.id.toNat

end TegraGpu.Host
