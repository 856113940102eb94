/-!
# Output options

The options say how a rendered framebuffer is shown: fullscreen or in an overlay at a position,
with or without vertical synchronisation, at what size, and whether diagnostics are verbose.
Left-out options keep their defaults: windowed, no vsync, at the origin, 256 by 256, quiet.

* `Options`, `Options.debugText` : the record and its printed form.
-/

namespace TegraGpu

/-- The output options. -/
structure Options where
  /-- Use the whole display instead of an overlay. -/
  fullscreen : Bool := false
  /-- Synchronise presentation to vertical blanking. -/
  vsync : Bool := false
  /-- The overlay's left edge. -/
  x : Nat := 0
  /-- The overlay's top edge. -/
  y : Nat := 0
  /-- The output width. -/
  width : Nat := 256
  /-- The output height. -/
  height : Nat := 256
  /-- Log in detail. -/
  verbose : Bool := false
  deriving DecidableEq

/-- The printed form of options, every field by name in declaration order. -/
def Options.debugText (o : Options) : String :=
  "Options \x7b fullscreen: " ++ toString o.fullscreen ++ ", vsync: " ++ toString o.vsync ++
    ", x: " ++ toString o.x ++ ", y: " ++ toString o.y ++ ", width: " ++ toString o.width ++
    ", height: " ++ toString o.height ++ ", verbose: " ++ toString o.verbose ++ " \x7d"

end TegraGpu
