import TegraGpu.Binary32.Decode
/-!
# Pixel formats

A pixel format says how four colour channels in `[0, 1]` become a raw pixel and back.  Each
channel first becomes a byte: clamped into `[0, 1]` (NaN passes the clamp), scaled by 255 and
rounded, a half away from zero, then saturated into a byte, NaN giving zero.  The eight-bit
formats store the bytes in their channel order, little end first; the 16-bit format keeps five,
six and five bits, each rounded to nearest from the byte.  Reading a 16-bit pixel back widens
each field again by rounding to nearest, and gives an opaque alpha.

* `Format`, `Format.bytesPerPixel`, `Format.name` : the three formats.
* `unorm8`, `Format.pack`, `Format.toRgba8` : the conversions.
* `Format.store`, `Format.load` : a raw pixel in memory, little end first.
-/

namespace TegraGpu.Surface

/-- The pixel formats. -/
inductive Format where
  /-- Red, green, blue and alpha bytes, in that order in memory. -/
  | rgba8888
  /-- Blue, green, red and alpha bytes, in that order in memory. -/
  | bgra8888
  /-- Five bits of red, six of green and five of blue in a 16-bit word. -/
  | rgb565
  deriving DecidableEq

/-- The name of a format. -/
def Format.name : Format → String
  | .rgba8888 => "Rgba8888"
  | .bgra8888 => "Bgra8888"
  | .rgb565 => "Rgb565"

/-- The bytes of one pixel. -/
def Format.bytesPerPixel : Format → Nat
  | .rgba8888 => 4
  | .bgra8888 => 4
  | .rgb565 => 2

/-- Zero as a single-precision number. -/
def zero32 : Float32 := Float32.ofBits 0

/-- One as a single-precision number. -/
def one32 : Float32 := Float32.ofBits 0x3F800000

/-- 255 as a single-precision number. -/
def byteMax32 : Float32 := Float32.ofBits 0x437F0000

/-- A channel value as a byte: clamped, scaled by 255, rounded a half away from zero. -/
def unorm8 (v : Float32) : Nat :=
  let c := if v < zero32 then zero32 else v
  let c := if one32 < c then one32 else c
  Binary32.roundByte (c * byteMax32)

/-- Four bytes as a little-endian word. -/
def word4 (b0 b1 b2 b3 : Nat) : UInt32 :=
  (b0 + b1 * Nat.pow 2 8 + b2 * Nat.pow 2 16 + b3 * Nat.pow 2 24).toUInt32

/-- The raw pixel of a colour given as red, green, blue and alpha. -/
def Format.pack (f : Format) (r g b a : Float32) : UInt32 :=
  let (r, g, b, a) := (unorm8 r, unorm8 g, unorm8 b, unorm8 a)
  match f with
  | .rgba8888 => word4 r g b a
  | .bgra8888 => word4 b g r a
  | .rgb565 =>
    let r5 := (r * 31 + 127) / 255
    let g6 := (g * 63 + 127) / 255
    let b5 := (b * 31 + 127) / 255
    (r5 * Nat.pow 2 11 + g6 * Nat.pow 2 5 + b5).toUInt32

/-- The byte of a word at a position, little end first. -/
def byteOf (w : UInt32) (i : Nat) : Nat :=
  w.toNat / Nat.pow 2 (8 * i) % 256

/-- The red, green, blue and alpha bytes of a raw pixel. -/
def Format.toRgba8 (f : Format) (raw : UInt32) : Nat × Nat × Nat × Nat :=
  match f with
  | .rgba8888 => (byteOf raw 0, byteOf raw 1, byteOf raw 2, byteOf raw 3)
  | .bgra8888 => (byteOf raw 2, byteOf raw 1, byteOf raw 0, byteOf raw 3)
  | .rgb565 =>
    let r5 := raw.toNat / Nat.pow 2 11 % 32
    let g6 := raw.toNat / Nat.pow 2 5 % 64
    let b5 := raw.toNat % 32
    ((r5 * 255 + 15) / 31, (g6 * 255 + 31) / 63, (b5 * 255 + 15) / 31, 0xFF)

/-- Writes the low bytes of a raw pixel at `pos`, as many as a pixel has. -/
def Format.store (f : Format) (data : ByteArray) (pos : Nat) (raw : UInt32) : ByteArray :=
  (List.range f.bytesPerPixel).foldl
    (fun d i => d.set! (pos + i) (byteOf raw i).toUInt8) data

/-- Reads a raw pixel at `pos`; missing bytes read as zero. -/
def Format.load (f : Format) (data : ByteArray) (pos : Nat) : UInt32 :=
  (List.range f.bytesPerPixel).foldl
    (fun w i => w + ((data.get! (pos + i)).toUInt32 <<< (8 * i).toUInt32)) 0

end TegraGpu.Surface
