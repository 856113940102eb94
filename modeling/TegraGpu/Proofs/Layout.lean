import Mathlib
import TegraGpu.Proofs.Targets
/-!
# Where the pixels of a surface lie

A surface made by `Surface.create` has the pitch and size that `storageSize` gives.  Each of its
pixels then owns one of the pixel-sized cells of its buffer: the linear layout numbers the
pixels row by row, the tiled layout tile by tile and, inside a tile, row by row, and both
numberings are one to one on the pixels of the surface and stay below the number of cells.  So
the bytes of a pixel lie inside the buffer, two pixels never share a byte, and a clear, which
fills every cell, reaches every pixel.

From this, what reading a pixel gives after the pixel writes of the surface operations: the
value of the last write to the pixel, as far as the format keeps it, or the value before when no
write reaches it; after a clear, the value cleared to.

* `Format.truncate`, `Format.load_store_self`, `Format.load_store_of_disjoint` : a pixel in
  memory.
* `Surface.Laid`, `Surface.cellOf` : surfaces laid out as made, and the cell of a pixel.
* `lastWrite`, `Surface.pixelIn` : the last write to a pixel, and the pixel in a surface's bytes.
* `pixelIn_storePixels`, `pixelIn_fillPixels` : the pixels after writes and after a clear.
-/

namespace TegraGpu

open Surface

theorem ByteArray.get!_eq_getElem! (d : ByteArray) (p : Nat) : d.get! p = d[p]! := by
  cases d with
  | mk a =>
    simp only [ByteArray.get!, getElem!_def]
    rfl

/-- Setting the bytes at `pos + k` for the `k` of a list leaves at `j` the byte set there last,
or the byte that was there. -/
theorem ByteArray.getElem!_foldl_set! (g : Nat → UInt8) (pos j : Nat) (l : List Nat)
    (d : ByteArray) (hj : j < d.size) :
    (l.foldl (fun d k => d.set! (pos + k) (g k)) d)[j]! =
      if ∃ k ∈ l, pos + k = j then g (j - pos) else d[j]! := by
  induction l generalizing d with
  | nil => simp
  | cons k l ih =>
    rw [List.foldl_cons, ih _ (by simpa using hj)]
    by_cases hl : ∃ k' ∈ l, pos + k' = j
    · -- a later byte of the list sets `j`
      obtain ⟨k', hk', hj'⟩ := hl
      rw [if_pos ⟨k', hk', hj'⟩, if_pos ⟨k', List.mem_cons_of_mem _ hk', hj'⟩]
    · by_cases hk : pos + k = j
      · subst hk
        simp [ByteArray.getElem!_set!_self _ _ _ hj]
      · simp [hl, hk, ByteArray.getElem!_set!_ne _ _ _ _ hk]

namespace Surface

/-! ### A pixel in memory -/

/-- The raw pixel that a format keeps of a value: its low bytes, as many as a pixel has. -/
def Format.truncate (f : Format) (raw : UInt32) : UInt32 :=
  (raw.toNat % Nat.pow 2 (8 * f.bytesPerPixel)).toUInt32

/-- The four-byte formats keep all of a value. -/
theorem Format.truncate_of_four {f : Format} (hf : f.bytesPerPixel = 4) (raw : UInt32) :
    f.truncate raw = raw := by
  apply UInt32.toNat_inj.1
  have hr := raw.toNat_lt
  simp only [Format.truncate, hf, Nat.toUInt32, UInt32.toNat_ofNat', Nat.pow_eq]
  omega

theorem Format.bytesPerPixel_pos (f : Format) : 0 < f.bytesPerPixel := by
  cases f <;> decide

/-- A read of a pixel depends only on the bytes of the pixel. -/
theorem Format.load_congr (f : Format) {d d' : ByteArray} {pos pos' : Nat}
    (h : ∀ i < f.bytesPerPixel, d[pos + i]! = d'[pos' + i]!) : f.load d pos = f.load d' pos' := by
  unfold Format.load
  refine List.foldl_ext _ _ _ fun w i hi => ?_
  rw [ByteArray.get!_eq_getElem!, ByteArray.get!_eq_getElem!, h i (List.mem_range.1 hi)]

/-- Storing a pixel inside the bytes sets each byte of the pixel to a byte of the value. -/
theorem Format.getElem!_store_self (f : Format) {d : ByteArray} {pos i : Nat} (raw : UInt32)
    (hi : i < f.bytesPerPixel) (hd : pos + f.bytesPerPixel ≤ d.size) :
    (f.store d pos raw)[pos + i]! = (byteOf raw i).toUInt8 := by
  unfold Format.store
  rw [ByteArray.getElem!_foldl_set! _ _ _ _ _ (by omega),
    if_pos ⟨i, List.mem_range.2 hi, rfl⟩, Nat.add_sub_cancel_left]

/-- The bytes of a value, put together again as a read of a pixel does it, give what the format
keeps of the value. -/
theorem Format.recombine (f : Format) (raw : UInt32) :
    (List.range f.bytesPerPixel).foldl
      (fun w i => w + ((byteOf raw i).toUInt8.toUInt32 <<< (8 * i).toUInt32)) 0 = f.truncate raw := by
  apply UInt32.toNat_inj.1
  have hr := raw.toNat_lt
  cases f <;>
    simp only [Format.bytesPerPixel, Format.truncate, List.range_succ, List.range_zero,
      List.nil_append, List.cons_append, List.foldl_cons, List.foldl_nil, byteOf,
      UInt32.toNat_add, UInt32.toNat_shiftLeft, UInt8.toNat_toUInt32, UInt32.toNat_ofNat,
      Nat.toUInt32, Nat.pow_eq] <;>
    simp <;> omega

/-- **A read after a store at the same place** gives what the format keeps of the value stored,
when the bytes hold the pixel. -/
theorem Format.load_store_self (f : Format) {d : ByteArray} {pos : Nat} (raw : UInt32)
    (hd : pos + f.bytesPerPixel ≤ d.size) : f.load (f.store d pos raw) pos = f.truncate raw := by
  rw [← f.recombine raw]
  unfold Format.load
  refine List.foldl_ext _ _ _ fun w i hi => ?_
  rw [ByteArray.get!_eq_getElem!, f.getElem!_store_self raw (List.mem_range.1 hi) hd]

/-- **A read after a store at a disjoint place** gives what it gave before. -/
theorem Format.load_store_of_disjoint (f : Format) (d : ByteArray) {pos pos' : Nat} (raw : UInt32)
    (h : pos' + f.bytesPerPixel ≤ pos ∨ pos + f.bytesPerPixel ≤ pos') :
    f.load (f.store d pos raw) pos' = f.load d pos' := by
  refine f.load_congr fun i hi => ?_
  rw [getElem!_def, getElem!_def, Format.getElem?_store_of_outside _ _ _ (by omega)]

/-! ### The cells of a surface -/

/-- The number `a * B + b` of the `b`-th of `B` places in row `a` is below `A * B` for a row
below `A`. -/
theorem rowMajor_lt {a b A B : Nat} (ha : a < A) (hb : b < B) : a * B + b < A * B :=
  calc a * B + b < a * B + B := by omega
    _ = (a + 1) * B := by ring
    _ ≤ A * B := Nat.mul_le_mul_right B ha

/-- The number `a * B + b` of the `b`-th of `B` places in row `a` gives back the row and the
place. -/
theorem rowMajor_inj {a b a' b' B : Nat} (hb : b < B) (hb' : b' < B)
    (h : a * B + b = a' * B + b') : a = a' ∧ b = b' := by
  have hB : 0 < B := by omega
  have hdiv := congrArg (· / B) h
  have hmod := congrArg (· % B) h
  simp only [Nat.mul_comm _ B, Nat.mul_add_div hB, Nat.div_eq_of_lt hb, Nat.div_eq_of_lt hb',
    Nat.mul_add_mod, Nat.mod_eq_of_lt hb, Nat.mod_eq_of_lt hb'] at hdiv hmod
  omega

/-- A side of `n` pixels as the layout pads it: to whole tiles in the tiled layout. -/
def Layout.padded (l : Layout) (n : Nat) : Nat :=
  match l with
  | .linear => n
  | .tiled => Host.roundUp n tileSide

/-- The pitch and size that `storageSize` gives are those of the padded sides. -/
theorem storageSize_eq_some {w h : Nat} {f : Format} {l : Layout} {p n : Nat}
    (hs : storageSize w h f l = some (p, n)) :
    p = l.padded w * f.bytesPerPixel ∧ n = p * l.padded h := by
  unfold storageSize at hs
  -- past the two refusals, the pitch and the size are read off the padded sides
  cases l <;> dsimp only at hs <;> split at hs <;> (try cases hs) <;> split at hs <;>
    (try cases hs) <;> exact ⟨rfl, rfl⟩

/-- A padded side holds the side, and in the tiled layout it is whole tiles. -/
theorem tiles_padded (n : Nat) :
    Layout.tiled.padded n = (n + tileSide - 1) / tileSide * tileSide ∧ n ≤ Layout.tiled.padded n := by
  refine ⟨rfl, ?_⟩
  simp only [Layout.padded, Host.roundUp, tileSide]
  omega

/-- The surface is laid out as `Surface.create` lays it out: its pitch and the size of its buffer
are those that `storageSize` gives for its width, height, format and layout. -/
def Laid (s : Surface) : Prop :=
  storageSize s.width s.height s.format s.layout = some (s.pitch, s.view.size)

/-- The cells of a surface: one per pixel of its padded sides. -/
def cells (s : Surface) : Nat := s.layout.padded s.width * s.layout.padded s.height

/-- The number of the cell of the pixel `(x, y)`: row by row in the linear layout; in the tiled
layout, tile by tile, row of tiles by row of tiles, and in each tile row by row. -/
def cellOf (s : Surface) (x y : Nat) : Nat :=
  match s.layout with
  | .linear => y * s.width + x
  | .tiled =>
    ((y / tileSide) * (s.layout.padded s.width / tileSide) + x / tileSide) *
        (tileSide * tileSide) + ((y % tileSide) * tileSide + x % tileSide)

/-- Every pixel of the surface has a cell of the buffer. -/
theorem cellOf_lt {s : Surface} {x y : Nat} (hx : x < s.width) (hy : y < s.height) :
    s.cellOf x y < s.cells := by
  unfold Surface.cellOf Surface.cells
  cases hl : s.layout with
  | linear =>
    simp only [Layout.padded]
    rw [Nat.mul_comm s.width]
    exact rowMajor_lt hy hx
  | tiled =>
    obtain ⟨hw, hw'⟩ := tiles_padded s.width
    obtain ⟨hh, hh'⟩ := tiles_padded s.height
    -- the tile lies below the tiles of the padded sides, the place in it below a tile's pixels
    have htile : (y / tileSide) * (Layout.tiled.padded s.width / tileSide) + x / tileSide <
        (Layout.tiled.padded s.height / tileSide) * (Layout.tiled.padded s.width / tileSide) := by
      refine rowMajor_lt ?_ ?_ <;> simp only [hw, hh, tileSide] at * <;>
        rw [Nat.mul_div_cancel _ (by decide)] <;> omega
    have hin : (y % tileSide) * tileSide + x % tileSide < tileSide * tileSide := by
      simp only [tileSide]
      omega
    calc _ < (Layout.tiled.padded s.height / tileSide) * (Layout.tiled.padded s.width / tileSide) *
          (tileSide * tileSide) := rowMajor_lt htile hin
      _ = _ := by
        rw [hw, hh, Nat.mul_div_cancel _ (by decide), Nat.mul_div_cancel _ (by decide)]
        ring

/-- Two pixels of the surface never share a cell. -/
theorem cellOf_inj {s : Surface} {x y x' y' : Nat} (hx : x < s.width) (hx' : x' < s.width)
    (h : s.cellOf x y = s.cellOf x' y') :
    x = x' ∧ y = y' := by
  unfold Surface.cellOf at h
  cases hl : s.layout with
  | linear =>
    rw [hl] at h
    obtain ⟨hy, hx⟩ := rowMajor_inj hx hx' h
    exact ⟨hx, hy⟩
  | tiled =>
    rw [hl] at h
    obtain ⟨hw, hw'⟩ := tiles_padded s.width
    -- the cell gives back the tile and the place in the tile, and these the pixel
    have hin : ∀ x y : Nat, (y % tileSide) * tileSide + x % tileSide < tileSide * tileSide := by
      intro x y
      simp only [tileSide]
      omega
    obtain ⟨htile, hplace⟩ := rowMajor_inj (hin x y) (hin x' y') h
    have hcol : ∀ x, x < s.width → x / tileSide < Layout.tiled.padded s.width / tileSide := by
      intro x hx
      simp only [hw, tileSide] at *
      rw [Nat.mul_div_cancel _ (by decide)]
      omega
    obtain ⟨hrow, hcol'⟩ := rowMajor_inj (hcol x hx) (hcol x' hx') htile
    simp only [tileSide] at hrow hcol' hplace
    omega

section Laid

variable {s : Surface} (hs : s.Laid)
include hs

theorem Laid.size_eq : s.view.size = s.cells * s.format.bytesPerPixel := by
  obtain ⟨hp, hn⟩ := storageSize_eq_some hs
  rw [hn, hp, Surface.cells]
  ring

/-- The byte of a pixel is the first of its cell. -/
theorem Laid.pixelOffset_eq (x y : Nat) :
    s.pixelOffset x y = s.cellOf x y * s.format.bytesPerPixel := by
  obtain ⟨hp, -⟩ := storageSize_eq_some hs
  have hbpp := s.format.bytesPerPixel_pos
  unfold Surface.pixelOffset Surface.cellOf
  cases hl : s.layout with
  | linear =>
    rw [hl] at hp
    simp only [hp, Layout.padded]
    ring
  | tiled =>
    rw [hl] at hp
    -- a row of tiles holds as many tiles as the padded width has sides of a tile
    have htiles : s.pitch / (tileSide * s.format.bytesPerPixel) = Layout.tiled.padded s.width / tileSide := by
      obtain ⟨hpad, -⟩ := tiles_padded s.width
      rw [hp, hpad, Nat.mul_div_cancel _ (by decide : 0 < tileSide), Nat.mul_assoc,
        Nat.mul_div_cancel _ (Nat.mul_pos (by decide) hbpp)]
    simp only [htiles]
    ring

/-- The bytes of every pixel of the surface lie inside its buffer. -/
theorem Laid.pixel_fits {x y : Nat} (hx : x < s.width) (hy : y < s.height) :
    s.pixelOffset x y + s.format.bytesPerPixel ≤ s.view.size := by
  rw [hs.pixelOffset_eq, hs.size_eq, ← Nat.succ_mul]
  exact Nat.mul_le_mul_right _ (Surface.cellOf_lt hx hy)

/-- Two pixels of the surface never share a byte. -/
theorem Laid.disjoint {x y x' y' : Nat} (hx : x < s.width) (hx' : x' < s.width)
    (hne : ¬ (x = x' ∧ y = y')) :
    s.pixelOffset x y + s.format.bytesPerPixel ≤ s.pixelOffset x' y' ∨
      s.pixelOffset x' y' + s.format.bytesPerPixel ≤ s.pixelOffset x y := by
  rw [hs.pixelOffset_eq, hs.pixelOffset_eq, ← Nat.succ_mul, ← Nat.succ_mul]
  have hcell : s.cellOf x y ≠ s.cellOf x' y' := fun h => by
    obtain ⟨rfl, rfl⟩ := Surface.cellOf_inj hx hx' h
    exact hne ⟨rfl, rfl⟩
  rcases Nat.lt_or_gt_of_ne hcell with hlt | hlt
  · exact .inl (Nat.mul_le_mul_right _ hlt)
  · exact .inr (Nat.mul_le_mul_right _ hlt)

end Laid

/-! ### The pixels after writes and after a clear -/

/-- The raw pixel `(x, y)` of the surface in the bytes of its allocation. -/
def pixelIn (s : Surface) (d : ByteArray) (x y : Nat) : UInt32 :=
  s.format.load d (s.view.offset + s.pixelOffset x y)

/-- The value of the last write to the pixel `(x, y)` in a list of writes, if one writes it. -/
def lastWrite {β : Type} : List (Nat × Nat × β) → Nat → Nat → Option β
  | [], _, _ => none
  | w :: ws, x, y => (lastWrite ws x y).or (if w.1 = x ∧ w.2.1 = y then some w.2.2 else none)

/-- Changing the values of writes changes the last write to a pixel alike. -/
theorem lastWrite_map {β γ : Type} (g : β → γ) (ws : List (Nat × Nat × β)) (x y : Nat) :
    lastWrite (ws.map fun w => (w.1, w.2.1, g w.2.2)) x y = (lastWrite ws x y).map g := by
  induction ws with
  | nil => rfl
  | cons w ws ih =>
    simp only [List.map_cons, lastWrite, ih]
    cases lastWrite ws x y <;> by_cases hw : w.1 = x ∧ w.2.1 = y <;> simp [hw]

section Pixels

variable {s : Surface} (hs : s.Laid) {d : ByteArray} (hd : s.view.offset + s.view.size ≤ d.size)
include hs hd

/-- **A pixel after a write to a pixel**: the value the format keeps of the write at the pixel
written, and every other pixel of the surface as it was. -/
theorem pixelIn_store {x₀ y₀ x y : Nat} (hx₀ : x₀ < s.width) (hy₀ : y₀ < s.height)
    (hx : x < s.width) (hy : y < s.height) (raw : UInt32) :
    s.pixelIn (s.format.store d (s.view.offset + s.pixelOffset x₀ y₀) raw) x y =
      if x₀ = x ∧ y₀ = y then s.format.truncate raw else s.pixelIn d x y := by
  unfold Surface.pixelIn
  split
  · next h =>
    obtain ⟨rfl, rfl⟩ := h
    exact s.format.load_store_self raw (by have := hs.pixel_fits hx₀ hy₀; omega)
  · next h =>
    have hdis := hs.disjoint hx₀ hx h
    exact s.format.load_store_of_disjoint d raw (by omega)

/-- **The pixels after writes** inside the surface: the value the format keeps of the last write
to the pixel, or the value before when none writes it. -/
theorem pixelIn_storePixels {ws : List (Nat × Nat × UInt32)}
    (hws : ∀ w ∈ ws, w.1 < s.width ∧ w.2.1 < s.height) {x y : Nat} (hx : x < s.width)
    (hy : y < s.height) :
    s.pixelIn (s.storePixels s.view.offset d ws) x y =
      ((lastWrite ws x y).map s.format.truncate).getD (s.pixelIn d x y) := by
  induction ws generalizing d with
  | nil => rfl
  | cons w ws ih =>
    obtain ⟨hw₁, hw₂⟩ := hws w List.mem_cons_self
    -- the rest of the writes start from the bytes with the first write stored
    have hd' : s.view.offset + s.view.size ≤
        (s.format.store d (s.view.offset + s.pixelOffset w.1 w.2.1) w.2.2).size := by
      rw [Format.size_store]
      exact hd
    have hrest := ih hd' fun w' hw' => hws w' (List.mem_cons_of_mem _ hw')
    unfold Surface.storePixels at hrest ⊢
    rw [List.foldl_cons, hrest, pixelIn_store hs hd hw₁ hw₂ hx hy, lastWrite]
    cases lastWrite ws x y <;> by_cases hw : w.1 = x ∧ w.2.1 = y <;> simp [hw]

end Pixels

/-! ### Clearing -/

theorem size_fillPixels (f : Format) (raw : UInt32) (pos n : Nat) (d : ByteArray) :
    (fillPixels f raw pos n d).size = d.size := by
  induction n generalizing pos d with
  | zero => rfl
  | succ n ih => rw [fillPixels, ih, Format.size_store]

/-- Filling from `pos` on leaves a pixel before `pos` as it was. -/
theorem load_fillPixels_of_le (f : Format) (raw : UInt32) {pos p : Nat} (n : Nat) (d : ByteArray)
    (hp : p + f.bytesPerPixel ≤ pos) : f.load (fillPixels f raw pos n d) p = f.load d p := by
  induction n generalizing pos d with
  | zero => rfl
  | succ n ih =>
    rw [fillPixels, ih _ (by omega), f.load_store_of_disjoint d raw (.inl hp)]

/-- **Filling `n` pixels** from `pos` on sets each of them to the value the format keeps. -/
theorem load_fillPixels (f : Format) (raw : UInt32) {pos n k : Nat} (hk : k < n) {d : ByteArray}
    (hd : pos + n * f.bytesPerPixel ≤ d.size) :
    f.load (fillPixels f raw pos n d) (pos + k * f.bytesPerPixel) = f.truncate raw := by
  induction n generalizing pos d k with
  | zero => omega
  | succ n ih =>
    rw [fillPixels]
    cases k with
    | zero =>
      -- the first pixel is stored first, and the rest of the fill lies past it
      rw [Nat.zero_mul, Nat.add_zero, load_fillPixels_of_le _ _ _ _ (le_refl _),
        f.load_store_self raw (by rw [Nat.succ_mul] at hd; omega)]
    | succ k =>
      have hd' : pos + f.bytesPerPixel + n * f.bytesPerPixel ≤ (f.store d pos raw).size := by
        rw [Format.size_store, Nat.succ_mul] at *
        omega
      rw [Nat.succ_mul, ← Nat.add_assoc, Nat.add_right_comm, ih (by omega) hd']

/-- **The pixels after a clear**: filling every cell of the buffer sets every pixel of the
surface to the value the format keeps. -/
theorem pixelIn_fillPixels {s : Surface} (hs : s.Laid) {d : ByteArray}
    (hd : s.view.offset + s.view.size ≤ d.size) (raw : UInt32) {x y : Nat} (hx : x < s.width)
    (hy : y < s.height) :
    s.pixelIn (fillPixels s.format raw s.view.offset (s.view.size / s.format.bytesPerPixel) d) x y =
      s.format.truncate raw := by
  have hcells : s.view.size / s.format.bytesPerPixel = s.cells := by
    rw [hs.size_eq, Nat.mul_div_cancel _ s.format.bytesPerPixel_pos]
  unfold Surface.pixelIn
  rw [hcells, hs.pixelOffset_eq]
  exact load_fillPixels _ _ (Surface.cellOf_lt hx hy) (by rw [← hs.size_eq]; exact hd)

end Surface

end TegraGpu
