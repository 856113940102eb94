import Mathlib
import TegraGpu.Proofs.Agreement
import TegraGpu.Proofs.Bench

/-!
# Pixel addressing

A surface of a positive width and height is refused by `Surface.create` exactly when its
storage size overflows (a padded side beyond 32 bits, or the bytes beyond a machine word) or the
device refuses its buffer object; the refusal is an allocation error and changes nothing.
Every surface it makes is *addressed*: `pixelOffset` sends the pixels of the surface to
distinct whole pixels inside the view, no step of computing an offset leaves a machine word,
and in the tiled layout a pixel lies in its tile of a row-major grid of tiles.  So a read or a
write of a pixel never reaches outside the mapping, a write is read back at its own pixel only,
and a pixel outside the surface is refused before anything changes.

* `storageSize_eq_none_iff` : when the storage size overflows.
* `Surface.Laid.addressed` : a surface laid out as `Surface.create` lays it out is addressed.
* `create_addressed` : making a surface fails exactly when it should, and what it makes is
  addressed, on an allocation that the device holds and that covers its view.
-/

namespace TegraGpu

open Buffer Exec Act Host Surface

namespace Host

theorem size_zeros (n : Nat) : (zeros n).size = n := by
  have hfold : ∀ (k : Nat) (init : ByteArray),
      (k.fold (fun _ _ acc => acc.push 0) init).size = init.size + k := by
    intro k init
    induction k with
    | zero => rfl
    | succ k ih =>
      rw [Nat.fold_succ, ByteArray.size_push, ih]
      rfl
  rw [zeros, hfold]
  exact Nat.zero_add n

namespace Device

/-- The allocation a creation makes is found under the handle it gives. -/
theorem object?_createWith {g : Nat → Bool} {d d' : Device} {size align : Nat} {h : Handle}
    (hc : d.createWith g size align = .ok (h, d')) :
    d'.object? h = some ⟨h, roundUp size (max align 1), zeros (roundUp size (max align 1))⟩ := by
  obtain ⟨-, -, -, -, -, rfl, rfl⟩ := createWith_ok hc
  -- the allocations kept from before are those under other handles
  have hkept : (d.objects.filter fun a => a.handle != d.nextHandle).find?
      (fun a => a.handle == d.nextHandle) = none := by
    rw [List.find?_eq_none]
    intro a ha
    simp only [List.mem_filter, bne_iff_ne, ne_eq] at ha
    simpa using ha.2
  simp [object?, List.find?_append, hkept]

/-- A creation fails only with an allocation error for the size asked. -/
theorem createWith_error {g : Nat → Bool} {d : Device} {size align : Nat} {e : Error}
    (hc : d.createWith g size align = .error e) : ∃ r, e = .allocation size r := by
  unfold createWith at hc
  simp only at hc
  split_ifs at hc <;> simp only [Except.error.injEq] at hc <;> exact ⟨_, hc.symm⟩

end Device

end Host

namespace Surface

/-! ### Storage sizes -/

/-- The storage size of a surface overflows exactly when a padded side leaves 32 bits or the
bytes of the padded sides leave a machine word. -/
theorem storageSize_eq_none_iff {w h : Nat} {f : Format} {l : Layout} :
    storageSize w h f l = none ↔ u32Max < l.padded w ∨ u32Max < l.padded h ∨
      wordMax < l.padded w * f.bytesPerPixel * l.padded h := by
  unfold storageSize
  cases l <;> simp only [Layout.padded] <;> split_ifs <;> simp only [true_iff, false_iff] <;> omega

/-- A storage size that does not overflow has padded sides of 32 bits and fits a machine word. -/
theorem storageSize_fits {w h : Nat} {f : Format} {l : Layout} {p n : Nat}
    (hs : storageSize w h f l = some (p, n)) :
    l.padded w ≤ u32Max ∧ l.padded h ≤ u32Max ∧ n ≤ wordMax := by
  obtain ⟨hp, hn⟩ := storageSize_eq_some hs
  have hsome : ¬ storageSize w h f l = none := by simp [hs]
  rw [storageSize_eq_none_iff] at hsome
  subst hp hn
  omega

/-! ### The steps of an offset -/

/-- The values that computing the offset of the pixel `(x, y)` goes through, in order, as
`Surface.pixelOffset` computes it: the last is the offset. -/
def offsetSteps (s : Surface) (x y : Nat) : List Nat :=
  let bpp := s.format.bytesPerPixel
  match s.layout with
  | .linear => [y * s.pitch, x * bpp, y * s.pitch + x * bpp]
  | .tiled =>
    let tilesPerRow := s.pitch / (tileSide * bpp)
    let tile := (y / tileSide) * tilesPerRow + x / tileSide
    let inTile := (y % tileSide) * tileSide + x % tileSide
    [tileSide * bpp, tilesPerRow, (y / tileSide) * tilesPerRow, tile, (y % tileSide) * tileSide,
      inTile, tile * tileSide, tile * tileSide * tileSide, tile * tileSide * tileSide + inTile,
      (tile * tileSide * tileSide + inTile) * bpp]

theorem Format.bytesPerPixel_le (f : Format) : f.bytesPerPixel ≤ 4 := by
  cases f <;> decide

section Laid

variable {s : Surface} (hs : s.Laid)
include hs

theorem Laid.size_le : s.view.size ≤ wordMax :=
  (storageSize_fits hs).2.2

/-- A tiled row of the pitch holds as many tiles as the padded width. -/
theorem Laid.tilesPerRow_eq (hl : s.layout = .tiled) :
    s.pitch / (tileSide * s.format.bytesPerPixel) = Layout.tiled.padded s.width / tileSide := by
  obtain ⟨hp, -⟩ := storageSize_eq_some hs
  obtain ⟨hpad, -⟩ := tiles_padded s.width
  rw [hl] at hp
  rw [hp, hpad, Nat.mul_div_cancel _ (by decide : 0 < tileSide), Nat.mul_assoc,
    Nat.mul_div_cancel _ (Nat.mul_pos (by decide) s.format.bytesPerPixel_pos)]

/-- **No overflow.**  Every value that computing the offset of a pixel of the surface goes
through is a machine word: each is at most the offset, or at most the bytes of a row of a tile. -/
theorem Laid.offsetSteps_le {x y : Nat} (hx : x < s.width) (hy : y < s.height) :
    ∀ v ∈ s.offsetSteps x y, v ≤ wordMax := by
  have hpo : s.pixelOffset x y ≤ wordMax := by
    have := hs.pixel_fits hx hy
    have := hs.size_le
    omega
  have hbpp := s.format.bytesPerPixel_pos
  have hbpp' := s.format.bytesPerPixel_le
  unfold Surface.offsetSteps
  unfold Surface.pixelOffset at hpo
  cases hl : s.layout with
  | linear =>
    rw [hl] at hpo
    dsimp only at hpo ⊢
    simp only [List.mem_cons, List.not_mem_nil, or_false]
    rintro v (rfl | rfl | rfl) <;> omega
  | tiled =>
    rw [hl] at hpo
    dsimp only at hpo ⊢
    -- the offset is the place in the tiles times the bytes of a pixel, and the place is no more
    have hplace := Nat.le_mul_of_pos_right
      (((y / tileSide) * (s.pitch / (tileSide * s.format.bytesPerPixel)) + x / tileSide) *
        tileSide * tileSide + ((y % tileSide) * tileSide + x % tileSide)) hbpp
    have hrow : s.pitch / (tileSide * s.format.bytesPerPixel) ≤ Layout.tiled.padded s.width := by
      rw [hs.tilesPerRow_eq hl]
      exact Nat.div_le_self _ _
    have hpad := (storageSize_fits hs).1
    rw [hl] at hpad
    simp only [List.mem_cons, List.not_mem_nil, or_false]
    simp only [tileSide, wordMax, u32Max, Nat.pow_eq, Nat.reducePow] at *
    rintro v (rfl | rfl | rfl | rfl | rfl | rfl | rfl | rfl | rfl | rfl) <;> omega

/-- **Tiles.**  In the tiled layout the pixel `(x, y)` lies in the tile of column `x / 16` and
row `y / 16` of a row-major grid of `pitch / (16 · bpp)` tiles a row, at the place of row
`y % 16` and column `x % 16` of the tile. -/
theorem Laid.tile_of_tiled (hl : s.layout = .tiled) {x y : Nat} (hx : x < s.width) :
    s.pixelOffset x y / (tileSide * tileSide * s.format.bytesPerPixel) =
        (y / tileSide) * (s.pitch / (tileSide * s.format.bytesPerPixel)) + x / tileSide ∧
      s.pixelOffset x y % (tileSide * tileSide * s.format.bytesPerPixel) =
        ((y % tileSide) * tileSide + x % tileSide) * s.format.bytesPerPixel ∧
      x / tileSide < s.pitch / (tileSide * s.format.bytesPerPixel) := by
  have hbpp := s.format.bytesPerPixel_pos
  have hin : ((y % tileSide) * tileSide + x % tileSide) * s.format.bytesPerPixel <
      tileSide * tileSide * s.format.bytesPerPixel := by
    refine Nat.mul_lt_mul_of_pos_right ?_ hbpp
    simp only [tileSide]
    omega
  have hoff : s.pixelOffset x y = ((y % tileSide) * tileSide + x % tileSide) * s.format.bytesPerPixel +
      ((y / tileSide) * (s.pitch / (tileSide * s.format.bytesPerPixel)) + x / tileSide) *
        (tileSide * tileSide * s.format.bytesPerPixel) := by
    unfold Surface.pixelOffset
    rw [hl]
    ring
  refine ⟨?_, ?_, ?_⟩
  · rw [hoff, Nat.add_mul_div_right _ _ (by simp only [tileSide]; omega), Nat.div_eq_of_lt hin,
      Nat.zero_add]
  · rw [hoff, Nat.add_mul_mod_self_right, Nat.mod_eq_of_lt hin]
  · rw [hs.tilesPerRow_eq hl]
    obtain ⟨hpad, -⟩ := tiles_padded s.width
    rw [hpad, Nat.mul_div_cancel _ (by decide)]
    simp only [tileSide]
    omega

end Laid

/-! ### Reads and writes of pixels -/

variable {s : Surface} {m m' : Machine}

/-- **A read outside the surface** is refused, and changes nothing. -/
theorem run_readPixel_outside {x y : Nat} (hb : s.width ≤ x ∨ s.height ≤ y) (m : Machine) :
    Exec.run (s.readPixel x y) m = (.error (.pixelOutOfBounds x y s.width s.height), m) := by
  unfold Surface.readPixel Surface.checkBounds
  rw [if_pos hb, run_bind]
  rfl

/-- **A write outside the surface** is refused, and changes nothing. -/
theorem run_writePixel_outside {x y : Nat} (hb : s.width ≤ x ∨ s.height ≤ y) (raw : UInt32)
    (m : Machine) :
    Exec.run (s.writePixel x y raw) m = (.error (.pixelOutOfBounds x y s.width s.height), m) := by
  unfold Surface.writePixel Surface.checkBounds
  rw [if_pos hb, run_bind]
  rfl

/-- A pixel write that succeeds was granted its mapping. -/
theorem mappable_of_writePixel_ok {x y : Nat} {raw : UInt32} {u : Unit}
    (hw : Exec.run (s.writePixel x y raw) m = (.ok u, m')) : s.view.Mappable m := by
  by_contra hm
  obtain ⟨hx, hy, -⟩ := Surface.run_writePixel_ok hw
  unfold Surface.writePixel Surface.checkBounds at hw
  rw [if_neg (by omega), run_bind, run_pure] at hw
  dsimp only at hw
  rw [run_bind] at hw
  obtain ⟨e, j, hrun⟩ := run_withMap_of_refused hm (s.view.modifyStorage ()
    fun data => (s.format.store data (s.view.offset + s.pixelOffset x y) raw, ()))
  rw [hrun] at hw
  cases hw

/-- **Read after write.**  After a pixel write into a surface whose allocation covers its view,
a read of a pixel of the surface gives what the format keeps of the value written at the pixel
written, and what it gave before at every other pixel. -/
theorem readPixel_writePixel (hs : s.Laid) (hspan : s.view.Spans m) {x y : Nat}
    {raw : UInt32} {u : Unit} (hw : Exec.run (s.writePixel x y raw) m = (.ok u, m')) {x' y' : Nat}
    (hx' : x' < s.width) (hy' : y' < s.height) :
    (Exec.run (s.readPixel x' y') m').1 =
      if x' = x ∧ y' = y then .ok (s.format.truncate raw) else (Exec.run (s.readPixel x' y') m).1 := by
  obtain ⟨hx, hy, hred⟩ := Surface.run_writePixel_ok hw
  have hmap := Surface.mappable_of_writePixel_ok hw
  have halike : m.Alike m' :=
    hred.alike (shapes_paintObjects (fun d => Format.size_store _ d _ raw) _ _)
  obtain ⟨d, hd, hsize⟩ := exists_storage (View.holds_of_mappable hmap) hspan
  -- the write rewrote the storage under the surface's handle, and nothing else
  have hd' : m'.device.storage? s.view.handle =
      some (s.format.store d (s.view.offset + s.pixelOffset x y) raw) := by
    rw [storage?_eq_dataOf, hred.objects, dataOf_paintObjects, if_pos rfl, ← storage?_eq_dataOf, hd,
      Option.map_some]
  rw [Surface.run_readPixel ((halike.mappable_iff _).2 hmap) hx' hy', Surface.run_readPixel hmap hx' hy',
    pixelAt_eq_pixelIn hs hd' hx' hy', pixelAt_eq_pixelIn hs hd hx' hy',
    pixelIn_store hs hsize hx hy hx' hy']
  by_cases h : x' = x ∧ y' = y
  · obtain ⟨rfl, rfl⟩ := h
    simp
  · have h' : ¬ (x = x' ∧ y = y') := fun ⟨h1, h2⟩ => h ⟨h1.symm, h2.symm⟩
    simp only [h, h', if_false]

/-! ### Addressed surfaces -/

/-- What the addressing of a surface keeps to.  The pixels of the surface have distinct offsets,
each a whole number of pixels with the bytes of its pixel inside the view, computed without
leaving a machine word; in the tiled layout a pixel lies in its tile of a row-major grid; a clear
fills the view with whole pixels; a write is read back at its own pixel only; and a pixel
outside the surface is refused before anything changes. -/
structure Addressed (s : Surface) : Prop where
  /-- Two pixels of the surface have two offsets. -/
  injective : ∀ {x y x' y' : Nat}, x < s.width → y < s.height → x' < s.width → y' < s.height →
    s.pixelOffset x y = s.pixelOffset x' y' → x = x' ∧ y = y'
  /-- Every offset is a whole number of pixels. -/
  aligned : ∀ x y : Nat, s.format.bytesPerPixel ∣ s.pixelOffset x y
  /-- The bytes of every pixel of the surface lie in the view. -/
  fits : ∀ {x y : Nat}, x < s.width → y < s.height →
    s.pixelOffset x y + s.format.bytesPerPixel ≤ s.view.size
  /-- No step of computing an offset leaves a machine word. -/
  noOverflow : ∀ {x y : Nat}, x < s.width → y < s.height → ∀ v ∈ s.offsetSteps x y, v ≤ wordMax
  /-- The tile of a pixel in the tiled layout, and its place in the tile. -/
  tile : s.layout = .tiled → ∀ {x y : Nat}, x < s.width →
    s.pixelOffset x y / (tileSide * tileSide * s.format.bytesPerPixel) =
        (y / tileSide) * (s.pitch / (tileSide * s.format.bytesPerPixel)) + x / tileSide ∧
      s.pixelOffset x y % (tileSide * tileSide * s.format.bytesPerPixel) =
        ((y % tileSide) * tileSide + x % tileSide) * s.format.bytesPerPixel ∧
      x / tileSide < s.pitch / (tileSide * s.format.bytesPerPixel)
  /-- The pixels a clear fills are the whole view. -/
  clearCovers : s.view.size / s.format.bytesPerPixel * s.format.bytesPerPixel = s.view.size
  /-- A write is read back at its own pixel, and every other pixel reads as before. -/
  readAfterWrite : ∀ {m m' : Machine} {x y : Nat} {raw : UInt32} {u : Unit}, s.view.Spans m →
    Exec.run (s.writePixel x y raw) m = (.ok u, m') → ∀ {x' y' : Nat}, x' < s.width → y' < s.height →
    (Exec.run (s.readPixel x' y') m').1 =
      if x' = x ∧ y' = y then .ok (s.format.truncate raw) else (Exec.run (s.readPixel x' y') m).1
  /-- A read or a write outside the surface is refused, and changes nothing. -/
  outside : ∀ {x y : Nat} (raw : UInt32) (m : Machine), s.width ≤ x ∨ s.height ≤ y →
    Exec.run (s.readPixel x y) m = (.error (.pixelOutOfBounds x y s.width s.height), m) ∧
      Exec.run (s.writePixel x y raw) m = (.error (.pixelOutOfBounds x y s.width s.height), m)

/-- **A laid-out surface is addressed.** -/
theorem Laid.addressed (hs : s.Laid) : s.Addressed where
  injective hx _ hx' _ heq := by
    rw [hs.pixelOffset_eq, hs.pixelOffset_eq] at heq
    exact Surface.cellOf_inj hx hx' (Nat.eq_of_mul_eq_mul_right s.format.bytesPerPixel_pos heq)
  aligned x y := by
    rw [hs.pixelOffset_eq]
    exact Dvd.intro_left _ rfl
  fits := hs.pixel_fits
  noOverflow := hs.offsetSteps_le
  tile hl _ _ hx := hs.tile_of_tiled hl hx
  clearCovers := by
    rw [hs.size_eq, Nat.mul_div_cancel _ s.format.bytesPerPixel_pos]
  readAfterWrite hspan hw _ _ hx' hy' := Surface.readPixel_writePixel hs hspan hw hx' hy'
  outside raw m hb := ⟨Surface.run_readPixel_outside hb m, Surface.run_writePixel_outside hb raw m⟩

/-! ### Making a surface -/

section Create

variable {w h : Nat} {f : Format} {l : Layout}

/-- A surface whose storage size overflows is refused, and nothing changes. -/
theorem run_create_of_overflow (hw : 0 < w) (hh : 0 < h) (hs : storageSize w h f l = none)
    (m : Machine) :
    Exec.run (Surface.create w h f l) m = (.error (.allocation wordMax (.surfaceOverflow w h)), m) := by
  unfold Surface.create
  rw [if_neg (by omega), hs]
  rfl

/-- A surface whose buffer object the device refuses is refused with the device's error, and
nothing changes. -/
theorem run_create_of_refused (hw : 0 < w) (hh : 0 < h) {p n : Nat}
    (hs : storageSize w h f l = some (p, n)) {e : Error} (hc : m.device.create n 2 = .error e) :
    Exec.run (Surface.create w h f l) m = (.error e, m) := by
  unfold Surface.create
  rw [if_neg (by omega), hs]
  dsimp only
  rw [run_bind]
  rcases run_allocate n { renderTarget := true } m with ⟨e', hc', hrun⟩ | ⟨hd, d, j, hc', hrun⟩
  · rw [hrun]
    rw [hc] at hc'
    cases hc'
    rfl
  · rw [hc] at hc'
    cases hc'

/-- A surface whose buffer object the device gives is made, on a new store of its own. -/
theorem run_create_of_granted (hw : 0 < w) (hh : 0 < h) {p n : Nat}
    (hs : storageSize w h f l = some (p, n)) {hd : Handle} {d : Host.Device}
    (hc : m.device.create n 2 = .ok (hd, d)) :
    ∃ j, Exec.run (Surface.create w h f l) m =
      (.ok ⟨w, h, f, l, p, ⟨m.stores.next, hd, 0, n, { renderTarget := true }⟩⟩,
        { m with device := d, stores := (m.stores.add { handle := hd, size := n, refs := 1 }).2,
                 journal := j }) := by
  unfold Surface.create
  rw [if_neg (by omega), hs]
  dsimp only
  rw [run_bind]
  rcases run_allocate n { renderTarget := true } m with ⟨e, hc', -⟩ | ⟨hd', d', j, hc', hrun⟩
  · rw [hc] at hc'
    cases hc'
  · rw [hc] at hc'
    cases hc'
    rw [hrun]
    exact ⟨_, rfl⟩

/-- The allocation a creation gives covers a view of all of it, and the device holds it. -/
theorem created_spans {d₀ d : Host.Device} {n : Nat} {hd : Handle} (hc : d₀.create n 2 = .ok (hd, d))
    (hn : n ≤ wordMax) {m' : Machine} (hm' : m'.device = d) (k : Nat) (flags : Flags) :
    m'.device.holds hd = true ∧ View.Spans m' ⟨k, hd, 0, n, flags⟩ := by
  have hobj := Device.object?_createWith hc
  rw [← hm'] at hobj
  refine ⟨?_, ?_⟩
  · obtain ⟨hmem, hhandle⟩ := Device.object?_eq_some hobj
    exact Device.holds_iff.2 (List.mem_map.2 ⟨_, hmem, hhandle⟩)
  · intro a ha
    have ha' : a = ⟨hd, roundUp n (max 2 1), zeros (roundUp n (max 2 1))⟩ :=
      Option.some.inj (ha.symm.trans hobj)
    subst ha'
    have htwo : max 2 1 = 2 := rfl
    simp only [size_zeros, roundUp, htwo]
    omega

end Create

/-- What making a surface of a positive width and height does.  It fails exactly when a padded
side leaves 32 bits, the bytes of the padded sides leave a machine word, or the device refuses
the buffer object; a failure is an allocation error and changes nothing; and a surface it makes
is addressed, on an allocation that the device holds and that covers its view. -/
structure CreateContract (w h : Nat) (f : Format) (l : Layout) (m : Machine) : Prop where
  /-- When making the surface fails. -/
  fails_iff : (∃ e m', Exec.run (Surface.create w h f l) m = (.error e, m')) ↔
    (u32Max < l.padded w ∨ u32Max < l.padded h ∨
        wordMax < l.padded w * f.bytesPerPixel * l.padded h) ∨
      ∃ p n e, storageSize w h f l = some (p, n) ∧ m.device.create n 2 = .error e
  /-- A failure is an allocation error, and changes nothing. -/
  failure : ∀ e m', Exec.run (Surface.create w h f l) m = (.error e, m') →
    m' = m ∧ ∃ size reason, e = .allocation size reason
  /-- A surface made is addressed, on an allocation held and covering its view. -/
  success : ∀ s m', Exec.run (Surface.create w h f l) m = (.ok s, m') →
    s.Addressed ∧ m'.device.holds s.view.handle = true ∧ s.view.Spans m'

/-- **Making a surface** fails exactly when its storage size overflows or the device refuses,
changing nothing, and every surface it makes is addressed. -/
theorem create_addressed {w h : Nat} (hw : 0 < w) (hh : 0 < h) (f : Format) (l : Layout)
    (m : Machine) : CreateContract w h f l m := by
  cases hs : storageSize w h f l with
  | none =>
    have hrun := run_create_of_overflow hw hh hs m
    refine ⟨⟨fun _ => .inl (storageSize_eq_none_iff.1 hs), fun _ => ⟨_, _, hrun⟩⟩, ?_, ?_⟩
    · intro e m' he
      rw [hrun] at he
      cases he
      exact ⟨rfl, _, _, rfl⟩
    · intro s m' hok
      rw [hrun] at hok
      cases hok
  | some pn =>
    obtain ⟨p, n⟩ := pn
    cases hc : m.device.create n 2 with
    | error e =>
      -- the device refuses the buffer object
      have hrun := run_create_of_refused hw hh hs hc
      refine ⟨⟨fun _ => .inr ⟨p, n, e, hs, hc⟩, fun _ => ⟨_, _, hrun⟩⟩, ?_, ?_⟩
      · intro e' m' he
        rw [hrun] at he
        cases he
        obtain ⟨r, rfl⟩ := Device.createWith_error hc
        exact ⟨rfl, _, r, rfl⟩
      · intro s m' hok
        rw [hrun] at hok
        cases hok
    | ok r =>
      -- the device gives the buffer object, and the surface is made
      obtain ⟨hd, d⟩ := r
      obtain ⟨j, hrun⟩ := run_create_of_granted hw hh hs hc
      have hfits : ¬ (u32Max < l.padded w ∨ u32Max < l.padded h ∨
          wordMax < l.padded w * f.bytesPerPixel * l.padded h) := by
        rw [← storageSize_eq_none_iff, hs]
        simp
      refine ⟨⟨?_, ?_⟩, ?_, ?_⟩
      · rintro ⟨e, m', he⟩
        rw [hrun] at he
        cases he
      · rintro (hover | ⟨p', n', e, hs', hc'⟩)
        · exact absurd hover hfits
        · rw [hs] at hs'
          cases hs'
          rw [hc] at hc'
          cases hc'
      · intro e m' he
        rw [hrun] at he
        cases he
      · intro s m' hok
        rw [hrun] at hok
        cases hok
        exact ⟨Surface.Laid.addressed hs, created_spans hc (storageSize_fits hs).2.2 rfl _ _⟩

/-- A tiled surface of 17 by 3 pixels of two bytes, made on a new machine. -/
theorem create_addressed_tiled : 0 < 17 ∧ 0 < 3 ∧ CreateContract 17 3 .rgb565 .tiled {} :=
  ⟨by decide, by decide, create_addressed (by decide) (by decide) .rgb565 .tiled {}⟩

end Surface

end TegraGpu
