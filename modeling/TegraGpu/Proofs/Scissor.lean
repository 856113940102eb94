import Mathlib
import TegraGpu.Proofs.Checks
/-!
# The scissor

A draw clips every triangle to the clip rectangle of the engine's scissor: its first column and
row, and its last, each saturated to signed 32-bit numbers.  A scissor whose far edges fit is
clipped exactly to its own columns and rows, and a scissor with no columns or no rows to nothing
at all.  Whatever the scissor and whatever the draw's outcome, a draw writes only bytes of the
enabled render targets, each within a pixel of the target that lies in the scissor.

* `Scissor.Contains` : the pixels of a scissor.
* `clipOf_of_fits`, `not_admits_clipOf`, `contains_of_admits_clipOf` : the clip rectangle of a
  scissor.
* `run_draw_eq`, `draw_objects` : a draw, whatever its outcome, leaves the allocations as
  drawing into a prefix of the slots leaves them, and a draw that succeeds drew every slot.
* `draw_within_scissor` : **scissor containment**.
-/

namespace TegraGpu

open Buffer Host Exec Act Surface

namespace Raster

/-- The pixels of a scissor: its `width` columns from `x` on and its `height` rows from `y` on. -/
def Scissor.Contains (sc : Scissor) (px py : Nat) : Prop :=
  sc.x ≤ px ∧ px < sc.x + sc.width ∧ sc.y ≤ py ∧ py < sc.y + sc.height

namespace Engine

/-- A scissor whose far edges fit in signed 32-bit numbers is clipped to exactly its columns and
rows. -/
theorem clipOf_of_fits {sc : Scissor} (hx : ((sc.x + sc.width : Nat) : Int) ≤ int32Max)
    (hy : ((sc.y + sc.height : Nat) : Int) ≤ int32Max) :
    clipOf sc = ⟨sc.x, sc.y, (sc.x + sc.width : Nat) - 1, (sc.y + sc.height : Nat) - 1⟩ := by
  have hx' : (sc.x : Int) ≤ int32Max := le_trans (by omega) hx
  have hy' : (sc.y : Int) ≤ int32Max := le_trans (by omega) hy
  simp only [clipOf, min_eq_left hx, min_eq_left hy, min_eq_left hx', min_eq_left hy']

/-- A column between the saturated first and last columns of a run of columns is one of the run:
saturating both ends never widens the run. -/
theorem mem_run_of_saturated {a w p : Nat} (hl : min (a : Int) int32Max ≤ p)
    (hr : (p : Int) ≤ min ((a + w : Nat) : Int) int32Max - 1) : a ≤ p ∧ p < a + w := by
  push_cast at hr
  omega

/-- The clip rectangle of a scissor admits only pixels of the scissor and the surface. -/
theorem contains_of_admits_clipOf {sc : Scissor} {width height px py : Nat}
    (h : (clipOf sc).Admits width height px py) :
    sc.Contains px py ∧ px < width ∧ py < height := by
  simp only [Clip.Admits, clipOf] at h
  obtain ⟨hl, hr, ht, hb, hw, hh⟩ := h
  obtain ⟨hx, hx'⟩ := mem_run_of_saturated hl hr
  obtain ⟨hy, hy'⟩ := mem_run_of_saturated ht hb
  exact ⟨⟨hx, hx', hy, hy'⟩, hw, hh⟩

/-- A scissor with no columns or no rows admits no pixel. -/
theorem not_admits_clipOf {sc : Scissor} (h0 : sc.width = 0 ∨ sc.height = 0)
    (width height px py : Nat) : ¬ (clipOf sc).Admits width height px py := by
  intro h
  obtain ⟨⟨hx0, hx, hy0, hy⟩, -⟩ := contains_of_admits_clipOf h
  omega

/-! ### What a draw writes -/

/-- A stage that keeps all but the journal leaves the machine it ran on but for the journal. -/
theorem run_of_keeps {α : Type} {a : Act α} (h : Keeps Machine.withoutJournal a) {m m' : Machine}
    {r : Except Error α} (hr : Exec.run a m = (r, m')) : m' = { m with journal := m'.journal } := by
  have hm := Machine.eq_of_withoutJournal (h.run_eq m)
  rw [hr] at hm
  exact hm

/-- **The run of a draw.**  Whatever its outcome, a draw leaves the machine as drawing some
triangles, clipped to the scissor's rectangle, into the enabled render targets of a prefix of the
slots leaves it, with records and invalidations added: its checks write only records, and the
render target loop stops, if it stops early, after a slot.  A draw that succeeds drew into every
slot. -/
theorem run_draw_eq (e : Engine) (prim : Primitive) (v : View) (width : IndexWidth)
    (count : Nat) (m : Machine) :
    ∃ tris l₁ r j inv, l₁ <+: List.range targetSlots ∧
      Exec.run (e.draw prim v width count) m = (r, { m with
        device := { m.device with
          objects := e.paintSlots (clipOf e.state.scissor) tris l₁ m.device.objects,
          invalidations := inv },
        journal := j }) ∧
      (r = .ok () → l₁ = List.range targetSlots) := by
  unfold draw
  rw [run_bind]
  -- every step before the loop leaves the machine but for the journal
  rcases hr₁ : Exec.run (e.prepare prim) m with ⟨err | ⟨ps, cs⟩, m₁⟩ <;>
    have hm₁ := run_of_keeps (e.keeps_withoutJournal_prepare prim) hr₁
  · refine ⟨[], [], .error err, m₁.journal, m.device.invalidations, List.nil_prefix, ?_,
      fun h => by cases h⟩
    rw [hm₁]
    rfl
  dsimp only
  rw [run_bind]
  rcases hr₂ : Exec.run (readIndices v width count) m₁ with ⟨err | indices, m₂⟩ <;>
    have hm₂ := run_of_keeps (keeps_withoutJournal_readIndices v width count) hr₂
  · refine ⟨[], [], .error err, m₂.journal, m.device.invalidations, List.nil_prefix, ?_,
      fun h => by cases h⟩
    rw [hm₂, hm₁]
    rfl
  dsimp only
  rw [run_bind]
  rcases hr₃ : Exec.run (indices.toList.mapM (e.vertexOf ps cs)) m₂ with ⟨err | verts, m₃⟩ <;>
    have hm₃ := run_of_keeps
      (Keeps.mapM_list indices.toList fun i => e.keeps_withoutJournal_vertexOf ps cs i) hr₃
  · refine ⟨[], [], .error err, m₃.journal, m.device.invalidations, List.nil_prefix, ?_,
      fun h => by cases h⟩
    rw [hm₃, hm₂, hm₁]
    rfl
  dsimp only
  rw [run_bind, run_note]
  dsimp only
  rw [run_bind_pure_unit]
  -- the loop starts from the allocations the draw started with
  obtain ⟨r, l₁, j, inv, hl₁, hloop, hok, -⟩ := e.run_drawTargets (clipOf e.state.scissor)
    (trianglesOf e.state verts) (List.range targetSlots)
    { m₃ with journal := m₃.journal.push _ }
  refine ⟨trianglesOf e.state verts, l₁, r, j, inv, hl₁, ?_, fun hr => (hok hr).1⟩
  rw [hloop, hm₃, hm₂, hm₁]

/-- **What a draw leaves in the allocations.**  Whatever its outcome, a draw leaves the
allocations as drawing some triangles, clipped to the scissor's rectangle, into the enabled
render targets of a prefix of the slots leaves them. -/
theorem draw_objects (e : Engine) (prim : Primitive) (v : View) (width : IndexWidth)
    (count : Nat) (m : Machine) :
    ∃ tris l₁, l₁ <+: List.range targetSlots ∧
      (Exec.run (e.draw prim v width count) m).2.device.objects =
        e.paintSlots (clipOf e.state.scissor) tris l₁ m.device.objects := by
  obtain ⟨tris, l₁, r, j, inv, hl₁, hrun, -⟩ := e.run_draw_eq prim v width count m
  exact ⟨tris, l₁, hl₁, by rw [hrun]⟩

/-- **Scissor containment.**  Whatever the scissor and whatever the outcome of a draw, every
byte the draw changes lies under the handle of an enabled render target of one of the slots,
within the bytes of a pixel of that target's surface that lies in the scissor.  The clip
rectangle of a scissor whose far edges fit in signed 32-bit numbers is exactly its columns and
rows, and a scissor with no columns or no rows admits no pixel. -/
theorem draw_within_scissor (e : Engine) (prim : Primitive) (v : View) (width : IndexWidth)
    (count : Nat) (m : Machine) :
    (∀ h p, (Exec.run (e.draw prim v width count) m).2.byteAt h p ≠ m.byteAt h p →
      ∃ slot < targetSlots, ∃ t, e.targets[slot]?.join = some t ∧ t.enabled = true ∧
        t.surface.view.handle = h ∧ ∃ px py, e.state.scissor.Contains px py ∧
          px < t.surface.width ∧ py < t.surface.height ∧
          t.surface.view.offset + t.surface.pixelOffset px py ≤ p ∧
          p < t.surface.view.offset + t.surface.pixelOffset px py + t.surface.format.bytesPerPixel) ∧
    (∀ sc : Scissor, ((sc.x + sc.width : Nat) : Int) ≤ int32Max →
      ((sc.y + sc.height : Nat) : Int) ≤ int32Max →
      clipOf sc = ⟨sc.x, sc.y, (sc.x + sc.width : Nat) - 1, (sc.y + sc.height : Nat) - 1⟩) ∧
    (∀ sc : Scissor, sc.width = 0 ∨ sc.height = 0 →
      ∀ w hgt px py, ¬ (clipOf sc).Admits w hgt px py) := by
  refine ⟨fun h p hne => ?_, fun _ hx hy => clipOf_of_fits hx hy,
    fun _ h0 => not_admits_clipOf h0⟩
  obtain ⟨tris, l₁, hl₁, hobj⟩ := draw_objects e prim v width count m
  unfold Machine.byteAt at hne
  rw [hobj] at hne
  obtain ⟨slot, hslot, t, ht, hh, w, hw, hp⟩ := e.footprint_of_paintSlots _ _ hne
  obtain ⟨htj, hen⟩ := (e.drawnTarget?_eq_some).1 ht
  -- the pixel is one the triangles write, so it lies in the clip rectangle and the surface
  obtain ⟨hsc, hwx, hwy⟩ := contains_of_admits_clipOf (mem_trianglesWrites hw)
  exact ⟨slot, List.mem_range.1 (hl₁.subset hslot), t, htj, hen, hh, w.1, w.2.1, hsc, hwx, hwy, hp⟩

end Engine

end Raster

end TegraGpu
