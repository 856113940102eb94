import Mathlib
import TegraGpu.Proofs.Engine
/-!
# What a draw refuses, and where it stops

A draw first makes its checks, on the primitive and the program, and reads the positions and the
colors through mappings (`Engine.prepare`); only then does it read its indices.  The bytes the
indices take are a product of machine words: when it passes the largest word the draw stops
there with the overflow, before the buffer is looked at.  Otherwise an index buffer too short
for the indices fails the draw with the draw error that names the count, the bytes the indices
need and the size of the buffer.  No other step of a draw stops on an overflow.

* `run_readIndices_overflow`, `run_readIndices_short` : reading indices whose bytes pass a
  machine word, or that the buffer does not hold, fails before the buffer is mapped.
* `spares_prepare`, `spares_draw` : the checks never overflow, and neither does the rest of a
  draw whose indices' bytes fit a word.
* `draw_overrunning_indices` : a draw overflows exactly when its checks pass and its indices'
  bytes pass a machine word; indices that overrun their buffer fail the draw past its checks.
* `sample`, `sampleMachine` : an engine ready to draw, on a machine of zeros.
-/

namespace TegraGpu

open Buffer Exec Act Surface

namespace Raster.Engine

variable {v : View} {width : IndexWidth} {count : Nat}

/-! ### Reading the indices -/

/-- Indices whose bytes pass the largest machine word stop the read before anything else. -/
theorem run_readIndices_overflow (hover : Host.wordMax < count * width.bytes) (m : Machine) :
    Exec.run (readIndices v width count) m = (.error .mulOverflow, m) := by
  unfold readIndices
  dsimp only
  rw [if_pos hover]
  exact run_bind_error (run_throw _ _) _

/-- Reading more indices than the buffer holds is refused before the buffer is mapped. -/
theorem run_readIndices_short (hfit : ¬ Host.wordMax < count * width.bytes)
    (hshort : v.size < count * width.bytes) (m : Machine) :
    Exec.run (readIndices v width count) m =
      (.error (.draw (.shortIndices count (count * width.bytes) v.size)), m) := by
  unfold readIndices
  dsimp only
  rw [if_neg hfit, if_pos hshort]
  exact run_bind_error (run_throw _ _) _

/-! ### Nothing else overflows -/

theorem spares_fetch (e : Engine) (loc : Nat) : Spares Error.mulOverflow (e.fetch loc) := by
  unfold fetch
  refine Spares.bind (spares_ofExcept ?_) fun slot => ?_
  · unfold attribSlot
    split_ifs <;> simp
  repeat' first
    | with_reducible exact Spares.pure _
    | with_reducible exact Spares.get
    | with_reducible refine Spares.throw_bind ?_
    | with_reducible refine Spares.throw ?_
    | with_reducible refine spares_withMap _ ?_
    | with_reducible refine Spares.bind ?_ fun _ => ?_
    | with_reducible refine Spares.ite ?_ ?_
    | split
    | simp

/-- The checks of a draw fail with draw and shader errors, and with what mapping refuses. -/
theorem spares_prepare (e : Engine) (prim : Primitive) :
    Spares Error.mulOverflow (e.prepare prim) := by
  unfold prepare
  dsimp only
  repeat' first
    | with_reducible exact Spares.pure _
    | with_reducible exact e.spares_fetch _
    | with_reducible refine Spares.throw_bind ?_
    | with_reducible refine Spares.throw ?_
    | with_reducible refine Spares.bind ?_ fun _ => ?_
    | with_reducible refine Spares.ite ?_ ?_
    | split
    | simp

theorem spares_vertexOf (e : Engine) (positions : Array Vec4) (colors : Option (Array Vec4))
    (i : Nat) : Spares Error.mulOverflow (e.vertexOf positions colors i) := by
  unfold vertexOf
  dsimp only
  repeat' first
    | with_reducible exact Spares.pure _
    | with_reducible refine Spares.throw_bind ?_
    | with_reducible refine Spares.throw ?_
    | with_reducible refine Spares.bind ?_ fun _ => ?_
    | split
    | simp

theorem spares_drawTarget (e : Engine) (clip : Clip) (tris : List (Vertex × Vertex × Vertex))
    (slot : Nat) : Spares Error.mulOverflow (e.drawTarget clip tris slot) := by
  unfold drawTarget rasterizeInto View.invalidate View.modifyStorage
  repeat' first
    | with_reducible exact Spares.pure _
    | with_reducible exact Spares.modifyGet _
    | with_reducible exact spares_note _ _ _ _
    | with_reducible exact spares_emit _ _
    | with_reducible exact spares_invalidate _ _ _
    | with_reducible refine spares_withMap _ ?_
    | with_reducible refine Spares.forIn_array _ _ fun _ _ => ?_
    | with_reducible refine Spares.bind ?_ fun _ => ?_
    | with_reducible refine Spares.ite ?_ ?_
    | split

/-- Indices whose bytes fit a machine word are read without overflow. -/
theorem spares_readIndices (hfit : ¬ Host.wordMax < count * width.bytes) :
    Spares Error.mulOverflow (readIndices v width count) := by
  unfold readIndices
  dsimp only
  rw [if_neg hfit]
  exact Spares.ite (Spares.throw_bind (by simp))
    (Spares.bind (spares_withMap v (Spares.bind Spares.get fun _ => Spares.pure _)) fun _ =>
      Spares.pure _)

/-- A draw whose indices' bytes fit a machine word never stops on an overflow. -/
theorem spares_draw (e : Engine) (prim : Primitive) (hfit : ¬ Host.wordMax < count * width.bytes) :
    Spares Error.mulOverflow (e.draw prim v width count) := by
  unfold draw
  dsimp only
  repeat' first
    | with_reducible exact Spares.pure _
    | with_reducible exact e.spares_prepare prim
    | with_reducible exact spares_readIndices hfit
    | with_reducible exact spares_note _ _ _ _
    | with_reducible exact e.spares_vertexOf _ _ _
    | with_reducible exact e.spares_drawTarget _ _ _
    | with_reducible refine Spares.mapM_list _ fun _ => ?_
    | with_reducible refine Spares.forIn_list _ _ fun _ _ => ?_
    | with_reducible refine Spares.bind ?_ fun _ => ?_

/-! ### A sample engine

A machine holding a 1×1 surface and two buffers of zeros, and an engine whose linked program
reads its `position` attribute at location 0 from the first buffer, bound and enabled in slot 0,
with the surface as the enabled render target 0; the second buffer holds twelve bytes of
indices. -/

/-- The machine of the sample engine: a surface, then sixteen and twelve bytes of zeros. -/
def sampleMachine : Machine :=
  (Exec.run (do
    let _ ← Surface.create 1 1 .rgba8888 .linear
    let _ ← allocate 16 {}
    let _ ← allocate 12 {}
    pure ()) {}).2

/-- The surface of the sample machine. -/
def sampleTarget : Surface := ⟨1, 1, .rgba8888, .linear, 4, ⟨0, ⟨1⟩, 0, 4, { renderTarget := true }⟩⟩

/-- The sixteen bytes of the sample machine: one vertex of four floats. -/
def samplePositions : View := ⟨1, ⟨2⟩, 0, 16, {}⟩

/-- The twelve bytes of indices of the sample machine. -/
def sampleIndices : View := ⟨2, ⟨3⟩, 0, 12, {}⟩

/-- An engine ready to draw on the sample machine. -/
def sample : Engine :=
  { program := some { vs := { kind := .vertex, attributes := [(0, "position")] },
                      fs := { kind := .fragment }, linker := { kind := .linker }, linked := true },
    pointers := (Array.replicate attribSlots none).set! 0 (some ⟨4, samplePositions⟩),
    enabled := (Array.replicate attribSlots false).set! 0 true,
    targets := (Array.replicate targetSlots none).set! 0 (some ⟨sampleTarget, true⟩) }

/-! ### Indices past their buffer or past a word -/

/-- **A draw stops on an overflowing index count, and refuses indices past their buffer.**  It
fails with the overflow exactly when its checks before the indices pass and the bytes of the
indices pass the largest machine word: nothing else in a draw overflows.  When the indices
overrun their buffer, the draw makes its checks, and fails where they fail; past them it fails
with the overflow when the indices' bytes pass a word, and otherwise with the draw error naming
the count, the bytes the indices need and the size of the buffer. -/
theorem draw_overrunning_indices (e : Engine) (prim : Primitive) (v : View) (width : IndexWidth)
    (count : Nat) (m : Machine) :
    ((Exec.run (e.draw prim v width count) m).1 = .error .mulOverflow ↔
      (∃ r, (Exec.run (e.prepare prim) m).1 = .ok r) ∧ Host.wordMax < count * width.bytes) ∧
    (v.size < count * width.bytes →
      Exec.run (e.draw prim v width count) m =
        Exec.run (e.prepare prim >>= fun _ =>
          throw (if Host.wordMax < count * width.bytes then .mulOverflow
            else .draw (.shortIndices count (count * width.bytes) v.size))) m) := by
  refine ⟨⟨fun hover => ?_, fun ⟨⟨r, hr⟩, hover⟩ => ?_⟩, fun hshort => ?_⟩
  · -- the checks never overflow, and past a word that fits neither does the rest
    by_cases hfit : Host.wordMax < count * width.bytes
    · refine ⟨?_, hfit⟩
      unfold draw at hover
      rw [run_bind] at hover
      rcases hp : Exec.run (e.prepare prim) m with ⟨err | r, m'⟩
      · rw [hp] at hover
        have herr : err = .mulOverflow := by simpa using hover
        have hprep : (Exec.run (e.prepare prim) m).1 = .error .mulOverflow := by simp [hp, herr]
        exact absurd hprep (e.spares_prepare prim m)
      · exact ⟨r, rfl⟩
    · exact absurd hover (e.spares_draw prim hfit m)
  · unfold draw
    rw [run_bind]
    rcases hp : Exec.run (e.prepare prim) m with ⟨err | ⟨positions, colors⟩, m'⟩
    · rw [hp] at hr
      cases hr
    · exact congrArg Prod.fst (run_bind_error (run_readIndices_overflow hover m') _)
  · unfold draw
    rw [run_bind, run_bind]
    rcases Exec.run (e.prepare prim) m with ⟨err | ⟨positions, colors⟩, m'⟩
    · rfl
    · split_ifs with hover
      · exact (run_bind_error (run_readIndices_overflow hover m') _).trans (run_throw _ _).symm
      · exact (run_bind_error (run_readIndices_short hover hshort m') _).trans
          (run_throw _ _).symm

/-- Seven half-word indices overrun the sample's twelve bytes of indices. -/
theorem draw_overrunning_indices_sample :
    sampleIndices.size < 7 * IndexWidth.half.bytes ∧
      Exec.run (sample.draw .triangles sampleIndices .half 7) sampleMachine =
        Exec.run (sample.prepare .triangles >>= fun _ =>
          throw (if Host.wordMax < 7 * IndexWidth.half.bytes then .mulOverflow
            else .draw (.shortIndices 7 (7 * IndexWidth.half.bytes) sampleIndices.size)))
          sampleMachine :=
  ⟨by decide, (draw_overrunning_indices sample .triangles sampleIndices .half 7 sampleMachine).2
    (by decide)⟩

set_option maxRecDepth 8000 in
/-- A draw whose checks pass, of `2 ^ 62` word indices, stops on the overflow of their bytes
rather than failing with a draw error. -/
theorem draw_stops_on_overflowing_count :
    (Exec.run (sample.draw .triangles sampleIndices .word (2 ^ 62)) sampleMachine).1 =
      .error .mulOverflow := by
  decide +kernel

end Raster.Engine

end TegraGpu
