import Mathlib
import TegraGpu.Surface.Framebuffer
import TegraGpu.Proofs.Buffer
/-!
# Surfaces and framebuffers: the views they hold

A surface holds one view of its buffer, and a framebuffer the views of its front and back
surfaces.  Every operation on the pixels maps the buffer for its own time only, so it keeps the
ledger of the machine; creating and giving back surfaces and framebuffers moves their views in
and out of the accounts of the stores.

* `keeps_ledger_readPixel`, `keeps_ledger_writePixel`, `keeps_ledger_clear`,
  `keeps_ledger_toRgba8`, `keeps_ledger_save`, `keeps_ledger_framebufferSave` : the pixel
  operations and saving keep the ledger, whether they return or fail.
* `Framebuffer.views`, `Framebuffer.views_swap` : the views of a framebuffer, which swapping
  keeps.
* `create_good`, `Framebuffer.create_good`, `Framebuffer.release_good` : a new surface or
  framebuffer adds its views, or on failure nothing, and giving one back removes its views.
  A double-buffered framebuffer whose back surface fails gives its front surface back first.
* `Framebuffer.mapData_good` : mapping a surface of a framebuffer moves its view from the held
  views to the mappings.
-/

namespace TegraGpu

open Buffer Exec Act

namespace Surface

variable {B : Machine → Prop} {vs ms : Multiset View}

/-! ### Pixel operations keep the ledger -/

theorem keeps_ledger_checkBounds (s : Surface) (x y : Nat) :
    Keeps Machine.ledger (s.checkBounds x y) :=
  Keeps.ite (Keeps.throw _) (Keeps.pure ())

theorem keeps_ledger_readPixel (s : Surface) (x y : Nat) :
    Keeps Machine.ledger (s.readPixel x y) :=
  (keeps_ledger_checkBounds s x y).bind fun _ =>
    keeps_ledger_withMap s.view (Keeps.get.bind fun _ => Keeps.pure _)

theorem keeps_ledger_writePixel (s : Surface) (x y : Nat) (raw : UInt32) :
    Keeps Machine.ledger (s.writePixel x y raw) :=
  (keeps_ledger_checkBounds s x y).bind fun _ =>
    (keeps_ledger_withMap s.view (keeps_ledger_modifyStorage s.view _ _)).bind fun _ =>
      keeps_ledger_viewInvalidate s.view _

theorem keeps_ledger_clear (s : Surface) (r g b a : Float32) :
    Keeps Machine.ledger (s.clear r g b a) :=
  (keeps_ledger_withMap s.view (keeps_ledger_modifyStorage s.view _ _)).bind fun _ =>
    (keeps_ledger_note _ _ _).bind fun _ => keeps_ledger_viewInvalidate s.view _

theorem keeps_ledger_toRgba8 (s : Surface) : Keeps Machine.ledger s.toRgba8 :=
  keeps_ledger_withMap s.view (Keeps.get.bind fun _ => Keeps.pure _)

/-- Writing the image file changes only the working directory. -/
theorem keeps_ledger_writeImage (path : String) : Keeps Machine.ledger (writeImage path) := by
  refine Keeps.of_triple fun m₀ => ?_
  unfold writeImage
  dsimp only
  split
  · refine Triple.ite (fun _ => Triple.throw_bind _ fun _ h => by rw [h]) fun _ => ?_
    -- after the extension check the folder write is the only change of the machine
    refine Triple.bind Triple.get fun m => ?_
    split
    · exact Triple.set _ fun _ h => by
        obtain ⟨rfl, rfl⟩ := h
        rfl
    · exact Triple.throw _ fun _ h => by rw [h.1]
  · exact Triple.throw_bind _ fun _ h => by rw [h]

theorem keeps_ledger_save (s : Surface) (path : String) : Keeps Machine.ledger (s.save path) :=
  (keeps_ledger_toRgba8 s).bind fun _ =>
    (keeps_ledger_writeImage path).bind fun _ => keeps_ledger_note _ _ _

theorem keeps_ledger_framebufferSave (fb : Framebuffer) (path : String) :
    Keeps Machine.ledger (fb.save path) :=
  keeps_ledger_save fb.drawSurface path

/-! ### The views of a framebuffer -/

/-- The views a framebuffer holds: its front surface's, and its back surface's when it has one. -/
def Framebuffer.views (fb : Framebuffer) : Multiset View :=
  fb.front.view ::ₘ ((fb.back.map Surface.view).toList : Multiset View)

@[simp] theorem Framebuffer.views_single (front : Surface) :
    ({ front, back := none } : Framebuffer).views = {front.view} := rfl

@[simp] theorem Framebuffer.views_double (front back : Surface) :
    ({ front, back := some back } : Framebuffer).views = {front.view, back.view} := rfl

@[simp] theorem Framebuffer.views_swap (fb : Framebuffer) : fb.swap.views = fb.views := by
  obtain ⟨front, back⟩ := fb
  cases back with
  | none => rfl
  | some b =>
    simp only [Framebuffer.swap, Framebuffer.views, Option.map_some, Option.toList_some]
    exact Multiset.pair_comm _ _

/-- The surface that drawing goes to holds one of the framebuffer's views. -/
theorem Framebuffer.drawSurface_mem (fb : Framebuffer) : fb.drawSurface.view ∈ fb.views := by
  unfold Framebuffer.drawSurface Framebuffer.views
  cases fb.back <;> simp

/-! ### Creating and giving back -/

theorem create_good (hB : Kept B) (width height : Nat) (format : Format) (layout : Layout) :
    Triple (Good B vs ms) (Surface.create width height format layout)
      (fun p => Good B (p.view ::ₘ vs) ms) (Good B vs ms) := by
  unfold Surface.create
  dsimp only
  refine Triple.ite (fun _ => Triple.throw_bind _ fun _ h => h) fun _ => ?_
  split
  · exact Triple.throw _ fun _ h => h
  · -- the new view is the surface's, and the record written after it keeps the accounts
    exact Triple.bind (allocate_good hB _ _) fun v =>
      Triple.bind (good_of_keeps hB (keeps_ledger_note _ _ _)) fun _ =>
        Triple.pure _ fun _ h => h

theorem Framebuffer.create_good (hB : Kept B) (width height : Nat) (format : Format)
    (layout : Layout) (double : Bool) :
    Triple (Good B vs ms) (Framebuffer.create width height format layout double)
      (fun fb => Good B (fb.views + vs) ms) (Good B vs ms) := by
  unfold Framebuffer.create
  refine Triple.bind (Surface.create_good hB width height format layout) fun front => ?_
  dsimp only
  -- the back surface, if any, joins the front one
  let R : Option Surface → Machine → Prop := fun back =>
    Good B (({ front, back } : Framebuffer).views + vs) ms
  refine Triple.ite (fun _ => ?_) fun _ => ?_
  · refine Triple.bind (R := R) (Triple.tryCatch (Triple.bind (Surface.create_good hB _ _ _ _)
      fun b => Triple.pure _ fun _ h => ?_) fun e => ?_) fun back => ?_
    · simpa [R, Multiset.cons_swap] using h
    · -- when the back surface fails, the front one goes back before the failure
      exact Triple.bind (good_of_keeps hB (keeps_ledger_note _ _ _)) fun _ =>
        Triple.bind ((Buffer.release_good hB front.view).mono (fun _ h => h) (fun _ _ h => h)
          fun _ h => h.elim) fun _ => Triple.throw e fun _ h => h
    · exact Triple.bind (good_of_keeps hB (keeps_ledger_note _ _ _)) fun _ =>
        Triple.pure _ fun _ h => h
  · refine Triple.bind (R := R) (Triple.pure none fun _ h => ?_) fun back => ?_
    · simpa [R] using h
    · exact Triple.bind (good_of_keeps hB (keeps_ledger_note _ _ _)) fun _ =>
        Triple.pure _ fun _ h => h

theorem Framebuffer.release_good (hB : Kept B) (fb : Framebuffer) :
    Triple (Good B (fb.views + vs) ms) fb.release (fun _ => Good B vs ms) (fun _ => False) := by
  unfold Framebuffer.release
  -- the front view goes first, then the back one if there is one
  have hfront : Triple (Good B (fb.front.view ::ₘ ((fb.back.map Surface.view).toList + vs)) ms)
      fb.front.view.release (fun _ => Good B ((fb.back.map Surface.view).toList + vs) ms)
      (fun _ => False) :=
    Buffer.release_good hB fb.front.view
  refine Triple.bind (hfront.mono (fun _ h => by rwa [Framebuffer.views, Multiset.cons_add] at h)
    (fun _ _ h => h) fun _ h => h) fun _ => ?_
  cases fb.back with
  | none => exact Triple.pure _ fun _ h => by simpa using h
  | some b =>
    exact (Buffer.release_good hB b.view).mono (fun _ h => by simpa using h) (fun _ _ h => h)
      fun _ h => h

/-- Mapping a surface of a framebuffer moves its view from the held views to the mappings;
the surface is the front one, or the back one when asked and there is one. -/
theorem Framebuffer.mapData_good (hB : Kept B) (fb : Framebuffer) (front : Bool) :
    Triple (Good B (fb.views + vs) ms) (fb.mapData front)
      (fun p m => p.view ∈ fb.views ∧ Good B ((fb.views.erase p.view) + vs) (p.view ::ₘ ms) m)
      (Good B (fb.views + vs) ms) := by
  -- mapping one of the framebuffer's surfaces
  have hmap : ∀ p : Surface, p.view ∈ fb.views → Triple (Good B (fb.views + vs) ms)
      (do
        tryCatch p.view.map fun e => do
          note .error .framebuffer "failed to mmap framebuffer's bo"
          throw e
        pure p)
      (fun p m => p.view ∈ fb.views ∧ Good B ((fb.views.erase p.view) + vs) (p.view ::ₘ ms) m)
      (Good B (fb.views + vs) ms) := by
    intro p hp
    have hsplit : fb.views + vs = p.view ::ₘ (fb.views.erase p.view + vs) := by
      rw [← Multiset.cons_add, Multiset.cons_erase hp]
    refine Triple.bind (Triple.tryCatch ((map_good hB p.view).mono (fun _ h => by rwa [← hsplit])
      (fun _ _ h => h) fun _ h => h) fun e => ?_) fun _ => Triple.pure p fun _ h => ⟨hp, h⟩
    exact Triple.bind (good_of_keeps hB (keeps_ledger_note _ _ _)) fun _ =>
      Triple.throw e fun _ h => by rwa [hsplit]
  unfold Framebuffer.mapData
  dsimp only
  simp only [pure_bind]
  refine Triple.ite (fun _ => hmap _ (by simp [Framebuffer.views])) fun _ => ?_
  split
  · next b hb => exact hmap b (by simp [Framebuffer.views, hb])
  · exact Triple.bind (good_of_keeps hB (keeps_ledger_note _ _ _)) fun _ =>
      Triple.throw_bind _ fun _ h => h

end Surface

end TegraGpu
