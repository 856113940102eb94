import Mathlib
import TegraGpu.Proofs.Lifecycle
import TegraGpu.Bench.Run
/-!
# Mappings: one per store, and every operation ends the ones it makes

A store is mapped by at most one mapping at a time, and its flag says whether one is live.
Mapping any view of a store succeeds exactly when no mapping of the store is live and the device
maps, and a refused mapping leaves every flag as it was.  Every library operation that maps a
buffer for its own use gives the mapping back before it returns, on success and on every error:
it is `Restoring`, which leaves each store it finds mapped or unmapped as it found it.

* `Restoring.bind`, `Restoring.tryCatch`, … : `Restoring` is kept by the control flow of an
  operation, so the operations are assembled from their parts.
* `Unmapping`, `mapData_unmapping`, `unmap_restores` : between mapping a surface of a
  framebuffer and ending the mapping, the stores are those of the start with one store mapped;
  this carries the bench run (`restoring_drawAndRead`), which maps outside `withMap`.
* `restoring_allocateWith`, `restoring_testRun`, … : the operations that map internally.
* `reachable_mappings` : in every reachable session, one mapping per store, flags that say so,
  what mapping a view does, and which bytes a mapping covers; and the operations above restore.
-/

namespace TegraGpu

open Buffer Host Exec Act Raster Surface

namespace Buffer

variable {α β : Type}

/-! ### Control flow keeps the flags -/

namespace Restoring

theorem pure (x : α) : Restoring (Pure.pure x : Act α) :=
  restoring_of_keeps (Keeps.pure x)

theorem throw (e : Error) : Restoring (MonadExcept.throw e : Act α) :=
  restoring_of_keeps (Keeps.throw e)

theorem bind {a : Act α} {f : α → Act β} (ha : Restoring a) (hf : ∀ x, Restoring (f x)) :
    Restoring (a >>= f) :=
  fun ss => Triple.bind (ha ss) fun x => hf x ss

theorem tryCatch {a : Act α} {h : Error → Act α} (ha : Restoring a)
    (hh : ∀ e, Restoring (h e)) : Restoring (tryCatch a h) :=
  fun ss => Triple.tryCatch (ha ss) fun e => hh e ss

theorem ite {c : Prop} [Decidable c] {a b : Act α} (ha : Restoring a) (hb : Restoring b) :
    Restoring (if c then a else b) :=
  fun ss => Triple.ite (fun _ => ha ss) fun _ => hb ss

theorem forIn_array {δ : Type} (xs : Array δ) (init : β) {f : δ → β → Act (ForInStep β)}
    (hf : ∀ x b, Restoring (f x b)) : Restoring (forIn xs init f) :=
  fun ss => Triple.forIn_array (I := fun (_ : β) (m : Machine) => Stores.Restores ss m.stores)
    xs init fun x b => hf x b ss

theorem map {a : Act α} (f : α → β) (ha : Restoring a) : Restoring (f <$> a) := by
  rw [map_eq_bind_pure_comp]
  exact ha.bind fun _ => pure _

end Restoring

theorem restoring_allocateWith (flags : Flags) (data : ByteArray) :
    Restoring (allocateWith flags data) := by
  unfold allocateWith
  refine (restoring_allocate _ _).bind fun v => Restoring.bind ?_ fun _ => Restoring.pure v
  -- the copy runs under a mapping of its own; a failure gives the new view back
  refine Restoring.tryCatch (restoring_of_keeps ?_) fun e =>
    (restoring_release v).bind fun _ => Restoring.throw e
  exact (keeps_ledger_withMap v (keeps_ledger_writeBytes v 0 data)).bind fun _ =>
    keeps_ledger_viewInvalidate v _

/-! ### A mapping between its start and its end -/

/-- The stores of `ss`, but for store `k`, which may be mapped: ending the mapping of `k`
restores `ss`. -/
def Unmapping (ss : Stores) (k : Nat) (m : Machine) : Prop :=
  Stores.Restores ss (m.stores.modify k fun s => { s with mapped := false })

section Unmapping

variable {ss : Stores} {k : Nat}

/-- A record written while a mapping is open keeps it open. -/
theorem note_unmapping (level : Level) (origin : Origin) (text : String) {E : Machine → Prop} :
    Triple (Unmapping ss k) (note level origin text) (fun _ => Unmapping ss k) E :=
  fun _ h => h

/-- Mapping a view from restored stores: on success only the view's store is mapped, and it
was not before; a refusal changes no store. -/
theorem map_unmapping (v : View) :
    Triple (fun m => Stores.Restores ss m.stores) v.map (fun _ => Unmapping ss v.store)
      (fun m => Stores.Restores ss m.stores) := by
  intro m hm
  rw [run_map]
  by_cases hmapped : View.isMapped m v = true
  · rw [if_pos hmapped]
    exact hm
  · rw [if_neg hmapped]
    have hfree := isMapped_eq_false.1 (by simpa using hmapped)
    cases m.device.mmap v.handle with
    | error e => exact hm
    | ok u =>
      show Stores.Restores ss ((m.stores.modify v.store fun s => { s with mapped := true }).modify
        v.store fun s => { s with mapped := false })
      rw [modify_mapped_restore hfree]
      exact hm

/-- Ending the mapping restores the stores. -/
theorem unmap_restores (v : View) {E : Machine → Prop} :
    Triple (Unmapping ss v.store) v.unmap (fun _ m => Stores.Restores ss m.stores) E :=
  fun _ h => h

end Unmapping

/-! ### What mapping a view does -/

/-- Mapping a view succeeds exactly when its store is not flagged and the device maps. -/
theorem run_map_ok_iff (v : View) (m : Machine) :
    (Exec.run v.map m).1 = .ok () ↔
      View.isMapped m v = false ∧ m.device.mmap v.handle = .ok () := by
  rw [run_map]
  cases hm : View.isMapped m v with
  | true => simp
  | false => cases hd : m.device.mmap v.handle <;> simp

/-- Mapping a view flags its store when it succeeds, and leaves every store as it was when it is
refused. -/
theorem run_map_stores (v : View) (m : Machine) :
    ((Exec.run v.map m).1 = .ok () ∧
        (Exec.run v.map m).2.stores =
          m.stores.modify v.store fun s => { s with mapped := true }) ∨
      ∃ e, (Exec.run v.map m).1 = .error e ∧ (Exec.run v.map m).2.stores = m.stores := by
  rw [run_map]
  cases hm : View.isMapped m v with
  | true => exact Or.inr ⟨_, rfl, rfl⟩
  | false =>
    cases hd : m.device.mmap v.handle with
    | ok u => exact Or.inl ⟨rfl, rfl⟩
    | error e => exact Or.inr ⟨e, rfl, rfl⟩

/-- Under the accounts, the store of a held view is flagged exactly when a mapping of it is held. -/
theorem Stores.Holds.isMapped_eq_false {vs ms : Multiset View} {m : Machine}
    (h : Stores.Holds vs ms m.stores) {v : View} (hv : v ∈ vs + ms) :
    View.isMapped m v = false ↔ ms.countP (·.store = v.store) = 0 := by
  obtain ⟨st, hst, -⟩ := h.live v hv
  have hflag := h.mapped _ st hst
  unfold View.isMapped storeOf?
  simp only [hst]
  rw [← Bool.not_eq_true, hflag]
  omega

/-- A view of a live store of a backed machine sees the bytes of its range in the allocation
under its handle. -/
theorem Backed.bytes_eq {m : Machine} (hb : Backed m) {v : View} (hv : m.stores.Has v) :
    ∃ a ∈ m.device.objects, a.handle = v.handle ∧
      v.bytes m = a.data.extract v.offset (v.offset + v.size) := by
  obtain ⟨st, hst, hhandle⟩ := hv
  obtain ⟨a, ha, hah, -⟩ := hb.object_of_find hst
  have hobj : m.device.object? v.handle = some a := by
    rw [← hhandle, ← hah]
    exact Device.object?_of_mem hb.sound.nodup ha
  refine ⟨a, ha, hah.trans hhandle, ?_⟩
  simp [View.bytes, Device.storage?, hobj]

end Buffer

namespace Surface

open Buffer

variable {α : Type}

theorem restoring_create (width height : Nat) (format : Format) (layout : Layout) :
    Restoring (Surface.create width height format layout) := by
  unfold Surface.create
  dsimp only
  refine Restoring.ite (restoring_of_keeps (Keeps.throw_bind _)) ?_
  split
  · exact Restoring.throw _
  · exact (restoring_allocate _ _).bind fun _ =>
      (restoring_of_keeps (keeps_ledger_note _ _ _)).bind fun _ => Restoring.pure _

theorem Framebuffer.restoring_create (width height : Nat) (format : Format) (layout : Layout)
    (double : Bool) : Restoring (Framebuffer.create width height format layout double) := by
  unfold Framebuffer.create
  refine (Surface.restoring_create width height format layout).bind fun front => ?_
  dsimp only
  have hrest : ∀ back : Option Surface, Restoring (do
      note .debug .framebuffer ("Created " ++ (if back.isSome then "double" else "single") ++
        "-buffered " ++ toString width ++ "x" ++ toString height ++ " framebuffer")
      pure ({ front, back } : Framebuffer)) := fun _ =>
    (restoring_of_keeps (keeps_ledger_note _ _ _)).bind fun _ => Restoring.pure _
  refine Restoring.ite ?_ ((Restoring.pure none).bind hrest)
  -- when the back surface fails, the front one goes back before the failure
  refine Restoring.bind (Restoring.tryCatch ((Surface.restoring_create _ _ _ _).bind fun _ =>
    Restoring.pure _) fun e => ?_) hrest
  exact (restoring_of_keeps (keeps_ledger_note _ _ _)).bind fun _ =>
    (restoring_release _).bind fun _ => Restoring.throw e

theorem Framebuffer.restoring_release (fb : Framebuffer) : Restoring fb.release := by
  unfold Framebuffer.release
  refine (Buffer.restoring_release _).bind fun _ => ?_
  split
  · exact Buffer.restoring_release _
  · exact Restoring.pure _

/-- Mapping a surface of a framebuffer, from restored stores: on success only the surface's
store is mapped. -/
theorem Framebuffer.mapData_unmapping (fb : Framebuffer) (front : Bool) (ss : Stores) :
    Triple (fun m => Stores.Restores ss m.stores) (fb.mapData front)
      (fun p => Unmapping ss p.view.store) (fun m => Stores.Restores ss m.stores) := by
  have hmap : ∀ p : Surface, Triple (fun m => Stores.Restores ss m.stores)
      (do
        tryCatch p.view.map fun e => do
          note .error .framebuffer "failed to mmap framebuffer's bo"
          throw e
        pure p)
      (fun p => Unmapping ss p.view.store) (fun m => Stores.Restores ss m.stores) := fun p =>
    Triple.bind (Triple.tryCatch (map_unmapping p.view) fun e =>
      Triple.bind (restoring_of_keeps (keeps_ledger_note _ _ _) ss) fun _ =>
        Triple.throw e fun _ h => h) fun _ => Triple.pure p fun _ h => h
  unfold Framebuffer.mapData
  dsimp only
  simp only [pure_bind]
  refine Triple.ite (fun _ => hmap _) fun _ => ?_
  split
  · exact hmap _
  · exact Triple.bind (restoring_of_keeps (keeps_ledger_note _ _ _) ss) fun _ =>
      Triple.throw_bind _ fun _ h => h

end Surface

namespace Raster.Engine

open Buffer

theorem restoring_release (e : Engine) : Restoring e.release := by
  unfold release
  refine (Restoring.forIn_array _ _ fun p _ => ?_).bind fun _ =>
    (Restoring.forIn_array _ _ fun t _ => ?_).bind fun _ => Restoring.pure _
  · split
    · exact (Buffer.restoring_release _).bind fun _ => Restoring.pure _
    · exact Restoring.pure _
  · split
    · exact (Buffer.restoring_release _).bind fun _ => Restoring.pure _
    · exact Restoring.pure _

theorem restoring_setPointer (e : Engine) (loc size : Nat) (v : View) :
    Restoring (e.setPointer loc size v) := by
  unfold setPointer
  dsimp only
  split
  · exact (Buffer.restoring_release v).bind fun _ => Restoring.throw _
  · split
    · exact (Buffer.restoring_release _).bind fun _ => Restoring.pure _
    · exact Restoring.pure _

theorem restoring_bindTarget (e : Engine) (slot : Nat) (s : Surface) :
    Restoring (e.bindTarget slot s) := by
  unfold bindTarget
  split
  · exact (Buffer.restoring_release _).bind fun _ => Restoring.throw _
  · exact Restoring.pure _

end Raster.Engine

namespace Bench

open Buffer

variable {β α : Type}

theorem restoring_guarded {γ : Type} {cleanup : Act Unit} {a : Act γ} (hc : Restoring cleanup)
    (ha : Restoring a) : Restoring (guarded cleanup a) :=
  Restoring.tryCatch ha fun e => hc.bind fun _ => Restoring.throw e

theorem keeps_ledger_loadLogged (kind : Shader.Kind) (path : String) :
    Keeps Machine.ledger (loadLogged kind path) := by
  unfold loadLogged Shader.loadFile
  refine Keeps.tryCatch (Keeps.get.bind fun _ => ?_) fun e =>
    (keeps_ledger_note _ _ _).bind fun _ => Keeps.throw e
  split
  · exact (keeps_ledger_emit _).bind fun _ => Keeps.pure _
  · exact Keeps.throw _

theorem keeps_ledger_applyUniforms (t : Test) (program : Shader.Program) (e : Engine) :
    Keeps Machine.ledger (applyUniforms t program e) := by
  unfold applyUniforms
  simp only [← Array.foldlM_toList]
  refine (Keeps.foldlM_list _ _ fun e u => ?_).bind fun e => Keeps.foldlM_list _ _ fun e u => ?_
  · split
    · exact keeps_ofExcept _
    · exact (keeps_ledger_note _ _ _).bind fun _ => Keeps.pure _
  · split
    · exact keeps_ofExcept _
    · exact (keeps_ledger_note _ _ _).bind fun _ => Keeps.pure _

theorem restoring_attachAttribute (program : Shader.Program) (e : Engine) (name : String)
    (data : List UInt32) : Restoring (attachAttribute program e name data) := by
  unfold attachAttribute
  split
  · exact (restoring_of_keeps (keeps_ledger_note _ _ _)).bind fun _ => Restoring.pure _
  · have hrel := Engine.restoring_release e
    exact (restoring_guarded hrel (restoring_allocateWith _ _)).bind fun v =>
      (restoring_guarded hrel (Engine.restoring_setPointer _ _ _ v)).bind fun e' =>
        restoring_guarded (Engine.restoring_release e') (restoring_of_keeps (keeps_ofExcept _))


/-- **The bench reads the front surface under a mapping that ends on every path**: when the
surface is empty, the mapping ends before the failure. -/
theorem restoring_drawAndRead (t : Test) (c : Display.Context β α) (program : Shader.Program)
    (e : Engine) (indices : View) : Restoring (drawAndRead t c program e indices) := by
  unfold drawAndRead
  extract_lets draw
  -- the draw, then the front surface read under a mapping of its own
  have hdraw : ∀ u, Restoring (draw u) := by
    intro u ss
    dsimp -zeta only [draw]
    refine Triple.bind (restoring_of_keeps (keeps_ledger_applyUniforms t program e) ss)
      fun e => ?_
    refine Triple.bind (restoring_of_keeps (keeps_ledger_draw _ _ _ _ _) ss) fun _ => ?_
    refine Triple.bind (restoring_of_keeps (Display.Context.keeps_ledger_bound c) ss) fun fb => ?_
    refine Triple.bind (fb.mapData_unmapping true ss) fun front => ?_
    refine Triple.bind Triple.get fun m => ?_
    extract_lets data finish
    -- from the first word on, the mapping is open until the result is reported
    have hfinish : ∀ result, Triple (Unmapping ss front.view.store) (finish result)
        (fun _ m => Stores.Restores ss m.stores) (fun m => Stores.Restores ss m.stores) := by
      intro result
      dsimp -zeta only [finish]
      extract_lets passed outcome done present report
      -- after the mapping ends: a record, and the frame shown unless the test runs alone
      have hpresent : ∀ u, Keeps Machine.ledger (present u) := fun _ =>
        Keeps.ite ((Keeps.pure _).bind fun _ => Keeps.pure _)
          ((Display.Context.keeps_ledger_swapBuffers c).bind fun _ =>
            (Keeps.pure _).bind fun _ => Keeps.pure _)
      have hreport : ∀ u, Triple (Unmapping ss front.view.store) (report u)
          (fun _ m => Stores.Restores ss m.stores) (fun m => Stores.Restores ss m.stores) := by
        intro u
        dsimp only [report]
        refine Triple.bind (unmap_restores front.view) fun _ => restoring_of_keeps ?_ ss
        split
        · exact (keeps_ledger_note _ _ _).bind hpresent
        · exact hpresent ()
      refine Triple.ite (fun _ => ?_) fun _ => hreport ()
      exact Triple.bind (note_unmapping _ _ _) fun _ => Triple.bind (note_unmapping _ _ _) hreport
    split
    · exact Triple.bind (Triple.pure _ fun _ h => h.1) hfinish
    · exact Triple.bind ((unmap_restores front.view).mono (fun _ h => h.1) (fun _ _ h => h)
        fun _ h => h) fun _ => Triple.throw_bind _ fun _ h => h
  refine Restoring.ite ?_ (hdraw ())
  exact (restoring_of_keeps (keeps_ledger_note _ _ _)).bind fun _ =>
    (restoring_of_keeps (keeps_ledger_note _ _ _)).bind hdraw

theorem restoring_runBound (t : Test) (c : Display.Context β α) (fb : Framebuffer) :
    Restoring (runBound t c fb) := by
  unfold runBound
  -- clearing, reading the shaders and assembling the program keep the ledger
  refine (restoring_of_keeps (Display.Context.keeps_ledger_clear c)).bind fun _ => ?_
  refine (restoring_of_keeps (keeps_ledger_loadLogged _ _)).bind fun vs => ?_
  refine (restoring_of_keeps (keeps_ledger_loadLogged _ _)).bind fun fs => ?_
  refine (restoring_of_keeps (keeps_ledger_loadLogged _ _)).bind fun linker => ?_
  refine (restoring_of_keeps (Shader.keeps_ledger_assemble _ _ _ _)).bind fun program => ?_
  -- the attributes, the render target and the indices each take a buffer, given back on failure
  refine (restoring_attachAttribute _ _ _ _).bind fun e => ?_
  refine (restoring_attachAttribute _ _ _ _).bind fun e => ?_
  refine (restoring_retain _).bind fun _ => ?_
  refine (restoring_guarded (Engine.restoring_release e) (Engine.restoring_bindTarget _ _ _)).bind
    fun x => ?_
  obtain ⟨e, _⟩ := x
  refine (restoring_guarded (Engine.restoring_release e)
    (restoring_of_keeps (keeps_ofExcept _))).bind fun e => ?_
  refine (restoring_guarded (Engine.restoring_release e) (restoring_allocateWith _ _)).bind
    fun indices => ?_
  have hcleanup : Restoring (do indices.release; e.release) :=
    (restoring_release indices).bind fun _ => Engine.restoring_release e
  exact (restoring_guarded hcleanup (restoring_drawAndRead _ _ _ _ _)).bind fun _ =>
    hcleanup.bind fun _ => Restoring.pure _

/-- **A bench run restores every mapping flag**, whether it fails or not. -/
theorem restoring_testRun (t : Test) (c : Display.Context β α) : Restoring (t.run c) := by
  unfold Test.run
  refine (Restoring.tryCatch (Restoring.map _ (Framebuffer.restoring_create _ _ _ _ _)) fun _ =>
    Restoring.pure _).bind fun r => ?_
  cases r with
  | error e => exact Restoring.pure _
  | ok fb =>
    dsimp only [Display.Context.bind]
    -- the run on the framebuffer, whose failure is kept as a value
    have hrun : ∀ c' : Display.Context β α, Restoring (runBound t c' fb) :=
      fun c' => restoring_runBound t c' fb
    split
    · refine (Framebuffer.restoring_release _).bind fun _ => ?_
      refine Restoring.tryCatch ((hrun _).bind fun x => ?_) fun _ => Restoring.pure _
      obtain ⟨o, c'⟩ := x
      exact Restoring.pure _
    · refine Restoring.tryCatch ((hrun _).bind fun x => ?_) fun _ => Restoring.pure _
      obtain ⟨o, c'⟩ := x
      exact Restoring.pure _

end Bench

namespace Script

namespace Session

open Bench

/-- The mappings of a session, and what mapping a view of it does. -/
structure MapAnswers (s : Session) : Prop where
  /-- No store has two mappings held. -/
  single : ∀ k, s.maps.countP (·.store = k) ≤ 1
  /-- A store is flagged mapped exactly when a mapping of it is held. -/
  flag : ∀ k st, s.machine.stores.find? k = some st →
    (st.mapped = true ↔ 0 < s.maps.countP (·.store = k))
  /-- Mapping a held view succeeds exactly when no mapping of its store is held and the device
  maps. -/
  map_ok : ∀ v ∈ s.views + s.maps, (Exec.run v.map s.machine).1 = .ok () ↔
    s.maps.countP (·.store = v.store) = 0 ∧ s.machine.device.mmap v.handle = .ok ()
  /-- A mapping flags its store when it succeeds, and leaves every flag as it was when it is
  refused. -/
  map_flags : ∀ v : View, ((Exec.run v.map s.machine).1 = .ok () ∧
      (Exec.run v.map s.machine).2.stores =
        s.machine.stores.modify v.store fun st => { st with mapped := true }) ∨
    ∃ e, (Exec.run v.map s.machine).1 = .error e ∧
      (Exec.run v.map s.machine).2.stores = s.machine.stores
  /-- While the device has given out fewer than `2 ^ 32` handles, a held mapping covers the bytes
  of its range in its store's allocation. -/
  covers : s.machine.device.created < 2 ^ 32 → ∀ v ∈ s.maps, ∃ a ∈ s.machine.device.objects,
    a.handle = v.handle ∧ v.bytes s.machine = a.data.extract v.offset (v.offset + v.size)

/-- The operations that map buffers for their own use, each of which leaves every store's flag
as it found it, on success and on every error. -/
structure MapsRestored : Prop where
  allocateWith : ∀ flags data, Restoring (allocateWith flags data)
  readPixel : ∀ (p : Surface) x y, Restoring (p.readPixel x y)
  writePixel : ∀ (p : Surface) x y raw, Restoring (p.writePixel x y raw)
  clear : ∀ (p : Surface) r g b a, Restoring (p.clear r g b a)
  toRgba8 : ∀ p : Surface, Restoring p.toRgba8
  save : ∀ (p : Surface) path, Restoring (p.save path)
  framebufferSave : ∀ (fb : Framebuffer) path, Restoring (fb.save path)
  draw : ∀ (e : Engine) prim v width count, Restoring (e.draw prim v width count)
  contextClear : ∀ {β α : Type} (c : Display.Context β α), Restoring c.clear
  swapBuffers : ∀ {β α : Type} (c : Display.Context β α), Restoring c.swapBuffers
  testRun : ∀ {β α : Type} (t : Test) (c : Display.Context β α), Restoring (t.run c)

theorem mapsRestored : MapsRestored where
  allocateWith := restoring_allocateWith
  readPixel p x y := restoring_of_keeps (keeps_ledger_readPixel p x y)
  writePixel p x y raw := restoring_of_keeps (keeps_ledger_writePixel p x y raw)
  clear p r g b a := restoring_of_keeps (Surface.keeps_ledger_clear p r g b a)
  toRgba8 p := restoring_of_keeps (keeps_ledger_toRgba8 p)
  save p path := restoring_of_keeps (keeps_ledger_save p path)
  framebufferSave fb path := restoring_of_keeps (keeps_ledger_framebufferSave fb path)
  draw e prim v width count := restoring_of_keeps (keeps_ledger_draw e prim v width count)
  contextClear c := restoring_of_keeps (Display.Context.keeps_ledger_clear c)
  swapBuffers c := restoring_of_keeps (Display.Context.keeps_ledger_swapBuffers c)
  testRun t c := restoring_testRun t c

/-- **Mappings are exclusive and given back.**  In every session that library commands reach,
each store has at most one mapping held and is flagged exactly when it has one; mapping a held
view succeeds exactly when its store has none and the device maps, a refused mapping changes no
flag, and a mapping covers its view's bytes.  The operations that map for their own use restore
every flag. -/
theorem reachable_mappings {limit : Option Nat} {s : Session} (hs : s.Reachable limit) :
    s.MapAnswers ∧ MapsRestored := by
  obtain ⟨⟨hh, hl⟩, -⟩ := hs.good
  refine ⟨⟨hh.single, hh.mapped, fun v hv => ?_, fun v => run_map_stores v s.machine,
    fun hfew v hv => (hl hfew).bytes_eq (hh.live v (Multiset.mem_add.2 (Or.inr hv)))⟩,
    mapsRestored⟩
  rw [run_map_ok_iff, hh.isMapped_eq_false hv]

/-- The sample session with a mapping of the wrap held. -/
def mappedSession : Session :=
  (sampleSession.step (.bufferMap "b" "m")).1

theorem mappedSession_mappings :
    mappedSession.Reachable none ∧ mappedSession.MapAnswers ∧ MapsRestored :=
  have hs : mappedSession.Reachable none :=
    .step (.step (.step (.step (.step (.step (.step .start rfl) rfl) rfl) rfl) rfl) rfl) rfl
  ⟨hs, reachable_mappings hs⟩

end Session

end Script

end TegraGpu
