import Mathlib
import TegraGpu.Proofs.Frames
import TegraGpu.Proofs.Shader
/-!
# The outcome of a shader test

The bench draws a fixed quad over a grey framebuffer and reads the pixel at the origin.  The
software engine colours a pixel from the corners' `color` attribute alone: the program's words,
constants, exports, uniforms, attribute locations, and the fragment and linker shaders never
reach the pixels.  So the outcome of every run that finishes is fixed by one bit of the vertex
shader, whether it has a `color` attribute.

This module follows a run that finishes step by step.  Each step has an inversion lemma: what it
read and what it left when it succeeded.  The run made a framebuffer of its own, and the
allocations after it hold their bytes through the run (`Machine.Adds`), so the draw reads the
quad's positions, colours and indices, and draws into the grey storage of the framebuffer.

* `quadTriangles`, `quadFrame` : the triangles the quad gives, and the frame a run draws.
* `run_drawAndRead_ok`, `run_runBound_ok` : the steps of a run on a bound framebuffer.
* `testRun_outcome` : the outcome of every run that finishes.
-/

namespace TegraGpu.Bench

open Exec Act Raster Buffer Surface Host

variable {β α : Type} {m m' : Machine}

/-! ### Steps that write records only -/

/-- A guarded operation that succeeds is the operation succeeding. -/
theorem run_guarded_ok {γ : Type} {cleanup : Act Unit} {a : Act γ} {x : γ}
    (h : Exec.run (guarded cleanup a) m = (.ok x, m')) : Exec.run a m = (.ok x, m') := by
  unfold guarded at h
  rw [run_tryCatch] at h
  rcases hr : Exec.run a m with ⟨e | y, m₁⟩
  · rw [hr] at h
    dsimp only at h
    obtain ⟨e', m₂, hfail⟩ := @run_cleanup_throw γ cleanup e m₁
    rw [hfail] at h
    cases h
  · rw [hr] at h
    exact h

/-- A shader file read with logging: it parses, and only records were written. -/
theorem run_loadLogged_ok {kind : Shader.Kind} {path : String} {s : Shader}
    (h : Exec.run (loadLogged kind path) m = (.ok s, m')) :
    Shader.parseFile m.folder kind path = .ok s ∧ m' = { m with journal := m'.journal } := by
  unfold loadLogged Shader.loadFile at h
  rw [run_tryCatch, run_bind, run_get] at h
  dsimp only at h
  cases hp : Shader.parseFile m.folder kind path with
  | error e =>
    rw [hp] at h
    dsimp only at h
    -- the failure is logged and goes on
    simp [run_bind] at h
  | ok s' =>
    rw [hp] at h
    dsimp only at h
    rw [run_bind, run_emit] at h
    simp only [run_pure, Prod.mk.injEq, Except.ok.injEq] at h
    obtain ⟨rfl, rfl⟩ := h
    exact ⟨rfl, rfl⟩

/-- Assembling a linked program: the kind checks pass, and only records were written. -/
theorem run_assemble_ok {vs fs lk : Shader} {p : Shader.Program}
    (h : Exec.run (Shader.Program.assemble vs fs lk true) m = (.ok p, m')) :
    (∃ p₀, Shader.Program.make vs fs lk = .ok p₀ ∧ p = p₀.link) ∧
      m' = { m with journal := m'.journal } := by
  unfold Shader.Program.assemble at h
  cases hp : Shader.Program.make vs fs lk with
  | error e =>
    rw [hp] at h
    cases h
  | ok p₀ =>
    rw [hp] at h
    simp only [if_true, run_bind, run_emit, run_pure, Prod.mk.injEq, Except.ok.injEq] at h
    obtain ⟨rfl, rfl⟩ := h
    exact ⟨⟨p₀, rfl, rfl⟩, rfl⟩

theorem keeps_withoutJournal_applyUniforms (t : Test) (program : Shader.Program) (e : Engine) :
    Keeps Machine.withoutJournal (applyUniforms t program e) := by
  unfold applyUniforms
  simp only [← Array.foldlM_toList]
  refine (Keeps.foldlM_list _ _ fun e u => ?_).bind fun e => Keeps.foldlM_list _ _ fun e u => ?_
  · split
    · exact keeps_ofExcept _
    · exact (keeps_note (fun _ _ => rfl) _ _ _).bind fun _ => Keeps.pure _
  · split
    · exact keeps_ofExcept _
    · exact (keeps_note (fun _ _ => rfl) _ _ _).bind fun _ => Keeps.pure _

theorem setVertexUniform_file {e e' : Engine} {loc : Nat} {values : List Binary32.Single}
    (h : e.setVertexUniform loc values = .ok e') : ∃ f, e' = { e with vsUniforms := f } := by
  unfold Engine.setVertexUniform at h
  cases hs : Engine.storeUniform e.vsUniforms .vertexUniform loc (loc * 4) values with
  | error err =>
    rw [hs] at h
    cases h
  | ok f =>
    rw [hs] at h
    cases h
    exact ⟨f, rfl⟩

theorem setFragmentUniform_file {e e' : Engine} {loc : Nat} {values : List Binary32.Single}
    (h : e.setFragmentUniform loc values = .ok e') : ∃ f, e' = { e with fsUniforms := f } := by
  unfold Engine.setFragmentUniform at h
  cases hs : Engine.storeUniform e.fsUniforms .fragmentUniform loc loc values with
  | error err =>
    rw [hs] at h
    cases h
  | ok f =>
    rw [hs] at h
    cases h
    exact ⟨f, rfl⟩

/-- Setting the uniforms by name changes the two uniform files of the engine and nothing else
of it. -/
theorem applyUniforms_files (t : Test) (program : Shader.Program) (e : Engine) :
    Triple (fun _ => True) (applyUniforms t program e)
      (fun e' _ => ∃ vsU fsU, e' = { e with vsUniforms := vsU, fsUniforms := fsU })
      (fun _ => True) := by
  unfold applyUniforms
  simp only [← Array.foldlM_toList]
  -- each store replaces one file of an engine that differs from `e` in its files only
  refine Triple.bind (R := fun e' _ => ∃ vsU fsU, e' = { e with vsUniforms := vsU, fsUniforms := fsU })
    ((Triple.foldlM_list (I := fun e' _ => ∃ vsU fsU,
        e' = { e with vsUniforms := vsU, fsUniforms := fsU }) _ _ fun e' u => ?_).mono
      (fun _ _ => ⟨e.vsUniforms, e.fsUniforms, rfl⟩) (fun _ _ h => h) fun _ h => h) fun e' => ?_
  · split
    · refine Triple.of_forall fun _ hs => ?_
      obtain ⟨vsU, fsU, he'⟩ := hs
      refine (Script.Session.triple_ofExcept _).mono (fun _ _ => trivial) (fun x _ hx => ?_)
        fun _ h => h
      obtain ⟨f, rfl⟩ := setVertexUniform_file hx
      exact ⟨f, fsU, by rw [he']⟩
    · exact Triple.bind (Triple.modify fun _ h => h) fun _ => Triple.pure _ fun _ h => h
  · refine Triple.foldlM_list (I := fun e' _ => ∃ vsU fsU,
      e' = { e with vsUniforms := vsU, fsUniforms := fsU }) _ _ fun e' u => ?_
    split
    · refine Triple.of_forall fun _ hs => ?_
      obtain ⟨vsU, fsU, he'⟩ := hs
      refine (Script.Session.triple_ofExcept _).mono (fun _ _ => trivial) (fun x _ hx => ?_)
        fun _ h => h
      obtain ⟨f, rfl⟩ := setFragmentUniform_file hx
      exact ⟨vsU, f, by rw [he']⟩
    · exact Triple.bind (Triple.modify fun _ h => h) fun _ => Triple.pure _ fun _ h => h

/-- Setting the uniforms by name: only the uniform files of the engine changed, and only records
were written. -/
theorem run_applyUniforms_ok {t : Test} {program : Shader.Program} {e e' : Engine}
    (h : Exec.run (applyUniforms t program e) m = (.ok e', m')) :
    (∃ vsU fsU, e' = { e with vsUniforms := vsU, fsUniforms := fsU }) ∧
      m' = { m with journal := m'.journal } :=
  ⟨((applyUniforms_files t program e).apply trivial).1 e' m' h,
    Engine.run_of_keeps (keeps_withoutJournal_applyUniforms t program e) h⟩

/-! ### The frame a run draws -/

/-- The quad's corner positions as the engine reads them. -/
def quadPositions : Array Engine.Vec4 := Engine.vertices (Display.Context.wordBytes quadVertices) 4

/-- The quad's corner colours as the engine reads them. -/
def quadPalette : Array Engine.Vec4 := Engine.vertices (Display.Context.wordBytes quadColors) 4

/-- The triangles a run draws: the quad's corners in the order of its indices, through the
window transform of the bench's state, coloured by the palette when the vertex shader has a
`color` attribute and white otherwise. -/
def quadTriangles (colored : Bool) : List (Vertex × Vertex × Vertex) :=
  Engine.trianglesOf benchState
    ((Engine.decodeIndices (Display.Context.halfBytes quadIndices) .half quadIndices.length).toList.map
      (windowVertex benchState quadPositions (if colored then some quadPalette else none)))

/-- The view of all of the framebuffer's store `k`, on the allocation `H`. -/
def benchView (k : Nat) (H : Handle) : View :=
  ⟨k, H, 0, testSize * testSize * 4, { renderTarget := true }⟩

/-- The framebuffer's surface on a view: the side of the test, four bytes a pixel, in tiles. -/
def benchSurface (v : View) : Surface :=
  ⟨testSize, testSize, .rgba8888, .tiled, testSize * 4, v⟩

/-- The framebuffer's bytes after the clear: every pixel grey. -/
def clearedFrame : ByteArray :=
  fillPixels .rgba8888 (Format.rgba8888.pack clearLevel clearLevel clearLevel clearLevel) 0
    (testSize * testSize) (zeros (testSize * testSize * 4))

/-- The framebuffer's bytes after the draw.  Where a pixel lies depends on the surface's shape
only, not on its view. -/
def quadFrame (colored : Bool) : ByteArray :=
  (benchSurface (benchView 0 ⟨0⟩)).storePixels 0 clearedFrame
    (trianglesWrites (Engine.clipOf benchState.scissor) testSize testSize .rgba8888
      (quadTriangles colored))

/-- The framebuffer a run makes is the surface of this shape. -/
theorem storageSize_bench :
    storageSize testSize testSize .rgba8888 .tiled = some (testSize * 4, testSize * testSize * 4) := by
  decide

/-! ### Giving the program's attributes their buffers -/

/-- Giving an empty attribute slot a buffer of four floats per vertex changes only the slot. -/
theorem run_setPointer_of_empty {e : Engine} {loc : Nat} (hloc : loc < attribSlots)
    (hold : e.pointers[loc]?.join = none) (v : View) (m : Machine) :
    Exec.run (e.setPointer loc 4 v) m =
      (.ok { e with pointers := e.pointers.set! loc (some ⟨4, v⟩) }, m) := by
  have hslot : Engine.attribSlot loc = .ok loc := by simp [Engine.attribSlot, hloc]
  unfold Engine.setPointer
  dsimp only
  rw [hslot]
  -- the checks pass: the slot exists and four floats per vertex are allowed
  split
  · next err heq => simp [bind, Except.bind, pure, Except.pure] at heq
  · next slot heq =>
    obtain rfl : loc = slot := by simpa [bind, Except.bind, pure, Except.pure] using heq
    rw [hold]
    rfl

/-- **Giving an attribute its buffer.**  When the program has no attribute of the name, only a
warning is written.  Otherwise, when its slot is free, the slot gets a new buffer of four floats
per vertex, on the next handle, holding the attribute's words, and is enabled; the machine
follows by one allocation. -/
theorem run_attachAttribute_ok {program : Shader.Program} {e e' : Engine} {name : String}
    {data : List UInt32} (hfree : ∀ loc, program.attributeLocation name = some loc →
      loc < attribSlots ∧ e.pointers[loc]?.join = none)
    (h : Exec.run (attachAttribute program e name data) m = (.ok e', m')) :
    (program.attributeLocation name = none ∧ e' = e ∧ m' = { m with journal := m'.journal }) ∨
      ∃ loc, program.attributeLocation name = some loc ∧
        e' = { e with
          pointers := e.pointers.set! loc (some ⟨4, ⟨m.stores.next, countHandle m.device.created,
            0, (Display.Context.wordBytes data).size, {}⟩⟩),
          enabled := e.enabled.set! loc true } ∧
        m.Adds 1 m' ∧
        (⟨m.stores.next, countHandle m.device.created, 0, (Display.Context.wordBytes data).size,
          {}⟩ : View).bytes m' = Display.Context.wordBytes data := by
  unfold attachAttribute at h
  split at h
  · next hnone =>
    simp only [run_bind, run_note, run_pure, Prod.mk.injEq, Except.ok.injEq] at h
    obtain ⟨rfl, rfl⟩ := h
    exact .inl ⟨hnone, rfl, rfl⟩
  · next loc hloc =>
    obtain ⟨hlt, hold⟩ := hfree loc hloc
    obtain ⟨v, m₁, h₁, hset⟩ := exists_run_of_bind_ok h
    obtain ⟨rfl, hadds, hbytes⟩ := run_allocateWith_ok (run_guarded_ok h₁)
    obtain ⟨e₁, m₂, h₂, henable⟩ := exists_run_of_bind_ok hset
    have h₂' := (run_guarded_ok h₂).symm.trans (run_setPointer_of_empty hlt hold _ m₁)
    simp only [Prod.mk.injEq, Except.ok.injEq] at h₂'
    obtain ⟨rfl, rfl⟩ := h₂'
    have h₃ := run_guarded_ok henable
    rw [Act.run_ofExcept, Shader.setAttribEnabled_ok _ hlt] at h₃
    simp only [Prod.mk.injEq, Except.ok.injEq] at h₃
    obtain ⟨rfl, rfl⟩ := h₃
    exact .inr ⟨loc, hloc, rfl, hadds, hbytes⟩

/-- Reading the attributes of an engine after a buffer of four floats per vertex went into the
enabled slot `loc`. -/
theorem attribVertices_attach {e : Engine} {loc : Nat} (hp : loc < e.pointers.size)
    (hen : loc < e.enabled.size) (v : View) (m : Machine) (loc' : Nat) :
    ({ e with pointers := e.pointers.set! loc (some ⟨4, v⟩), enabled := e.enabled.set! loc true } :
      Engine).attribVertices m loc' =
      if loc' = loc then some (Engine.vertices (v.bytes m) 4) else e.attribVertices m loc' := by
  unfold Engine.attribVertices Engine.attribOn Engine.pointer?
  by_cases hl : loc' = loc
  · subst hl
    simp [hp, hen]
  · simp [Ne.symm hl, hl]

/-- An engine with no attribute buffers reads no attribute. -/
theorem attribVertices_of_empty {e : Engine} (hempty : ∀ loc : Nat, e.pointers[loc]?.join = none)
    (m : Machine) (loc : Nat) : e.attribVertices m loc = none := by
  unfold Engine.attribVertices Engine.pointer?
  rw [hempty loc]
  split <;> rfl

/-- What giving an attribute its buffer leaves of the engine.  Only the attribute's slot changes.
When the program has the attribute, its slot reads the attribute's words for as long as the
machine follows by at most two allocations; every other slot reads what it read. -/
theorem run_attachAttribute_reads {program : Shader.Program} {e e' : Engine} {name : String}
    {data : List UInt32} (hfree : ∀ loc, program.attributeLocation name = some loc →
      loc < attribSlots ∧ e.pointers[loc]?.join = none)
    (hp : e.pointers.size = attribSlots) (hen : e.enabled.size = attribSlots)
    (h : Exec.run (attachAttribute program e name data) m = (.ok e', m')) :
    (e'.program = e.program ∧ e'.state = e.state ∧ e'.targets = e.targets ∧
      e'.pointers.size = attribSlots ∧ e'.enabled.size = attribSlots ∧
      ∀ loc, program.attributeLocation name ≠ some loc → e'.pointers[loc]? = e.pointers[loc]?) ∧
    (∃ n ≤ 1, m.Adds n m') ∧
    ∀ j ≤ 2, ∀ m'', m'.Adds j m'' → ∀ loc, e'.attribVertices m'' loc =
      if program.attributeLocation name = some loc then
        some (Engine.vertices (Display.Context.wordBytes data) 4)
      else e.attribVertices m'' loc := by
  rcases run_attachAttribute_ok hfree h with ⟨hnone, rfl, hm'⟩ | ⟨loc, hloc, rfl, hadd, hbytes⟩
  · refine ⟨⟨rfl, rfl, rfl, hp, hen, fun _ _ => rfl⟩, ⟨0, Nat.zero_le _, .of_journal hm'⟩,
      fun j _ m'' _ loc' => ?_⟩
    rw [hnone, if_neg (by simp)]
  · have hlt := (hfree loc hloc).1
    refine ⟨⟨rfl, rfl, rfl, by simp [hp], by simp [hen], fun loc' hne => ?_⟩, ⟨1, le_rfl, hadd⟩,
      fun j hj m'' hadd' loc' => ?_⟩
    · have hne' : loc ≠ loc' := fun h => hne (h ▸ hloc)
      simp [hne']
    rw [attribVertices_attach (by omega) (by omega)]
    by_cases hl : loc' = loc
    · subst hl
      rw [if_pos rfl, if_pos hloc]
      -- the buffer was the last allocation before the stretch, so the stretch kept it
      rw [hadd'.bytes_eq fun k hk => ?_, hbytes]
      rw [hadd.created, Nat.add_assoc]
      exact (countHandle_add_ne (by omega) (by omega)).symm
    · rw [if_neg hl, if_neg fun h => hl (Option.some.inj (h.symm.trans hloc))]

/-- **Giving the quad's attributes their buffers**, on an engine with empty slots, for a program
whose attribute locations are slots and whose `position` and `color` locations differ.  The
engine keeps its program, state and render targets; at most two allocations were made; and one
allocation later, a `position` attribute reads the quad's positions, and the `color` attribute
reads the quad's colours when the program has one. -/
theorem run_attachQuad_ok {program : Shader.Program} {e₀ e₁ e₂ : Engine} {m₁ m₂ : Machine}
    (hfit : ∀ name loc, program.attributeLocation name = some loc → loc < attribSlots)
    (hne : ∀ loc, program.attributeLocation "position" = some loc →
      program.attributeLocation "color" ≠ some loc)
    (hp : e₀.pointers.size = attribSlots) (hen : e₀.enabled.size = attribSlots)
    (hempty : ∀ loc : Nat, e₀.pointers[loc]?.join = none)
    (h₁ : Exec.run (attachAttribute program e₀ "position" quadVertices) m = (.ok e₁, m₁))
    (h₂ : Exec.run (attachAttribute program e₁ "color" quadColors) m₁ = (.ok e₂, m₂)) :
    (e₂.program = e₀.program ∧ e₂.state = e₀.state ∧ e₂.targets = e₀.targets) ∧
    (∃ n ≤ 2, m.Adds n m₂) ∧
    ∀ m', m₂.Adds 1 m' → ∀ ps,
      (program.attributeLocation "position").bind (e₂.attribVertices m') = some ps →
      ps = quadPositions ∧ (program.attributeLocation "color").bind (e₂.attribVertices m') =
        if (program.attributeLocation "color").isSome then some quadPalette else none := by
  obtain ⟨⟨hprog₁, hstate₁, htargets₁, hp₁, hen₁, hkept⟩, ⟨n₁, hn₁, hadd₁⟩, hread₁⟩ :=
    run_attachAttribute_reads (fun loc hl => ⟨hfit _ _ hl, hempty loc⟩) hp hen h₁
  -- the colour's slot is still free: the position went into another one
  have hfree₂ : ∀ loc, program.attributeLocation "color" = some loc →
      loc < attribSlots ∧ e₁.pointers[loc]?.join = none := by
    intro loc hl
    refine ⟨hfit _ _ hl, ?_⟩
    rw [hkept loc fun hpos => hne loc hpos hl]
    exact hempty loc
  obtain ⟨⟨hprog₂, hstate₂, htargets₂, -, -, -⟩, ⟨n₂, hn₂, hadd₂⟩, hread₂⟩ :=
    run_attachAttribute_reads hfree₂ hp₁ hen₁ h₂
  refine ⟨⟨hprog₂.trans hprog₁, hstate₂.trans hstate₁, htargets₂.trans htargets₁⟩,
    ⟨n₁ + n₂, by omega, hadd₁.trans hadd₂⟩, fun m' hadd' ps hps => ?_⟩
  have hread : ∀ loc, e₂.attribVertices m' loc =
      if program.attributeLocation "color" = some loc then some quadPalette
      else if program.attributeLocation "position" = some loc then some quadPositions
      else none := by
    intro loc
    rw [hread₂ 1 (by omega) m' hadd' loc, hread₁ (n₂ + 1) (by omega) m' (hadd₂.trans hadd') loc,
      attribVertices_of_empty hempty]
    rfl
  cases hpos : program.attributeLocation "position" with
  | none =>
    rw [hpos] at hps
    cases hps
  | some locP =>
    rw [hpos, Option.bind_some, hread, if_neg (hne locP hpos), hpos, if_pos rfl] at hps
    refine ⟨(Option.some.inj hps).symm, ?_⟩
    cases hcol : program.attributeLocation "color" with
    | none => rfl
    | some locC => rw [Option.bind_some, hread, hcol, if_pos rfl]; rfl

/-! ### Drawing and reading the pixel -/

theorem run_bound_of_some {c : Display.Context β α} {fb : Framebuffer}
    (hc : c.framebuffer = some fb) (m : Machine) : Exec.run c.bound m = (.ok fb, m) := by
  unfold Display.Context.bound
  rw [hc]
  rfl

/-- Mapping the front surface, when it succeeds, gives the front surface and leaves the device
as it was. -/
theorem run_mapData_front_ok {fb : Framebuffer} {s : Surface}
    (h : Exec.run (fb.mapData true) m = (.ok s, m')) : s = fb.front ∧ m'.device = m.device := by
  unfold Framebuffer.mapData at h
  obtain ⟨s', m₁, h₁, h⟩ := exists_run_of_bind_ok h
  simp only [run_pure, Prod.mk.injEq, Except.ok.injEq] at h₁
  obtain ⟨rfl, rfl⟩ := h₁
  obtain ⟨u, m₂, h₂, h⟩ := exists_run_of_bind_ok h
  simp only [run_pure, Prod.mk.injEq, Except.ok.injEq] at h
  obtain ⟨rfl, rfl⟩ := h
  refine ⟨rfl, ?_⟩
  rw [run_tryCatch, run_map] at h₂
  by_cases hmapped : View.isMapped m fb.front.view = true
  · -- a mapped store is refused, and the refusal fails the mapping
    rw [if_pos hmapped] at h₂
    simp [run_bind] at h₂
  rw [if_neg hmapped] at h₂
  cases hmm : m.device.mmap fb.front.view.handle with
  | error e =>
    rw [hmm] at h₂
    simp [run_bind] at h₂
  | ok u' =>
    rw [hmm] at h₂
    simp only [Prod.mk.injEq] at h₂
    rw [← h₂.2]

/-- **Drawing and reading the pixel.**  When it succeeds, the draw drew the triangles of the
window vertices of the quad's indices into the enabled render targets, and the outcome holds the
word at the origin of the front surface after the draw, the expected pixel, and whether nothing
or that word was expected. -/
theorem run_drawAndRead_ok {t : Test} {c : Display.Context β α} {fb : Framebuffer}
    (hc : c.framebuffer = some fb) {program : Shader.Program} {e : Engine}
    (hlocs : e.LocationsFit) {indices : View} {o : Outcome} {c' : Display.Context β α}
    (h : Exec.run (drawAndRead t c program e indices) m = (.ok (o, c'), m')) :
    ∃ p ps m₁, e.program = some p ∧
      (p.attributeLocation "position").bind (e.attribVertices m) = some ps ∧
      m.Redrawn (e.paintSlots (Engine.clipOf e.state.scissor) (Engine.trianglesOf e.state
        ((Engine.decodeIndices (indices.bytes m) .half quadIndices.length).toList.map
          (windowVertex e.state ps ((p.attributeLocation "color").bind (e.attribVertices m)))))
        (List.range targetSlots) m.device.objects) m₁ ∧
      wordAt (fb.front.view.bytes m₁) 0 = some o.result ∧ o.expected = t.expected ∧
      o.passed = t.expected.all (· == o.result) := by
  unfold drawAndRead at h
  extract_lets draw at h
  -- the dumps write records only
  obtain ⟨j, h⟩ : ∃ j, Exec.run (draw ()) { m with journal := j } = (.ok (o, c'), m') := by
    split at h
    · rw [run_bind, run_note] at h
      dsimp only at h
      rw [run_bind, run_note] at h
      exact ⟨_, h⟩
    · exact ⟨m.journal, h⟩
  dsimp -zeta only [draw] at h
  obtain ⟨e', m₁, h₁, h⟩ := exists_run_of_bind_ok h
  obtain ⟨⟨vsU, fsU, rfl⟩, hm₁⟩ := run_applyUniforms_ok h₁
  have hd₁ : m₁.device = m.device := by rw [hm₁]
  obtain ⟨u, m₂, h₂, h⟩ := exists_run_of_bind_ok h
  obtain ⟨p, ps, hprog, hps, hdrawn⟩ := Engine.run_draw_ok_eq _ hlocs h₂
  rw [Engine.attribVertices_of_device hd₁] at hps
  rw [View.bytes_of_device hd₁, Engine.attribVertices_of_device hd₁, hd₁] at hdrawn
  refine ⟨p, ps, m₂, hprog, hps, hdrawn.of_journal hm₁, ?_⟩
  obtain ⟨fb', m₃, h₃, h⟩ := exists_run_of_bind_ok h
  rw [run_bound_of_some hc] at h₃
  simp only [Prod.mk.injEq, Except.ok.injEq] at h₃
  obtain ⟨rfl, rfl⟩ := h₃
  obtain ⟨front, m₄, h₄, h⟩ := exists_run_of_bind_ok h
  obtain ⟨rfl, hd₄⟩ := run_mapData_front_ok h₄
  rw [← View.bytes_of_device hd₄]
  refine (Triple.apply (P := (· = m₄)) (E := fun _ => True)
    (Q := fun (r : Outcome × Display.Context β α) _ =>
      wordAt (fb.front.view.bytes m₄) 0 = some r.1.result ∧ r.1.expected = t.expected ∧
        r.1.passed = t.expected.all (· == r.1.result)) ?_ rfl).1 _ _ h
  refine Triple.bind (Triple.get.mono (fun _ h => h) (fun _ _ h => h.2.trans h.1) fun _ h => h)
    fun s => Triple.of_forall fun _ hs => ?_
  subst hs
  extract_lets data finish
  split
  next w hw =>
    simp only [pure_bind]
    dsimp -zeta only [finish]
    extract_lets passed outcome done present report
    -- every way on ends in the outcome of `w`, whatever the notes and the presentation do
    have hdone : ∀ c'', Triple (fun _ => True) (done c'') (fun r _ => r.1 = outcome)
        (fun _ => True) :=
      fun c'' => Triple.pure _ fun _ _ => rfl
    have hpresent : ∀ u, Triple (fun _ => True) (present u) (fun r _ => r.1 = outcome)
        (fun _ => True) := by
      intro u
      refine Triple.ite (fun _ => ?_) fun _ => ?_
      · exact Triple.bind (Triple.pure c fun _ _ => trivial) hdone
      · exact Triple.bind (Triple.of_ok fun _ _ _ _ _ => trivial)
          fun _ => Triple.bind (Triple.pure _ fun _ _ => trivial) hdone
    have hreport : ∀ u, Triple (fun _ => True) (report u) (fun r _ => r.1 = outcome)
        (fun _ => True) := by
      intro u
      refine Triple.bind (Triple.of_ok fun _ _ _ _ _ => trivial) fun _ => ?_
      split
      · exact Triple.bind (Triple.of_ok fun _ _ _ _ _ => trivial) hpresent
      · exact hpresent ()
    refine (Triple.ite (fun _ => ?_) fun _ => hreport ()).mono (fun _ _ => trivial)
      (fun r _ hr => ?_) fun _ h => h
    · exact Triple.bind (Triple.of_ok fun _ _ _ _ _ => trivial)
        fun _ => Triple.bind (Triple.of_ok fun _ _ _ _ _ => trivial) hreport
    rw [hr]
    refine ⟨hw, rfl, ?_⟩
    dsimp only [outcome, passed]
    cases t.expected <;> rfl
  next =>
    -- an empty front surface is refused after the unmapping
    exact Triple.bind (Triple.of_ok fun _ _ _ _ _ => trivial)
      fun _ => Triple.throw_bind _ fun _ _ => trivial

/-! ### Binding the render target -/

theorem run_bindTarget_of_empty {e : Engine} {slot : Nat} (hslot : slot < targetSlots)
    (hold : e.targets[slot]?.join = none) (s : Surface) (m : Machine) :
    Exec.run (e.bindTarget slot s) m =
      (.ok ({ e with targets := e.targets.set! slot (some ⟨s, false⟩) }, none), m) := by
  unfold Engine.bindTarget Engine.targetSlot
  rw [if_pos hslot]
  dsimp only
  rw [hold]
  rfl

theorem enableTarget_of_bound {e : Engine} {slot : Nat} (hslot : slot < targetSlots) {t : Target}
    (ht : e.targets[slot]?.join = some t) :
    e.enableTarget slot =
      .ok { e with targets := e.targets.set! slot (some { t with enabled := true }) } := by
  simp [Engine.enableTarget, Engine.targetSlot, hslot, ht, bind, Except.bind, pure, Except.pure]

section Slots

variable (e : Engine) (clip : Clip) (tris : List (Vertex × Vertex × Vertex))

/-- Slots that hold no enabled target draw nothing. -/
theorem paintSlots_of_none {l : List Nat} (hl : ∀ j ∈ l, e.drawnTarget? j = none)
    (objs : List Allocation) : e.paintSlots clip tris l objs = objs := by
  induction l generalizing objs with
  | nil => rfl
  | cons j l ih =>
    unfold Engine.paintSlots
    rw [List.foldl_cons, hl j List.mem_cons_self, Option.map_none, Option.getD_none]
    exact ih (fun j' hj' => hl j' (List.mem_cons_of_mem _ hj')) objs

/-- Drawing into the first `n` slots when only slot `i` holds an enabled target draws into
that target alone. -/
theorem paintSlots_range_of_only {i n : Nat} (hi : i < n) {t : Target}
    (ht : e.drawnTarget? i = some t) (hnone : ∀ j, j ≠ i → e.drawnTarget? j = none)
    (objs : List Allocation) :
    e.paintSlots clip tris (List.range n) objs =
      paintObjects t.surface.view.handle (t.draws clip tris) objs := by
  induction n with
  | zero => omega
  | succ n ih =>
    unfold Engine.paintSlots at ih ⊢
    rw [List.range_succ, List.foldl_append, List.foldl_cons, List.foldl_nil]
    by_cases hn : n = i
    · -- the slots before `i` draw nothing, and slot `i` draws the target
      subst hn
      have hbefore := paintSlots_of_none e clip tris
        (fun j hj => hnone j (Nat.ne_of_lt (List.mem_range.1 hj))) objs
      unfold Engine.paintSlots at hbefore
      rw [hbefore, ht]
      rfl
    · rw [ih (by omega), hnone n hn, Option.map_none, Option.getD_none]

end Slots

/-! ### Clearing, and giving back the framebuffer bound before -/

/-- A clear of the bound framebuffer that succeeds filled its drawn surface with the clear
colour. -/
theorem run_clear_ok {c : Display.Context β α} {fb : Framebuffer} (hc : c.framebuffer = some fb)
    {r g b a : Float32} (hcol : c.clearColor = (r, g, b, a)) {u : Unit}
    (h : Exec.run c.clear m = (.ok u, m')) :
    m.Redrawn (paintObjects fb.drawSurface.view.handle (fillPixels fb.drawSurface.format
      (fb.drawSurface.format.pack r g b a) fb.drawSurface.view.offset
      (fb.drawSurface.view.size / fb.drawSurface.format.bytesPerPixel)) m.device.objects) m' := by
  unfold Display.Context.clear at h
  rw [run_bind, run_bound_of_some hc, hcol] at h
  exact Surface.run_clear_ok h

/-! ### A run on the bound framebuffer -/

/-- A shader file that parses keeps the table of its kind. -/
theorem parseFile_respects {F : Folder} {kind : Shader.Kind} {path : String} {s : Shader}
    (h : Shader.parseFile F kind path = .ok s) : s.kind = kind ∧ s.Respects := by
  unfold Shader.parseFile at h
  split at h
  · cases h
  · exact Shader.parse_respects h

/-- Two names of a table that fits a part lie at different indices. -/
theorem locate_ne_of_fits {kind : Shader.Kind} {part : Shader.Part} {t : Shader.Table String}
    (hf : Shader.Table.Fits kind part t) {a b : String} (hab : a ≠ b) {i : Nat}
    (ha : t.locate a = some i) : t.locate b ≠ some i := by
  intro hb
  have he := List.inj_on_of_nodup_map hf.nodup (Shader.Table.mem_of_locate ha)
    (Shader.Table.mem_of_locate hb) rfl
  exact hab (congrArg Prod.snd he)

theorem pointers_initial (loc : Nat) :
    (Array.replicate attribSlots (none : Option Pointer))[loc]?.join = none := by
  rw [Array.getElem?_replicate]
  split <;> rfl

theorem targets_initial (slot : Nat) :
    (Array.replicate targetSlots (none : Option Target))[slot]?.join = none := by
  rw [Array.getElem?_replicate]
  split <;> rfl

/-- The bench's engine, with the framebuffer bound to slot 1 and enabled, draws into the
framebuffer alone. -/
theorem paintSlots_bench {e : Engine} (ht : e.targets = Array.replicate targetSlots none)
    (s : Surface) (clip : Clip) (tris : List (Vertex × Vertex × Vertex)) (objs : List Allocation) :
    ({ e with targets := (e.targets.set! 1 (some ⟨s, false⟩)).set! 1 (some ⟨s, true⟩) } :
        Engine).paintSlots clip tris (List.range targetSlots) objs =
      paintObjects s.view.handle (Target.draws ⟨s, true⟩ clip tris) objs := by
  refine paintSlots_range_of_only _ clip tris (i := 1) (n := targetSlots) (t := ⟨s, true⟩) (by decide) ?_
    (fun j hj => ?_) objs
  · simp [Engine.drawnTarget?, ht, targetSlots]
  · simp only [Engine.drawnTarget?, ht, Array.set!_eq_setIfInBounds,
      Array.getElem?_setIfInBounds_ne (Ne.symm hj), targets_initial, Option.filter_none]

/-- The bytes of the framebuffer, when its storage is the quad drawn over the grey clear of a
zero frame. -/
theorem bytes_benchView {k : Nat} {H : Handle} {colored : Bool}
    (hs : m.device.storage? H = some (Target.draws ⟨benchSurface (benchView k H), true⟩
      (Engine.clipOf benchState.scissor) (quadTriangles colored) clearedFrame)) :
    (benchView k H).bytes m = quadFrame colored := by
  have hsize : clearedFrame.size = testSize * testSize * 4 := by
    rw [clearedFrame, size_fillPixels, size_zeros]
  have hv : (benchView k H).handle = H ∧ (benchView k H).offset = 0 ∧
      (benchView k H).size = testSize * testSize * 4 := ⟨rfl, rfl, rfl⟩
  unfold View.bytes
  rw [hv.1, hs, hv.2.1, hv.2.2]
  dsimp only
  rw [Nat.zero_add, ← hsize, ← Target.size_draws ⟨benchSurface (benchView k H), true⟩
    (Engine.clipOf benchState.scissor) (quadTriangles colored), ByteArray.extract_zero_size]
  rfl

/-- **A run on the bound framebuffer.**  Let the framebuffer have the bench's shape, storage
that is zero or gone, and a handle that none of the next three creations gives out.  A run that
finishes read a vertex shader with a `position` attribute, and its pixel is the word at the
origin of the frame that the `color` attribute, there or not, picks. -/
theorem run_runBound_ok {t : Test} {c : Display.Context β α} {k : Nat} {H : Handle}
    (hc : c.framebuffer = some ⟨benchSurface (benchView k H), none⟩)
    (hcol : c.clearColor = (clearLevel, clearLevel, clearLevel, clearLevel))
    (hfresh : ∀ j < 3, H ≠ countHandle (m.device.created + j))
    (hzero : ∀ d, m.device.storage? H = some d → d = zeros (testSize * testSize * 4))
    {o : Outcome} {c' : Display.Context β α}
    (h : Exec.run (runBound t c ⟨benchSurface (benchView k H), none⟩) m = (.ok (o, c'), m')) :
    ∃ vs : Shader, Shader.parseFile m.folder .vertex t.vsPath = .ok vs ∧
      (vs.attributes.locate "position").isSome ∧
      wordAt (quadFrame (vs.attributes.locate "color").isSome) 0 = some o.result ∧
      o.expected = t.expected ∧ o.passed = t.expected.all (· == o.result) := by
  unfold runBound at h
  -- the clear paints the framebuffer's storage grey
  obtain ⟨u, m₁, h₁, h⟩ := exists_run_of_bind_ok h
  have hclear := run_clear_ok hc hcol h₁
  -- the three shaders and the program write records only
  obtain ⟨vs, m₂, h₂, h⟩ := exists_run_of_bind_ok h
  obtain ⟨hvs, hm₂⟩ := run_loadLogged_ok h₂
  obtain ⟨fs, m₃, h₃, h⟩ := exists_run_of_bind_ok h
  obtain ⟨-, hm₃⟩ := run_loadLogged_ok h₃
  obtain ⟨lk, m₄, h₄, h⟩ := exists_run_of_bind_ok h
  obtain ⟨-, hm₄⟩ := run_loadLogged_ok h₄
  obtain ⟨program, m₅, h₅, h⟩ := exists_run_of_bind_ok h
  obtain ⟨⟨p₀, hmake, hp₀⟩, hm₅⟩ := run_assemble_ok h₅
  have hlocate : ∀ name, program.attributeLocation name = vs.attributes.locate name := by
    obtain ⟨rfl, -, -, -⟩ := Shader.make_ok hmake
    intro name
    rw [hp₀]
    rfl
  rw [hclear.folder] at hvs
  -- the attribute locations are slots, and `position` and `color` lie apart
  obtain ⟨hkind, hresp⟩ := parseFile_respects hvs
  have hfits := hresp.attributes
  rw [hkind] at hfits
  have hfit : ∀ name loc, program.attributeLocation name = some loc → loc < attribSlots :=
    fun _ _ hl => hfits.locate_lt Shader.limits_agree.1 ((hlocate _).symm.trans hl)
  have hne : ∀ loc, program.attributeLocation "position" = some loc →
      program.attributeLocation "color" ≠ some loc := by
    intro loc hl
    rw [hlocate] at hl ⊢
    exact locate_ne_of_fits hfits (by decide) hl
  -- the quad's attributes
  obtain ⟨e₁, m₆, h₆, h⟩ := exists_run_of_bind_ok h
  obtain ⟨e₂, m₇, h₇, h⟩ := exists_run_of_bind_ok h
  obtain ⟨⟨hprog₂, hstate₂, htargets₂⟩, ⟨n, hn, hadd₇⟩, hread⟩ :=
    run_attachQuad_ok hfit hne (Array.size_replicate) (Array.size_replicate) pointers_initial h₆ h₇
  -- the framebuffer's surface, retained, bound to slot 1 and enabled
  obtain ⟨u₈, m₈, h₈, h⟩ := exists_run_of_bind_ok h
  rw [run_retain] at h₈
  simp only [Prod.mk.injEq] at h₈
  obtain ⟨-, rfl⟩ := h₈
  obtain ⟨r₉, m₉, h₉, h⟩ := exists_run_of_bind_ok h
  have h₉' := (run_guarded_ok h₉).symm.trans (run_bindTarget_of_empty (by decide)
    (by rw [htargets₂]; exact targets_initial 1) _ _)
  simp only [Prod.mk.injEq, Except.ok.injEq] at h₉'
  obtain ⟨rfl, rfl⟩ := h₉'
  dsimp only at h
  obtain ⟨e₄, m₁₀, h₁₀, h⟩ := exists_run_of_bind_ok h
  have h₁₀' := run_guarded_ok h₁₀
  rw [Act.run_ofExcept, enableTarget_of_bound (by decide)
    (t := ⟨benchSurface (benchView k H), false⟩) (by simp [htargets₂, targetSlots, Framebuffer.drawSurface])] at h₁₀'
  simp only [Prod.mk.injEq, Except.ok.injEq] at h₁₀'
  obtain ⟨he₄, rfl⟩ := h₁₀'
  -- the quad's indices
  obtain ⟨indices, m₁₁, h₁₁, h⟩ := exists_run_of_bind_ok h
  obtain ⟨rfl, haddI, hbytesI⟩ := run_allocateWith_ok (run_guarded_ok h₁₁)
  -- the draw and the reading, and the clean-up, which gives the outcome back
  obtain ⟨r, m₁₂, h₁₂, h⟩ := exists_run_of_bind_ok h
  obtain ⟨u₁₃, m₁₃, -, h⟩ := exists_run_of_bind_ok h
  simp only [run_pure, Prod.mk.injEq, Except.ok.injEq] at h
  obtain ⟨rfl, -⟩ := h
  -- the engine of the draw: the program, the bench's state, the quad's attributes, and the
  -- framebuffer as the one enabled render target
  have hprog₄ : e₄.program = some program := by rw [← he₄]; exact hprog₂
  have hstate₄ : e₄.state = benchState := by rw [← he₄]; exact hstate₂
  have hattr₄ : e₄.attribVertices = e₂.attribVertices := by rw [← he₄]; rfl
  have hpaint : ∀ clip tris objs, e₄.paintSlots clip tris (List.range targetSlots) objs =
      paintObjects H (Target.draws ⟨benchSurface (benchView k H), true⟩ clip tris) objs := by
    intro clip tris objs
    rw [← he₄]
    exact paintSlots_bench htargets₂ _ clip tris objs
  have hlocs : e₄.LocationsFit := by
    intro p hp name loc hl
    rw [hprog₄, Option.some.injEq] at hp
    subst hp
    exact hfit name loc hl
  obtain ⟨p, ps, m₁₄, hp, hps, hdrawn, hword, hexp, hpassed⟩ :=
    run_drawAndRead_ok hc hlocs (run_guarded_ok h₁₂)
  rw [hprog₄, Option.some.injEq] at hp
  subst hp
  -- one allocation after the attributes, they read the quad
  rw [hattr₄] at hps hdrawn
  have hadd₁₁ : m₇.Adds (0 + 1) m₁₁ :=
    (Machine.Adds.of_device rfl rfl : m₇.Adds 0 (retained m₇ _)).trans haddI
  obtain ⟨rfl, hcolor⟩ := hread m₁₁ hadd₁₁ ps hps
  rw [hcolor, hstate₄, hbytesI, hpaint, hlocate] at hdrawn
  refine ⟨vs, hvs, ?_, ?_, hexp, hpassed⟩
  · -- the draw read a position
    rw [hlocate] at hps
    cases hpos : vs.attributes.locate "position" with
    | none =>
      rw [hpos] at hps
      cases hps
    | some _ => rfl
  -- the framebuffer's storage: the clear over what it held, then the quad; the steps between
  -- gave out other handles
  have hadd : m₁.Adds (0 + 0 + 0 + 0 + n + (0 + 1)) m₁₁ :=
    (((((Machine.Adds.of_journal hm₂).trans (.of_journal hm₃)).trans (.of_journal hm₄)).trans
      (.of_journal hm₅)).trans hadd₇).trans hadd₁₁
  have hstore₁₁ : m₁₁.device.storage? H = m₁.device.storage? H := by
    refine hadd.storage?_eq fun j hj => ?_
    rw [hclear.created]
    exact hfresh j (by omega)
  have hstore₁ := hclear.storage?_paint_self
  dsimp only [Framebuffer.drawSurface, Option.getD, benchSurface, benchView,
    Format.bytesPerPixel] at hstore₁
  rw [Nat.mul_div_cancel _ (by decide)] at hstore₁
  have hstore := hdrawn.storage?_paint_self
  rw [hstore₁₁, hstore₁] at hstore
  rw [← hword]
  cases hd : m.device.storage? H with
  | none =>
    -- no storage: the front surface reads nothing, which holds no word
    rw [hd, Option.map_none, Option.map_none] at hstore
    have hbytes : (benchView k H).bytes m₁₄ = ByteArray.empty := by
      unfold View.bytes
      rw [show (benchView k H).handle = H from rfl, hstore]
    have hnone : wordAt ((benchView k H).bytes m₁₄) 0 = none := by
      rw [hbytes]
      rfl
    cases hword.symm.trans hnone
  | some d =>
    rw [hd, hzero d hd, Option.map_some, Option.map_some] at hstore
    exact congrArg (wordAt · 0) (bytes_benchView hstore).symm

/-! ### A run -/

/-- **Making the bench's framebuffer.**  When it succeeds, its surface has the bench's shape, on
a view of all of a new store on the handle the creation gave out; that storage is zero, and the
working directory is as it was. -/
theorem run_createFramebuffer_ok {fb : Framebuffer}
    (h : Exec.run (Framebuffer.create testSize testSize .rgba8888 .tiled false) m = (.ok fb, m')) :
    fb = ⟨benchSurface (benchView m.stores.next (countHandle m.device.created)), none⟩ ∧
      m'.device.created = m.device.created + 1 ∧ m'.folder = m.folder ∧
      m'.device.storage? (countHandle m.device.created) = some (zeros (testSize * testSize * 4)) := by
  unfold Framebuffer.create at h
  obtain ⟨s, m₁, h₁, h⟩ := exists_run_of_bind_ok h
  rcases Surface.run_create testSize testSize .rgba8888 .tiled m with
    ⟨e, he⟩ | ⟨pitch, size, hd, d, j, hs, hc, hrun⟩
  · rw [he] at h₁
    cases h₁
  rw [hrun] at h₁
  rw [storageSize_bench, Option.some.injEq, Prod.mk.injEq] at hs
  obtain ⟨rfl, rfl⟩ := hs
  simp only [Prod.mk.injEq, Except.ok.injEq] at h₁
  obtain ⟨rfl, rfl⟩ := h₁
  -- a single-buffered framebuffer has no back surface, and the rest writes a record
  simp only [Bool.false_eq_true, if_false, run_bind, run_pure, Act.run_note, Prod.mk.injEq,
    Except.ok.injEq] at h
  obtain ⟨rfl, rfl⟩ := h
  obtain ⟨rfl, hcreated, -⟩ := Device.createWith_counts hc
  refine ⟨rfl, hcreated, rfl, ?_⟩
  simp only [Device.storage?, Device.object?_createWith hc, Option.map_some]
  rfl

/-- Making the framebuffer, caught: a caught failure is a value, so a framebuffer given was
made. -/
theorem run_tryCreate_ok {fb : Framebuffer} {m₁ : Machine}
    (h : Exec.run (tryCatch (Except.ok <$> Framebuffer.create testSize testSize .rgba8888 .tiled
      false) fun e => (pure (.error e) : Act (Except Error Framebuffer))) m = (.ok (.ok fb), m₁)) :
    Exec.run (Framebuffer.create testSize testSize .rgba8888 .tiled false) m = (.ok fb, m₁) := by
  rw [run_tryCatch, map_eq_bind_pure_comp, run_bind] at h
  rcases hr : Exec.run (Framebuffer.create testSize testSize .rgba8888 .tiled false) m with
    ⟨e | fb', m₂⟩ <;> rw [hr] at h
  · simp [run_pure] at h
  · simp only [Function.comp_apply, run_pure, Prod.mk.injEq, Except.ok.injEq] at h
    obtain ⟨rfl, rfl⟩ := h
    rfl

/-- **The outcome of a shader test.**  Every run that finishes read a vertex shader with a
`position` attribute from the working directory, and its pixel is the word at the origin of the
frame that the shader's `color` attribute, there or not, picks; the outcome passed exactly when
nothing or that pixel was expected. -/
theorem testRun_outcome {t : Test} {c : Display.Context β α} {o : Outcome}
    {c' : Display.Context β α} (h : Exec.run (t.run c) m = (.ok (.ok o, c'), m')) :
    ∃ vs : Shader, Shader.parseFile m.folder .vertex t.vsPath = .ok vs ∧
      (vs.attributes.locate "position").isSome ∧
      wordAt (quadFrame (vs.attributes.locate "color").isSome) 0 = some o.result ∧
      o.expected = t.expected ∧ o.passed = t.expected.all (· == o.result) := by
  unfold Test.run at h
  obtain ⟨r, m₁, h₁, h⟩ := exists_run_of_bind_ok h
  -- a framebuffer that was not made ends the run with its error
  cases r with
  | error e =>
    simp only [run_pure, Prod.mk.injEq, Except.ok.injEq, reduceCtorEq, false_and] at h
  | ok fb =>
  obtain ⟨rfl, hcreated, hfolder, hzero⟩ := run_createFramebuffer_ok (run_tryCreate_ok h₁)
  dsimp -zeta only [Display.Context.bind] at h
  extract_lets c₁ finish at h
  -- giving back the framebuffer bound before trims the machine
  obtain ⟨m₂, u, htrim, h⟩ : ∃ m₂ u, m₁.Trims m₂ ∧
      Exec.run (finish u) m₂ = (.ok (.ok o, c'), m') := by
    split at h
    · next p _ =>
      obtain ⟨u, m₂, h₂, h⟩ := exists_run_of_bind_ok h
      have htrim := run_release_framebuffer_trims p m₁
      rw [h₂] at htrim
      exact ⟨m₂, u, htrim, h⟩
    · exact ⟨m₁, (), Machine.Trims.refl m₁, h⟩
  dsimp only [finish] at h
  -- a run that failed ends with its error
  rw [run_tryCatch, run_bind] at h
  rcases hr : Exec.run (runBound t _ _) m₂ with ⟨e | ⟨o', c''⟩, m₃⟩ <;> rw [hr] at h
  · simp only [run_pure, Prod.mk.injEq, Except.ok.injEq, reduceCtorEq, false_and] at h
  simp only [run_pure, Prod.mk.injEq, Except.ok.injEq] at h
  obtain ⟨⟨rfl, -⟩, -⟩ := h
  -- the framebuffer's handle is older than the run's allocations, and its storage zero or gone
  have hfresh : ∀ j < 3, countHandle m.device.created ≠ countHandle (m₂.device.created + j) := by
    intro j hj
    rw [htrim.created, hcreated, Nat.add_assoc]
    exact (countHandle_add_ne (by omega) (by omega)).symm
  have hzero₂ : ∀ d, m₂.device.storage? (countHandle m.device.created) = some d →
      d = zeros (testSize * testSize * 4) := by
    intro d hd
    rcases htrim.storage? (countHandle m.device.created) with hs | hs <;> rw [hs] at hd
    · exact (Option.some.inj (hzero.symm.trans hd)).symm
    · cases hd
  rw [← hfolder, ← htrim.folder]
  exact run_runBound_ok rfl rfl hfresh hzero₂ hr

end TegraGpu.Bench
