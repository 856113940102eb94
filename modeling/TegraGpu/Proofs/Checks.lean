import Mathlib
import TegraGpu.Proofs.Targets
import TegraGpu.Proofs.Draw
/-!
# The checks of a draw

Before a draw writes any render target it checks the primitive and the program, reads the
positions and the colors of the program's attributes through mappings, counts the bytes of its
indices, which must fit a machine word and the index buffer, reads them through a mapping, and
looks up each index among the positions and the colors.  Each of these steps reads the machine
and writes at most records of the journal.

This module states each check as a condition on the engine and the machine the draw starts in,
and shows that a draw fails exactly when one of the checks fails or an enabled render target
is refused a mapping.  A failed check stops the draw before any render target is written: the
machine is left as it was but for the journal, and the engine is not part of the machine at
all, so its state, with the scissor the clip rectangle is made from, is left as it was too.

* `Engine.AttribRefused`, `Engine.attribVertices`, `run_fetch` : reading an attribute.
* `Engine.PrepareRefuses`, `run_prepare` : the checks before the indices are read.
* `run_readIndices_of_refused`, `run_readIndices` : reading the indices.
* `Engine.Beyond`, `run_mapM_vertexOf` : looking up the indices.
* `Engine.Refuses`, `Engine.Fits`, `draw_fails_iff` : when a draw fails, and what a failed
  check leaves.
-/

namespace TegraGpu

open Buffer Host Exec Act Surface

/-- The machine with its journal emptied: what an operation keeps when it writes records and
nothing else. -/
def Machine.withoutJournal (m : Machine) : Machine := { m with journal := #[] }

theorem Machine.eq_of_withoutJournal {m m' : Machine} (h : m'.withoutJournal = m.withoutJournal) :
    m' = { m with journal := m'.journal } := by
  cases m
  cases m'
  cases h
  rfl

namespace Raster.Engine

variable (e : Engine) {m : Machine}

/-! ### Reading an attribute -/

/-- Whether the attribute slot at a location is enabled. -/
def attribOn (loc : Nat) : Bool := e.enabled[loc]?.getD false

/-- The buffer in the attribute slot at a location. -/
def pointer? (loc : Nat) : Option Pointer := e.pointers[loc]?.join

/-- Reading the attribute at a location is refused: its slot is enabled, and holds no buffer or
one that the device would not map now. -/
def AttribRefused (m : Machine) (loc : Nat) : Prop :=
  e.attribOn loc = true ∧ ∀ p, e.pointer? loc = some p → ¬ p.view.Mappable m

/-- The vertices read for the attribute at a location: those of its buffer, when its slot is
enabled. -/
def attribVertices (m : Machine) (loc : Nat) : Option (Array Vec4) :=
  if e.attribOn loc then (e.pointer? loc).map fun p => vertices (p.view.bytes m) p.size else none

theorem run_fetch_of_outside {loc : Nat} (hloc : ¬ loc < attribSlots) (m : Machine) :
    Exec.run (e.fetch loc) m = (.error (.invalidLocation .attribute loc), m) := by
  unfold fetch
  rw [run_bind, attribSlot, if_neg hloc, run_ofExcept]

theorem run_fetch_of_refused {loc : Nat} (hloc : loc < attribSlots) (h : e.AttribRefused m loc) :
    ∃ err j, Exec.run (e.fetch loc) m = (.error err, { m with journal := j }) := by
  obtain ⟨hon, hp⟩ := h
  unfold attribOn at hon
  unfold pointer? at hp
  unfold fetch
  rw [run_bind, attribSlot, if_pos hloc, run_ofExcept]
  dsimp only
  simp only [hon, Bool.not_true, Bool.false_eq_true, if_false]
  split
  · exact ⟨_, m.journal, rfl⟩
  · next p hpj =>
    obtain ⟨err, j, hr⟩ := run_withMap_of_refused (hp p hpj) (do pure (View.bytes (← get) p.view))
    exact ⟨err, j, by rw [run_bind, hr]⟩

theorem run_fetch_of_mappable {loc : Nat} (hloc : loc < attribSlots) (hon : e.attribOn loc = true)
    {p : Pointer} (hp : e.pointer? loc = some p) (hm : p.view.Mappable m) :
    Exec.run (e.fetch loc) m = (.ok (some (vertices (p.view.bytes m) p.size)), m) := by
  unfold attribOn at hon
  unfold pointer? at hp
  unfold fetch
  rw [run_bind, attribSlot, if_pos hloc, run_ofExcept]
  dsimp only
  simp only [hon, hp, Bool.not_true, Bool.false_eq_true, if_false]
  rw [run_bind, run_withMap_read hm (fun m => View.bytes m p.view) fun _ => rfl]
  rfl

/-- An enabled slot that is not refused has a buffer that maps. -/
theorem exists_mappable_of_not_refused {loc : Nat} (hon : e.attribOn loc = true)
    (h : ¬ e.AttribRefused m loc) : ∃ p, e.pointer? loc = some p ∧ p.view.Mappable m := by
  by_contra hno
  exact h ⟨hon, fun p hp hm => hno ⟨p, hp, hm⟩⟩

/-- **Reading an attribute that is not refused** gives its vertices and changes nothing. -/
theorem run_fetch {loc : Nat} (hloc : loc < attribSlots) (h : ¬ e.AttribRefused m loc) :
    Exec.run (e.fetch loc) m = (.ok (e.attribVertices m loc), m) := by
  cases hon : e.attribOn loc with
  | false =>
    unfold fetch
    rw [run_bind, attribSlot, if_pos hloc, run_ofExcept]
    unfold attribOn at hon
    simp [hon, attribVertices, attribOn]
  | true =>
    obtain ⟨p, hp, hm⟩ := e.exists_mappable_of_not_refused hon h
    rw [e.run_fetch_of_mappable hloc hon hp hm]
    simp [attribVertices, hon, hp]

theorem run_fetch_journal (loc : Nat) (m : Machine) :
    ∃ r j, Exec.run (e.fetch loc) m = (r, { m with journal := j }) := by
  by_cases hloc : loc < attribSlots
  · by_cases h : e.AttribRefused m loc
    · obtain ⟨err, j, hr⟩ := e.run_fetch_of_refused hloc h
      exact ⟨_, j, hr⟩
    · exact ⟨_, m.journal, e.run_fetch hloc h⟩
  · exact ⟨_, m.journal, e.run_fetch_of_outside hloc m⟩

theorem keeps_withoutJournal_fetch (loc : Nat) : Keeps Machine.withoutJournal (e.fetch loc) :=
  Keeps.of_run_eq fun m => by
    obtain ⟨r, j, hr⟩ := e.run_fetch_journal loc m
    rw [hr]
    rfl

/-! ### The checks before the indices -/

/-- The bound program's attribute locations are attribute slots, as reading a vertex shader
ensures. -/
def LocationsFit : Prop :=
  ∀ p, e.program = some p → ∀ name loc, p.attributeLocation name = some loc → loc < attribSlots

/-- The checks of a draw before its indices are read refuse it: the primitive is not a triangle
list, or no program is bound, or the bound program is not linked, has no `position` attribute in
an enabled slot, or has its `position` or `color` attribute in a slot whose reading is
refused. -/
def PrepareRefuses (prim : Primitive) (m : Machine) : Prop :=
  prim ≠ .triangles ∨ ∀ p, e.program = some p →
    p.linked = false ∨
    (∀ loc, p.attributeLocation "position" = some loc → e.attribOn loc = false) ∨
    ∃ name ∈ ["position", "color"], ∃ loc, p.attributeLocation name = some loc ∧
      e.AttribRefused m loc

theorem prepareRefuses_iff {p : Shader.Program} (hp : e.program = some p) (prim : Primitive)
    (m : Machine) :
    e.PrepareRefuses prim m ↔ prim ≠ .triangles ∨ p.linked = false ∨
      (∀ loc, p.attributeLocation "position" = some loc → e.attribOn loc = false) ∨
      (∃ loc, p.attributeLocation "position" = some loc ∧ e.AttribRefused m loc) ∨
      ∃ loc, p.attributeLocation "color" = some loc ∧ e.AttribRefused m loc := by
  simp [PrepareRefuses, hp]

/-- The slot of an attribute that is read without refusal and gives no vertices is disabled. -/
theorem attribOn_of_attribVertices {loc : Nat} (h : ¬ e.AttribRefused m loc)
    (hv : e.attribVertices m loc = none) : e.attribOn loc = false := by
  cases hon : e.attribOn loc with
  | false => rfl
  | true =>
    obtain ⟨p, hp, -⟩ := e.exists_mappable_of_not_refused hon h
    simp [attribVertices, hon, hp] at hv

/-- **The checks before the indices.**  They fail exactly when they refuse the draw, with
nothing changed but the journal; when they pass, the program is bound, its positions are read,
and the run gives them with its colors, and changes nothing. -/
theorem run_prepare (hlocs : e.LocationsFit) (prim : Primitive) (m : Machine) :
    (e.PrepareRefuses prim m ∧
        ∃ err j, Exec.run (e.prepare prim) m = (.error err, { m with journal := j })) ∨
      (¬ e.PrepareRefuses prim m ∧ ∃ p ps, e.program = some p ∧
        (p.attributeLocation "position").bind (e.attribVertices m) = some ps ∧
        Exec.run (e.prepare prim) m =
          (.ok (ps, (p.attributeLocation "color").bind (e.attribVertices m)), m)) := by
  unfold prepare
  dsimp only
  by_cases hprim : prim ≠ .triangles
  · exact .inl ⟨.inl hprim, _, m.journal, by rw [if_pos hprim]; rfl⟩
  rw [if_neg hprim]
  cases hprog : e.program with
  | none =>
    refine .inl ⟨.inr fun p hp => ?_, _, m.journal, rfl⟩
    rw [hprog] at hp
    cases hp
  | some p =>
    have hiff := e.prepareRefuses_iff hprog prim m
    rw [run_bind, run_pure]
    dsimp only
    by_cases hlink : p.linked = false
    · exact .inl ⟨hiff.2 (.inr (.inl hlink)), _, m.journal,
        by simp only [hlink, Bool.not_false, if_true]; rfl⟩
    simp only [Bool.not_eq_false] at hlink
    simp only [hlink, Bool.not_true, Bool.false_eq_true, if_false]
    -- the positions: a missing attribute or a disabled slot gives none, and that is refused
    cases hpos : p.attributeLocation "position" with
    | none => exact .inl ⟨hiff.2 (by simp [hpos]), _, m.journal, rfl⟩
    | some loc =>
      have hloc := hlocs p hprog "position" loc hpos
      by_cases hr : e.AttribRefused m loc
      · obtain ⟨err, j, hf⟩ := e.run_fetch_of_refused hloc hr
        exact .inl ⟨hiff.2 (by simp [hpos, hr]), err, j, by rw [run_bind, hf]⟩
      rw [run_bind, e.run_fetch hloc hr]
      dsimp only
      cases hv : e.attribVertices m loc with
      | none =>
        have hoff := e.attribOn_of_attribVertices hr hv
        exact .inl ⟨hiff.2 (by simp [hpos, hoff]), _, m.journal, rfl⟩
      | some ps =>
        have hon : e.attribOn loc = true := by
          cases hon : e.attribOn loc
          · simp [attribVertices, hon] at hv
          · rfl
        rw [run_bind, run_pure]
        dsimp only
        -- the colors: read when the program has them, refused when their slot is
        cases hcol : p.attributeLocation "color" with
        | none =>
          exact .inr ⟨by simp [hiff, hprim, hlink, hpos, hon, hr, hcol], p, ps, rfl,
            by simp [hpos, hv], by simp [hcol]⟩
        | some cloc =>
          have hcloc := hlocs p hprog "color" cloc hcol
          by_cases hcr : e.AttribRefused m cloc
          · obtain ⟨err, j, hf⟩ := e.run_fetch_of_refused hcloc hcr
            exact .inl ⟨hiff.2 (by simp [hcol, hcr]), err, j, by rw [run_bind, hf]⟩
          refine .inr ⟨by simp [hiff, hprim, hlink, hpos, hon, hr, hcol, hcr], p, ps, rfl,
            by simp [hpos, hv], ?_⟩
          rw [run_bind, e.run_fetch hcloc hcr, hcol, Option.bind_some]
          rfl

theorem keeps_withoutJournal_prepare (prim : Primitive) :
    Keeps Machine.withoutJournal (e.prepare prim) := by
  unfold prepare
  dsimp only
  repeat' first
    | with_reducible exact Keeps.throw_bind _
    | with_reducible exact Keeps.pure _
    | with_reducible exact e.keeps_withoutJournal_fetch _
    | with_reducible refine Keeps.bind ?_ fun _ => ?_
    | with_reducible refine Keeps.ite ?_ ?_
    | split

/-! ### Reading the indices -/

theorem run_readIndices_of_refused {v : View} {width : IndexWidth} {count : Nat}
    (h : Host.wordMax < count * width.bytes ∨ v.size < count * width.bytes ∨ ¬ v.Mappable m) :
    ∃ err j, Exec.run (readIndices v width count) m = (.error err, { m with journal := j }) := by
  by_cases hover : Host.wordMax < count * width.bytes
  · exact ⟨_, m.journal, run_readIndices_overflow hover m⟩
  by_cases hshort : v.size < count * width.bytes
  · exact ⟨_, m.journal, run_readIndices_short hover hshort m⟩
  have hm := (h.resolve_left hover).resolve_left hshort
  unfold readIndices
  dsimp only
  rw [if_neg hover, if_neg hshort]
  obtain ⟨err, j, hr⟩ := run_withMap_of_refused hm (do pure (View.bytes (← get) v))
  exact ⟨err, j, by rw [run_bind, hr]⟩

/-- **Reading indices** whose bytes fit a machine word and the buffer, through a mapping the
device grants, gives the indices of its bytes and changes nothing. -/
theorem run_readIndices {v : View} {width : IndexWidth} {count : Nat}
    (hover : ¬ Host.wordMax < count * width.bytes) (hshort : ¬ v.size < count * width.bytes)
    (hm : v.Mappable m) :
    Exec.run (readIndices v width count) m = (.ok (decodeIndices (v.bytes m) width count), m) := by
  unfold readIndices
  dsimp only
  rw [if_neg hover, if_neg hshort, run_bind,
    run_withMap_read hm (fun m => View.bytes m v) fun _ => rfl]
  rfl

theorem keeps_withoutJournal_readIndices (v : View) (width : IndexWidth) (count : Nat) :
    Keeps Machine.withoutJournal (readIndices v width count) :=
  Keeps.of_run_eq fun m => by
    by_cases h : Host.wordMax < count * width.bytes ∨ v.size < count * width.bytes ∨
        ¬ v.Mappable m
    · obtain ⟨err, j, hr⟩ := run_readIndices_of_refused h
      rw [hr]
      rfl
    · simp only [not_or, not_not] at h
      rw [run_readIndices h.1 h.2.1 h.2.2]

/-! ### Looking up the indices -/

/-- An index is at or past the positions, or past the colors when there are colors. -/
def Beyond (positions : Array Vec4) (colors : Option (Array Vec4)) (i : Nat) : Prop :=
  positions.size ≤ i ∨ ∃ cs, colors = some cs ∧ cs.size ≤ i

variable {positions : Array Vec4} {colors : Option (Array Vec4)} {i : Nat}

theorem run_vertexOf_of_beyond (h : Beyond positions colors i) (m : Machine) :
    ∃ err, Exec.run (e.vertexOf positions colors i) m = (.error err, m) := by
  unfold vertexOf
  dsimp only
  rcases h with hp | ⟨cs, rfl, hc⟩
  · rw [getElem?_neg positions i (by omega)]
    exact ⟨_, rfl⟩
  · cases hpi : positions[i]? with
    | none => exact ⟨_, rfl⟩
    | some p =>
      rw [run_bind, run_pure]
      dsimp only
      rw [getElem?_neg cs i (by omega)]
      exact ⟨_, rfl⟩

theorem run_vertexOf (h : ¬ Beyond positions colors i) (m : Machine) :
    ∃ vtx, Exec.run (e.vertexOf positions colors i) m = (.ok vtx, m) := by
  have hp : i < positions.size := by
    by_contra hp
    exact h (.inl (by omega))
  unfold vertexOf
  dsimp only
  rw [getElem?_pos positions i hp, run_bind, run_pure]
  dsimp only
  cases colors with
  | none => exact ⟨_, rfl⟩
  | some cs =>
    have hc : i < cs.size := by
      by_contra hc
      exact h (.inr ⟨cs, rfl, by omega⟩)
    dsimp only
    rw [getElem?_pos cs i hc]
    exact ⟨_, rfl⟩

/-- **Looking up indices** fails exactly when one of them is beyond the vertices, and changes
nothing. -/
theorem run_mapM_vertexOf (positions : Array Vec4) (colors : Option (Array Vec4)) (l : List Nat)
    (m : Machine) :
    ((∃ i ∈ l, Beyond positions colors i) ∧
        ∃ err, Exec.run (l.mapM (e.vertexOf positions colors)) m = (.error err, m)) ∨
      ((∀ i ∈ l, ¬ Beyond positions colors i) ∧
        ∃ verts, Exec.run (l.mapM (e.vertexOf positions colors)) m = (.ok verts, m)) := by
  induction l with
  | nil => exact .inr ⟨by simp, [], rfl⟩
  | cons i l ih =>
    rw [List.mapM_cons, run_bind]
    by_cases hb : Beyond positions colors i
    · obtain ⟨err, hr⟩ := e.run_vertexOf_of_beyond hb m
      exact .inl ⟨⟨i, List.mem_cons_self, hb⟩, err, by rw [hr]⟩
    obtain ⟨vtx, hr⟩ := e.run_vertexOf hb m
    rw [hr]
    dsimp only
    rw [run_bind]
    rcases ih with ⟨⟨k, hk, hbk⟩, err, hr'⟩ | ⟨hall, verts, hr'⟩
    · exact .inl ⟨⟨k, List.mem_cons_of_mem _ hk, hbk⟩, err, by rw [hr']⟩
    · exact .inr ⟨List.forall_mem_cons.2 ⟨hb, hall⟩, vtx :: verts, by rw [hr']; rfl⟩

theorem keeps_withoutJournal_vertexOf (positions : Array Vec4) (colors : Option (Array Vec4))
    (i : Nat) : Keeps Machine.withoutJournal (e.vertexOf positions colors i) :=
  Keeps.of_run_eq fun m => by
    by_cases hb : Beyond positions colors i
    · obtain ⟨err, hr⟩ := e.run_vertexOf_of_beyond hb m
      rw [hr]
    · obtain ⟨vtx, hr⟩ := e.run_vertexOf hb m
      rw [hr]

/-! ### The vertices read -/

theorem size_vertices (data : ByteArray) (size : Nat) :
    (vertices data size).size = data.size / (4 * size) := by
  unfold vertices
  simp only [Array.size_map, Array.size_range]
  split
  · next h =>
    have hsize : size = 0 := by omega
    simp [hsize]
  · rw [Nat.mul_comm]

/-- The vertices read for an enabled attribute whose buffer maps and is covered by its
allocation are as many as the whole vertices of the buffer. -/
theorem attribVertices_of_pointer {loc : Nat} (hon : e.attribOn loc = true) {q : Pointer}
    (hq : e.pointer? loc = some q) (hm : q.view.Mappable m) (hs : q.view.Spans m) :
    ∃ vs, e.attribVertices m loc = some vs ∧ vs.size = q.view.size / (4 * q.size) := by
  refine ⟨vertices (q.view.bytes m) q.size, by simp [attribVertices, hon, hq], ?_⟩
  rw [size_vertices, View.size_bytes hs (View.holds_of_mappable hm)]

theorem pointer_of_attribVertices {loc : Nat} {vs : Array Vec4}
    (h : e.attribVertices m loc = some vs) :
    e.attribOn loc = true ∧ ∃ q, e.pointer? loc = some q ∧ vs = vertices (q.view.bytes m) q.size := by
  unfold attribVertices at h
  split at h
  · next hon =>
    obtain ⟨q, hq, rfl⟩ := Option.map_eq_some_iff.1 h
    exact ⟨hon, q, hq, rfl⟩
  · cases h

/-! ### When a draw fails -/

/-- What the library promises of the engine and the machine a draw starts in: the bound
program's attribute locations are slots, and the allocation under every attribute buffer and
every enabled render target covers it. -/
structure Fits (m : Machine) : Prop where
  /-- The program's attribute locations are slots. -/
  locations : e.LocationsFit
  /-- The attribute buffers lie inside their allocations. -/
  pointers : ∀ loc q, e.pointer? loc = some q → q.view.Spans m
  /-- The enabled render targets lie inside their allocations. -/
  targets : ∀ slot, e.TargetSpans m slot

/-- A draw is refused before it writes any render target: its first checks refuse it, or the
bytes of the indices pass a machine word, or the index buffer is too short for the indices or is
refused a mapping, or one of the indices is at or past the whole vertices in the buffer of the
`position` attribute, or in that of the `color` attribute when its slot is enabled. -/
def Refuses (prim : Primitive) (v : View) (width : IndexWidth) (count : Nat) (m : Machine) :
    Prop :=
  e.PrepareRefuses prim m ∨ Host.wordMax < count * width.bytes ∨ v.size < count * width.bytes ∨
    ¬ v.Mappable m ∨
    ∃ p, e.program = some p ∧ ∃ i ∈ (decodeIndices (v.bytes m) width count).toList,
      ∃ name ∈ ["position", "color"], ∃ loc q, p.attributeLocation name = some loc ∧
        e.attribOn loc = true ∧ e.pointer? loc = some q ∧ q.view.size / (4 * q.size) ≤ i

/-- Past checks that pass, an index is beyond the vertices read exactly when it is at or past
the whole vertices of the `position` buffer, or of the `color` buffer when its slot is
enabled. -/
theorem beyond_iff (hf : e.Fits m) {prim : Primitive} (hp : ¬ e.PrepareRefuses prim m)
    {p : Shader.Program} (hprog : e.program = some p) {ps : Array Vec4}
    (hps : (p.attributeLocation "position").bind (e.attribVertices m) = some ps) (i : Nat) :
    Beyond ps ((p.attributeLocation "color").bind (e.attribVertices m)) i ↔
      ∃ name ∈ ["position", "color"], ∃ loc q, p.attributeLocation name = some loc ∧
        e.attribOn loc = true ∧ e.pointer? loc = some q ∧ q.view.size / (4 * q.size) ≤ i := by
  rw [e.prepareRefuses_iff hprog] at hp
  simp only [not_or, not_exists, not_and] at hp
  obtain ⟨-, -, -, hpos, hcol⟩ := hp
  -- an attribute read without refusal has as many vertices as its buffer's whole vertices
  have hsize : ∀ name loc q vs, p.attributeLocation name = some loc →
      ¬ e.AttribRefused m loc → e.pointer? loc = some q →
      e.attribVertices m loc = some vs → vs.size = q.view.size / (4 * q.size) := by
    intro name loc q vs hloc hr hq hv
    obtain ⟨hon, -⟩ := e.pointer_of_attribVertices hv
    obtain ⟨q', hq', hm⟩ := e.exists_mappable_of_not_refused hon hr
    rw [hq] at hq'
    cases hq'
    obtain ⟨vs', hv', hsize'⟩ := e.attribVertices_of_pointer hon hq hm (hf.pointers loc q hq)
    rw [hv] at hv'
    cases hv'
    exact hsize'
  obtain ⟨loc, hloc, hv⟩ := Option.bind_eq_some_iff.1 hps
  obtain ⟨hon, q, hq, -⟩ := e.pointer_of_attribVertices hv
  have hpsize := hsize _ _ q ps hloc (hpos loc hloc) hq hv
  simp only [List.mem_cons, List.mem_nil_iff, or_false, exists_eq_or_imp, exists_eq_left]
  unfold Beyond
  constructor
  · rintro (hi | ⟨cs, hcs, hi⟩)
    · exact .inl ⟨loc, q, hloc, hon, hq, by omega⟩
    · obtain ⟨cloc, hcloc, hcv⟩ := Option.bind_eq_some_iff.1 hcs
      obtain ⟨hcon, cq, hcq, -⟩ := e.pointer_of_attribVertices hcv
      have hcsize := hsize _ _ cq cs hcloc (hcol cloc hcloc) hcq hcv
      exact .inr ⟨cloc, cq, hcloc, hcon, hcq, by omega⟩
  · rintro (⟨loc', q', hloc', -, hq', hi⟩ | ⟨cloc, cq, hcloc, hcon, hcq, hi⟩)
    · rw [hloc] at hloc'
      cases hloc'
      rw [hq] at hq'
      cases hq'
      exact .inl (by omega)
    · obtain ⟨cq', hcq', hcm⟩ := e.exists_mappable_of_not_refused hcon (hcol cloc hcloc)
      rw [hcq] at hcq'
      cases hcq'
      obtain ⟨cs, hcv, hcsize⟩ :=
        e.attribVertices_of_pointer hcon hcq hcm (hf.pointers cloc cq hcq)
      exact .inr ⟨cs, by rw [hcloc, Option.bind_some, hcv], by omega⟩

theorem run_bind_pure_unit (a : Act PUnit) (m : Machine) :
    Exec.run (a >>= fun _ => pure ()) m = Exec.run a m := by
  rw [run_bind]
  rcases Exec.run a m with ⟨err | u, m'⟩ <;> rfl

variable {prim : Primitive} {v : View} {width : IndexWidth} {count : Nat}

/-- **A refused draw** fails before any render target is written, with the machine as it was
but for the journal. -/
theorem run_draw_of_refuses (hf : e.Fits m) (h : e.Refuses prim v width count m) :
    ∃ err j, Exec.run (e.draw prim v width count) m = (.error err, { m with journal := j }) := by
  unfold draw
  rw [run_bind]
  rcases e.run_prepare hf.locations prim m with ⟨-, err, j, hr⟩ | ⟨hnp, p, ps, hprog, hps, hr⟩
  · exact ⟨err, j, by rw [hr]⟩
  rw [hr]
  dsimp only
  rw [run_bind]
  by_cases hidx : Host.wordMax < count * width.bytes ∨ v.size < count * width.bytes ∨
      ¬ v.Mappable m
  · obtain ⟨err, j, hr'⟩ := run_readIndices_of_refused hidx
    exact ⟨err, j, by rw [hr']⟩
  simp only [not_or, not_not] at hidx
  rw [run_readIndices hidx.1 hidx.2.1 hidx.2.2]
  dsimp only
  rw [run_bind]
  -- past the checks that pass, what refuses the draw is an index beyond the vertices
  obtain ⟨i, hi, hb⟩ : ∃ i ∈ (decodeIndices (v.bytes m) width count).toList,
      Beyond ps ((p.attributeLocation "color").bind (e.attribVertices m)) i := by
    rcases h with h | h | h | h | ⟨p', hp', i, hi, hname⟩
    · exact absurd h hnp
    · exact absurd h hidx.1
    · exact absurd h hidx.2.1
    · exact absurd hidx.2.2 h
    · rw [hprog] at hp'
      cases hp'
      exact ⟨i, hi, (e.beyond_iff hf hnp hprog hps i).2 hname⟩
  rcases e.run_mapM_vertexOf ps _ _ m with ⟨-, err, hr'⟩ | ⟨hall, -, -⟩
  · exact ⟨err, m.journal, by rw [hr']⟩
  · exact absurd hb (hall i hi)

/-- **A draw that passes its checks** goes on to draw into the render targets, from the machine
it started in with records added to the journal. -/
theorem run_draw_of_passes (hf : e.Fits m) (h : ¬ e.Refuses prim v width count m) :
    ∃ tris j, Exec.run (e.draw prim v width count) m =
      Exec.run (forIn (List.range targetSlots) PUnit.unit fun slot _ => do
          e.drawTarget (clipOf e.state.scissor) tris slot
          pure (ForInStep.yield PUnit.unit)) { m with journal := j } := by
  have hnp : ¬ e.PrepareRefuses prim m := fun hp => h (.inl hp)
  have hover : ¬ Host.wordMax < count * width.bytes := fun ho => h (.inr (.inl ho))
  have hshort : ¬ v.size < count * width.bytes := fun hs => h (.inr (.inr (.inl hs)))
  have hm : v.Mappable m := by
    by_contra hm
    exact h (.inr (.inr (.inr (.inl hm))))
  unfold draw
  rw [run_bind]
  rcases e.run_prepare hf.locations prim m with ⟨hp, -⟩ | ⟨-, p, ps, hprog, hps, hr⟩
  · exact absurd hp hnp
  rw [hr]
  dsimp only
  rw [run_bind, run_readIndices hover hshort hm]
  dsimp only
  rw [run_bind]
  rcases e.run_mapM_vertexOf ps _ (decodeIndices (v.bytes m) width count).toList m with
    ⟨⟨i, hi, hb⟩, -⟩ | ⟨-, verts, hr'⟩
  · exact absurd (.inr (.inr (.inr (.inr ⟨p, hprog, i, hi, (e.beyond_iff hf hnp hprog hps i).1 hb⟩))))
      h
  rw [hr']
  dsimp only
  rw [run_bind, run_note]
  exact ⟨_, _, run_bind_pure_unit _ _⟩

/-- A draw that passes its checks, and whose enabled render targets all map, finishes. -/
theorem run_draw_ok_of_passes (hf : e.Fits m) (h : ¬ e.Refuses prim v width count m)
    (ht : ∀ slot < targetSlots, ¬ e.TargetRefused m slot) :
    ∃ m', Exec.run (e.draw prim v width count) m = (.ok (), m') := by
  obtain ⟨tris, j, hrun⟩ := e.run_draw_of_passes hf h
  obtain ⟨r, _, _, _, -, hloop, -, hfine⟩ := e.run_drawTargets (clipOf e.state.scissor) tris
    (List.range targetSlots) { m with journal := j }
  -- every enabled target maps and lies inside its allocation, so the loop finishes
  have halike : m.Alike { m with journal := j } := ⟨rfl, rfl, rfl⟩
  have hok := hfine fun slot hs =>
    ⟨(e.targetRefused_iff_of_alike halike slot).not.2 (ht slot (List.mem_range.1 hs)),
      (e.targetSpans_iff_of_alike halike slot).2 (hf.targets slot)⟩
  rw [hrun, hloop, hok]
  exact ⟨_, rfl⟩

/-- **When a draw fails.**  A draw whose buffers fit fails exactly when it is refused, or when
the device refuses to map an enabled render target.  A refused draw fails before it writes any
render target, leaving the machine as it was but for the journal. -/
theorem draw_fails_iff (hf : e.Fits m) (prim : Primitive) (v : View) (width : IndexWidth)
    (count : Nat) :
    ((∃ err, (Exec.run (e.draw prim v width count) m).1 = .error err) ↔
      e.Refuses prim v width count m ∨ ∃ slot < targetSlots, e.TargetRefused m slot) ∧
    (e.Refuses prim v width count m →
      ∃ err j, Exec.run (e.draw prim v width count) m = (.error err, { m with journal := j })) := by
  refine ⟨⟨fun ⟨err, herr⟩ => ?_, fun h => ?_⟩, e.run_draw_of_refuses hf⟩
  · by_cases hr : e.Refuses prim v width count m
    · exact .inl hr
    -- a draw that passes its checks and maps every enabled target does not fail
    by_contra hno
    obtain ⟨m', hok⟩ := e.run_draw_ok_of_passes hf hr fun slot hs ht => hno (.inr ⟨slot, hs, ht⟩)
    rw [hok] at herr
    cases herr
  · by_cases hr : e.Refuses prim v width count m
    · obtain ⟨err, j, hrun⟩ := e.run_draw_of_refuses hf hr
      exact ⟨err, by rw [hrun]⟩
    obtain ⟨slot, hslot, ht⟩ := h.resolve_left hr
    obtain ⟨tris, j, hrun⟩ := e.run_draw_of_passes hf hr
    obtain ⟨r, _, _, _, -, hloop, hok, -⟩ := e.run_drawTargets (clipOf e.state.scissor) tris
      (List.range targetSlots) { m with journal := j }
    rw [hrun, hloop]
    cases r with
    | error err => exact ⟨err, rfl⟩
    | ok u =>
      exact absurd ((e.targetRefused_iff_of_alike ⟨rfl, rfl, rfl⟩ slot).2 ht)
        ((hok rfl).2 slot (List.mem_range.2 hslot))

/-- The engine after reset fits every machine: it holds no program, buffer or render target. -/
theorem fits_initial (m : Machine) : ({} : Engine).Fits m := by
  refine ⟨fun p hp => (by cases hp), fun loc q hq => ?_, fun slot t ht => ?_⟩
  · simp only [pointer?, Array.getElem?_replicate] at hq
    split at hq <;> simp at hq
  · simp only [drawnTarget?, Array.getElem?_replicate] at ht
    split at ht <;> simp at ht

/-- The sample engine fits its machine: its one attribute location is a slot, and the positions
and the surface lie inside their allocations. -/
theorem fits_sample : sample.Fits sampleMachine := by
  refine ⟨fun p hp name loc hl => ?_, fun loc q hq => ?_, fun slot t ht => ?_⟩
  · -- the program's one attribute is at location 0
    cases Option.some.inj hp
    have h0 : loc = 0 := by
      simp only [Shader.Program.attributeLocation, Shader.Table.locate, List.find?_cons,
        List.find?_nil] at hl
      split at hl <;> simp_all
    rw [h0]
    decide
  · -- only slot 0 holds a buffer, the positions
    simp only [pointer?, sample, Array.set!_eq_setIfInBounds, Array.getElem?_setIfInBounds] at hq
    split at hq
    · simp [attribSlots] at hq
      subst hq
      exact View.spans_of_shape 16 16 (by decide +kernel) (by decide) (by decide) (by decide)
    · simp only [Array.getElem?_replicate] at hq
      split at hq <;> simp at hq
  · -- only slot 0 holds a target, the surface
    simp only [drawnTarget?, sample, Array.set!_eq_setIfInBounds, Array.getElem?_setIfInBounds] at ht
    split at ht
    · simp [targetSlots] at ht
      obtain ⟨rfl, -⟩ := ht
      exact View.spans_of_shape 4 4 (by decide +kernel) (by decide) (by decide) (by decide)
    · simp only [Array.getElem?_replicate] at ht
      split at ht <;> simp at ht

/-- A draw of three indices with the sample engine, whose linked program reads enabled positions
and which draws into an enabled render target. -/
theorem draw_fails_iff_sample :
    sample.Fits sampleMachine ∧
      (((∃ err, (Exec.run (sample.draw .triangles sampleIndices .half 3) sampleMachine).1 =
            .error err) ↔
          sample.Refuses .triangles sampleIndices .half 3 sampleMachine ∨
            ∃ slot < targetSlots, sample.TargetRefused sampleMachine slot) ∧
        (sample.Refuses .triangles sampleIndices .half 3 sampleMachine →
          ∃ err j, Exec.run (sample.draw .triangles sampleIndices .half 3) sampleMachine =
            (.error err, { sampleMachine with journal := j }))) :=
  ⟨fits_sample, draw_fails_iff sample fits_sample .triangles sampleIndices .half 3⟩

end Raster.Engine

end TegraGpu
