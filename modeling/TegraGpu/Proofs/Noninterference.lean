import Mathlib
import TegraGpu.Proofs.Progress
/-!
# What the pixel of a shader test cannot see

The bench's software engine draws a fixed quad and reads back one pixel.  Of the test, the
pixel depends on one bit: whether the vertex shader declares a `color` attribute.  The program's
words, its constants, exports and uniform declarations, the uniforms the test sets, where the
attributes sit, the fragment and linker shaders, the expected pixel and whether the test only
checks: none of them reaches the pixel of a run that finishes.  The outcome's verdict says
exactly whether nothing or that pixel was expected.

* `result_ignores_shaders` : two runs that finish, whose vertex shaders agree on the `color`
  attribute, read the same pixel, and each passes exactly when nothing or its pixel was
  expected.

This says nothing of runs that fail; which runs finish is the subject of the lemmas before it.
-/

namespace TegraGpu.Bench

open Exec

variable {β₁ α₁ β₂ α₂ : Type}

/-- An expectation holds of a pixel exactly when there is none or it is that pixel. -/
theorem all_beq_iff (e : Option UInt32) (w : UInt32) :
    e.all (· == w) = true ↔ e = none ∨ e = some w := by
  cases e with
  | none => simp
  | some x => simp

/-- **Two runs that finish read the same pixel** when their vertex shaders agree on declaring a
`color` attribute, whatever else the tests, the shader files and the machines hold; and each
run's verdict is that nothing or its pixel was expected. -/
theorem result_ignores_shaders {t₁ t₂ : Test} {c₁ c₁' : Display.Context β₁ α₁}
    {c₂ c₂' : Display.Context β₂ α₂} {m₁ m₁' m₂ m₂' : Machine} {o₁ o₂ : Outcome}
    {vs₁ vs₂ : Shader}
    (h₁ : Exec.run (t₁.run c₁) m₁ = (.ok (.ok o₁, c₁'), m₁'))
    (h₂ : Exec.run (t₂.run c₂) m₂ = (.ok (.ok o₂, c₂'), m₂'))
    (hv₁ : Shader.parseFile m₁.folder .vertex t₁.vsPath = .ok vs₁)
    (hv₂ : Shader.parseFile m₂.folder .vertex t₂.vsPath = .ok vs₂)
    (hcolor : (vs₁.attributes.locate "color").isSome = (vs₂.attributes.locate "color").isSome) :
    o₁.result = o₂.result ∧
      (o₁.passed = true ↔ o₁.expected = none ∨ o₁.expected = some o₁.result) ∧
      (o₂.passed = true ↔ o₂.expected = none ∨ o₂.expected = some o₂.result) := by
  obtain ⟨vs₁', hv₁', -, hword₁, hexp₁, hpassed₁⟩ := testRun_outcome h₁
  obtain ⟨vs₂', hv₂', -, hword₂, hexp₂, hpassed₂⟩ := testRun_outcome h₂
  -- each run read the shader its folder holds
  obtain rfl : vs₁' = vs₁ := Except.ok.inj (hv₁'.symm.trans hv₁)
  obtain rfl : vs₂' = vs₂ := Except.ok.inj (hv₂'.symm.trans hv₂)
  rw [hcolor] at hword₁
  refine ⟨Option.some.inj (hword₁.symm.trans hword₂), ?_, ?_⟩
  · rw [hpassed₁, ← hexp₁, all_beq_iff]
  · rw [hpassed₂, ← hexp₂, all_beq_iff]

set_option maxRecDepth 8000 in
/-- Two test-only runs from one working directory finish and read the same pixel: their vertex
shaders differ in words, attribute locations and uniforms but both declare `color`, their
fragment and linker shaders differ, and only the first expects a pixel. -/
theorem result_ignores_shaders_two_tests :
    let F : Folder := { files := [
      (⟨.work, ["v"]⟩, ".attributes\n[0] = \"position\";\n[1] = \"color\";\n.asm\n0x1\n"),
      (⟨.work, ["w"]⟩,
        ".attributes\n[3] = \"position\";\n[5] = \"color\";\n.uniforms\n[2] = \"scale\";\n.asm\n0x2\n0x3\n"),
      (⟨.work, ["f"]⟩, ".asm\n0x2\n"),
      (⟨.work, ["g"]⟩, ".uniforms\n[5] = \"tint\";\n.asm\n0x7\n"),
      (⟨.work, ["k"]⟩, ".asm\n0x3\n"),
      (⟨.work, ["l"]⟩, ".asm\n0x4\n0x5\n")] }
    let c : Display.Context Unit Unit := { options := {}, chip := { paths := [] }, files := {} }
    let t₁ : Test :=
      { vsPath := "v", fsPath := "f", linkerPath := "k", expected := some 0xFF0000FF,
        testOnly := true }
    let t₂ : Test := { vsPath := "w", fsPath := "g", linkerPath := "l", testOnly := true }
    ∃ o₁ o₂ : Outcome,
      (∃ c' m', Exec.run (t₁.run c) { folder := F } = (.ok (.ok o₁, c'), m')) ∧
      (∃ c' m', Exec.run (t₂.run c) { folder := F } = (.ok (.ok o₂, c'), m')) ∧
      o₁.result = o₂.result ∧
      (o₁.passed = true ↔ o₁.expected = none ∨ o₁.expected = some o₁.result) ∧
      (o₂.passed = true ↔ o₂.expected = none ∨ o₂.expected = some o₂.result) := by
  intro F c t₁ t₂
  -- the files are found by evaluation, and parse to the shaders they spell
  have hv₁ : Shader.parseFile F .vertex "v" =
      .ok { kind := .vertex, words := #[1], attributes := [(0, "position"), (1, "color")] } := by
    rw [parseFile_of_read (by cbv)]
    rfl
  have hf₁ : Shader.parseFile F .fragment "f" = .ok { kind := .fragment, words := #[2] } := by
    rw [parseFile_of_read (by cbv)]
    rfl
  have hl₁ : Shader.parseFile F .linker "k" = .ok { kind := .linker, words := #[3] } := by
    rw [parseFile_of_read (by cbv)]
    rfl
  have hv₂ : Shader.parseFile F .vertex "w" = .ok
      { kind := .vertex, words := #[2, 3], attributes := [(3, "position"), (5, "color")],
        uniforms := [(2, "scale")] } := by
    rw [parseFile_of_read (by cbv)]
    rfl
  have hf₂ : Shader.parseFile F .fragment "g" =
      .ok { kind := .fragment, words := #[7], uniforms := [(5, "tint")] } := by
    rw [parseFile_of_read (by cbv)]
    rfl
  have hl₂ : Shader.parseFile F .linker "l" = .ok { kind := .linker, words := #[4, 5] } := by
    rw [parseFile_of_read (by cbv)]
    rfl
  obtain ⟨o₁, c₁, m₁, h₁⟩ := testRun_finishes (t := t₁) (c := c) rfl rfl (Machine.Open.fresh F)
    (by decide) hv₁ hf₁ hl₁ rfl
  obtain ⟨o₂, c₂, m₂, h₂⟩ := testRun_finishes (t := t₂) (c := c) rfl rfl (Machine.Open.fresh F)
    (by decide) hv₂ hf₂ hl₂ rfl
  exact ⟨o₁, o₂, ⟨c₁, m₁, h₁⟩, ⟨c₂, m₂, h₂⟩, result_ignores_shaders h₁ h₂ hv₁ hv₂ rfl⟩

end TegraGpu.Bench
