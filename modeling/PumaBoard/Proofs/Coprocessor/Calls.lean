import PumaBoard.Proofs.Coprocessor.Steps

/-!
The calls that each step makes to the rendering engine. An upload hands over what the texture
memory holds and flushes its first page; a triangle comes after the uploads of its texture; no
other step calls the engine of itself.
-/

namespace PumaBoard

namespace Coprocessor

section Calls

variable (d : Coprocessor)

/-! ### The calls of a step -/

/-- The calls of an upload of the current texture; one that starts past the texture memory makes
none. -/
def uploadCalls (tmu : Nat) : List Render.Call :=
  if d.textureOffset.toNat < d.memory.texture.size then
    [.load tmu d.textureOffset
        (Bytes.slice d.memory.texture d.textureOffset.toNat maxTextureBytes),
      .flush d.textureOffset tmu]
  else []

/-- The uploads before a triangle. -/
def textureCalls (b : Render.Backend) : List Render.Call :=
  if (ColourPath.ofBits (d.regs.get Register.colourPath)).textured then
    b.units.flatMap d.uploadCalls
  else []

/-- The calls of a triangle. -/
def submitCalls (t : Triangle.Setup) : List Render.Call :=
  if d.enabled then
    match d.backend with
    | none => []
    | some b => d.textureCalls b ++ [.triangle (d.block t) d.memory.frame]
  else []

/-- The calls of the effect of a register write: the two triangle commands make some. -/
def effectCalls (e : Effect) : List Render.Call :=
  match e with
  | .command .triangle => d.submitCalls d.triangle
  | .command .floatTriangle => d.submitCalls d.floatTriangle.toFixed
  | _ => []

/-- The calls of a step. -/
def stepCalls : Step → List Render.Call
  | .call c => [c]
  | .submit t => d.submitCalls t
  | .upload tmu => d.uploadCalls tmu
  | .write r v => (d.store r v).effectCalls r.descriptor.effect
  | _ => []

/-! ### Uploads -/

/-- An upload makes its calls and may give a notice; nothing else changes. -/
theorem upload_spec (tmu : Nat) :
    ∃ ns, d.upload tmu =
      { d with calls := d.calls ++ (d.uploadCalls tmu).toArray, notices := ns } := by
  rw [upload_eq, uploadCalls]
  split
  · refine ⟨d.notices, ?_⟩
    simp only [call, Array.push_eq_append, Array.append_assoc]
    rfl
  · exact ⟨(d.note (.textureOutside d.textureOffset)).notices, by simp [note]⟩

theorem uploads_spec (units : List Nat) :
    ∃ ns, units.foldl upload d =
      { d with calls := d.calls ++ (units.flatMap d.uploadCalls).toArray, notices := ns } := by
  induction units generalizing d with
  | nil => exact ⟨d.notices, by simp⟩
  | cons tmu units ih =>
    obtain ⟨ns, h⟩ := d.upload_spec tmu
    obtain ⟨ns', h'⟩ := ih (d.upload tmu)
    refine ⟨ns', ?_⟩
    rw [List.foldl_cons, h']
    -- the later uploads look at nothing that the first one changes
    have hlater : (d.upload tmu).uploadCalls = d.uploadCalls := by rw [h]; rfl
    rw [hlater, h]
    simp

theorem uploadAll_spec (b : Render.Backend) :
    ∃ ns, d.uploadAll b =
      { d with calls := d.calls ++ (d.textureCalls b).toArray, notices := ns } := by
  unfold uploadAll textureCalls
  dsimp only
  split
  · exact d.uploads_spec b.units
  · exact ⟨d.notices, by simp⟩

/-! ### Flushes -/

theorem flushPage_eq {b : Render.Backend} (hb : d.backend = some b) (page : UInt32) :
    d.flushPage page =
      { d with calls := d.calls ++ (b.units.map (Render.Call.flush page)).toArray } := by
  have flushes (units : List Nat) (d : Coprocessor) :
      units.foldl (fun d tmu => d.call (.flush page tmu)) d =
        { d with calls := d.calls ++ (units.map (Render.Call.flush page)).toArray } := by
    induction units generalizing d with
    | nil => simp
    | cons tmu units ih =>
      rw [List.foldl_cons, ih]
      simp [call]
  calc d.flushPage page = b.units.foldl (fun d tmu => d.call (.flush page tmu)) d := by
        rw [flushPage, hb]
    _ = _ := flushes b.units d

/-! ### Triangles -/

theorem calls_submit (t : Triangle.Setup) :
    (d.submit t).calls = d.calls ++ (d.submitCalls t).toArray := by
  rw [submit_eq, submitCalls]
  split
  · cases d.backend with
    | none => simp [note]
    | some b =>
      obtain ⟨ns, h⟩ := (d.setBusy true).uploadAll_spec b
      have hcalls : (((d.setBusy true).uploadAll b).queue t).calls =
          (d.calls ++ (d.textureCalls b).toArray).push (.triangle (d.block t) d.memory.frame) := by
        rw [h]; rfl
      show (((d.setBusy true).uploadAll b).queue t).calls = _
      rw [hcalls]
      simp
  · simp

/-! ### Register writes -/

theorem calls_fastFill : d.fastFill.calls = d.calls := by
  rw [fastFill_eq]
  split <;> rfl

theorem calls_swapBuffers : d.swapBuffers.calls = d.calls := by
  rw [swapBuffers_eq]
  split <;> rfl

theorem calls_vsync : d.vsync.calls = d.calls := by
  rw [vsync_eq]
  split
  · split
    · exact calls_swapBuffers _
    · rfl
  · rfl

theorem calls_noteAny (n : Option Notice) : (d.noteAny n).calls = d.calls := by
  cases n <;> rfl

theorem calls_affect (e : Effect) (v : UInt32) :
    (d.affect e v).calls = d.calls ++ (d.effectCalls e).toArray := by
  cases e with
  | none | triangle | floatTriangle | fog => exact Array.append_empty.symm
  | init n =>
    match n with
    | 0 | 1 | 2 | 3 | 4 | 5 => exact Array.append_empty.symm
  | ring c =>
    show (d.writeRingControl c v).calls = d.calls ++ #[]
    rw [writeRingControl_eq, calls_noteAny, Array.append_empty]
    rfl
  | command c =>
    cases c with
    | triangle => exact (d.note .triangleCommand).calls_submit d.triangle
    | floatTriangle =>
      exact (d.note .floatTriangleCommand).calls_submit d.floatTriangle.toFixed
    | fastFill => exact ((d.note .fastFillCommand).calls_fastFill).trans Array.append_empty.symm
    | nop | swapBuffer | swapPend => exact Array.append_empty.symm

theorem calls_countEntry : d.countEntry.calls = d.calls := by
  rw [countEntry_eq]
  split <;> rfl

theorem calls_updateThreshold : d.updateThreshold.calls = d.calls := by
  rw [updateThreshold_eq]
  split <;> rfl

/-- **A step adds its calls to those made before.** -/
theorem calls_step (s : Step) : (d.step s).calls = d.calls ++ (d.stepCalls s).toArray := by
  cases s with
  | call c => exact Array.push_eq_append
  | submit t => exact d.calls_submit t
  | upload tmu =>
    obtain ⟨ns, h⟩ := d.upload_spec tmu
    exact congrArg Coprocessor.calls h
  | write r v => exact (d.store r v).calls_affect ..
  | fastFill => exact d.calls_fastFill.trans Array.append_empty.symm
  | countEntry => exact d.calls_countEntry.trans Array.append_empty.symm
  | updateThreshold => exact d.calls_updateThreshold.trans Array.append_empty.symm
  | _ => exact Array.append_empty.symm

end Calls

end Coprocessor

end PumaBoard
