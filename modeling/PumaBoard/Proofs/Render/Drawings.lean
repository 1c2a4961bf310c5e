import PumaBoard.Proofs.Coprocessor.Internal
import PumaBoard.Proofs.Coprocessor.Masked
import PumaBoard.Proofs.Coprocessor.Swaps
import PumaBoard.Proofs.Render.Drawn

/-!
The triangles of a run. A triangle is asked for by a call or by a write of one of the two command
registers, by whatever path the write comes; the engine is handed each of them once, in order, with
its texture right before it, and between them it is told of nothing but flushed pages.
-/

namespace PumaBoard

/-! ### The command registers -/

namespace Register

variable (r : Register)

theorem effect_eq_triangleCommand :
    r.descriptor.effect = .command .triangle ↔ r = Register.triangleCommand := by
  revert r; decide +kernel

theorem effect_eq_floatTriangleCommand :
    r.descriptor.effect = .command .floatTriangle ↔ r = Register.floatTriangleCommand := by
  revert r; decide +kernel

end Register

namespace Coprocessor

section Drawings

variable (d : Coprocessor)

/-! ### The triangles that are asked for -/

/-- The triangles that a step asks for: while enabled, one by a call and one by a write of a command
register, which takes the setup of its bank and the state with the register stored. -/
def stepDrawings (s : Step) : List Drawing :=
  if d.enabled then
    match s with
    | .submit t => [⟨d, t⟩]
    | .write r v =>
      if r = Register.triangleCommand then [⟨d.store r v, d.triangle⟩]
      else if r = Register.floatTriangleCommand then [⟨d.store r v, d.floatTriangle.toFixed⟩]
      else []
    | _ => []
  else []

/-- The triangles that steps ask for one after the other. -/
def drawingsAlong (d : Coprocessor) : List Step → List Drawing
  | [] => []
  | s :: ss => d.stepDrawings s ++ (d.step s).drawingsAlong ss

/-- The triangles that a run asks for. -/
def drawings (d : Coprocessor) : List Operation → List Drawing
  | [] => []
  | op :: ops => d.drawingsAlong (d.steps op) ++ (d.perform op).2.drawings ops

/-- How many triangles have been asked for since the last reset, when `n` had been before the
run. -/
def trianglesSinceReset (d : Coprocessor) (n : Nat) : List Operation → Nat
  | [] => n
  | op :: ops =>
    (d.perform op).2.trianglesSinceReset
      (if op.resets then 0 else n + (d.drawingsAlong (d.steps op)).length) ops

/-- The triangles that the effect of a register write asks for. -/
def effectDrawings (e : Effect) : List Drawing :=
  if d.enabled then
    match e with
    | .command .triangle => [⟨d, d.triangle⟩]
    | .command .floatTriangle => [⟨d, d.floatTriangle.toFixed⟩]
    | _ => []
  else []

theorem stepDrawings_write (r : Register) (v : UInt32) :
    d.stepDrawings (.write r v) = (d.store r v).effectDrawings r.descriptor.effect := by
  have hint := r.effect_eq_triangleCommand
  have hfloat := r.effect_eq_floatTriangleCommand
  refine ite_congr rfl (fun _ => ?_) fun _ => rfl
  dsimp only
  by_cases hr : r = Register.triangleCommand
  · rw [hint.mpr hr, if_pos hr]
    rfl
  · by_cases hf : r = Register.floatTriangleCommand
    · rw [hfloat.mpr hf, if_neg hr, if_pos hf]
      rfl
    · rw [if_neg hr, if_neg hf]
      rw [← hint] at hr
      rw [← hfloat] at hf
      cases he : r.descriptor.effect with
      | command c =>
        cases c with
        | triangle => exact absurd he hr
        | floatTriangle => exact absurd he hf
        | _ => rfl
      | _ => rfl

/-! ### The calls for a triangle -/

theorem textureOffset_toNat (t : Triangle.Setup) :
    d.textureOffset.toNat = (Drawing.mk d t).textureStart := by
  have hmask := Word.toNat_and_mask (d.regs.get Register.textureBase) 0x7FFFF 19 rfl
  rw [Word.bitsAt, Nat.pow_zero, Nat.div_one] at hmask
  rw [textureOffset, UInt32.toNat_shiftLeft, hmask]
  show ((d.regs.get Register.textureBase).toNat % 2 ^ 19) <<< 12 % 2 ^ 32 =
    (d.regs.get Register.textureBase).toNat % 2 ^ 19 * 4096
  rw [Nat.shiftLeft_eq]
  omega

theorem textureOffset_eq (t : Triangle.Setup) :
    d.textureOffset = UInt32.ofNat (Drawing.mk d t).textureStart := by
  rw [← textureOffset_toNat, UInt32.ofNat_toNat]

theorem uploadCalls_eq (t : Triangle.Setup) (tmu : Nat) :
    d.uploadCalls tmu =
      if (Drawing.mk d t).textureStart < d.memory.texture.size then (Drawing.mk d t).upload tmu
      else [] := by
  rw [uploadCalls, textureOffset_toNat d t, textureOffset_eq d t, Bytes.slice_eq_min]
  rfl

theorem textured_eq (t : Triangle.Setup) :
    (ColourPath.ofBits (d.regs.get Register.colourPath)).textured = (Drawing.mk d t).textured :=
  Word.bit_ofNat _ (by decide)

theorem textureCalls_eq (b : Render.Backend) (t : Triangle.Setup) :
    d.textureCalls b =
      if (Drawing.mk d t).HasTexture then (Drawing.mk d t).uploads b else [] := by
  have hcond : (Drawing.mk d t).HasTexture ↔
      (Drawing.mk d t).textured = true ∧
        (Drawing.mk d t).textureStart < d.memory.texture.size := Iff.rfl
  have hunits : b.units.flatMap (Drawing.mk d t).upload = (Drawing.mk d t).uploads b := by
    unfold Drawing.uploads Render.Backend.units
    split <;> simp
  rw [textureCalls, textured_eq d t]
  by_cases htextured : (Drawing.mk d t).textured = true
  · by_cases hinside : (Drawing.mk d t).textureStart < d.memory.texture.size
    · have hupload : d.uploadCalls = (Drawing.mk d t).upload :=
        funext fun tmu => (uploadCalls_eq d t tmu).trans (if_pos hinside)
      rw [if_pos htextured, if_pos (hcond.mpr ⟨htextured, hinside⟩), ← hunits, hupload]
    · rw [if_pos htextured, if_neg fun h => hinside (hcond.mp h).2]
      refine List.flatMap_eq_nil_iff.mpr fun tmu _ => ?_
      exact (uploadCalls_eq d t tmu).trans (if_neg hinside)
  · rw [if_neg htextured, if_neg fun h => htextured (hcond.mp h).1]

variable {d} {b : Render.Backend}

theorem submitCalls_eq (hb : d.backend = some b) (hon : d.enabled = true) (t : Triangle.Setup) :
    d.submitCalls t = (Drawing.mk d t).calls b := by
  rw [submitCalls, if_pos hon, hb]
  dsimp only
  rw [textureCalls_eq d b t]
  rfl

/-- A triangle that is drawn makes its calls and is counted; nothing else stays changed. -/
theorem submit_drawn (hb : d.backend = some b) (hon : d.enabled = true) (t : Triangle.Setup) :
    ∃ ns, d.submit t =
      { d with
        counters := { d.counters with pixelsIn := d.counters.pixelsIn + 1 }
        busy := false
        calls := d.calls ++ ((Drawing.mk d t).calls b).toArray
        notices := ns } := by
  obtain ⟨ns, h⟩ := (d.setBusy true).uploadAll_spec b
  have hsubmit : d.submit t = (((d.setBusy true).uploadAll b).queue t).setBusy false := by
    rw [submit_eq, if_pos hon, hb]
  have hcalls : (d.calls ++ (d.textureCalls b).toArray).push
      (.triangle (d.block t) d.memory.frame) = d.calls ++ ((Drawing.mk d t).calls b).toArray := by
    rw [← submitCalls_eq hb hon, submitCalls, if_pos hon, hb]
    simp
  refine ⟨ns, ?_⟩
  rw [hsubmit, h, ← hcalls]
  rfl

/-- A triangle that is not drawn changes nothing, but for a notice. -/
theorem submit_not_drawn (h : d.enabled = false ∨ d.backend = none) (t : Triangle.Setup) :
    ∃ ns, d.submit t = { d with notices := ns } := by
  rcases h with hoff | hb
  · exact ⟨d.notices, by rw [submit_eq, if_neg (by simp [hoff])]⟩
  · have hnone : d.submit t = if d.enabled then d.note .noBackend else d := by
      rw [submit_eq, hb]
    rw [hnone]
    split
    · exact ⟨_, rfl⟩
    · exact ⟨_, rfl⟩

/-! ### Steps -/

/-- A step that neither changes the engine nor makes calls of its own, but for flushes. -/
def Step.LeavesEngine : Step → Prop
  | .call c => ∃ addr tmu, c = .flush addr tmu
  | .setBackend _ | .upload _ => False
  | _ => True

theorem Step.Within.leavesEngine {T : Aperture.Memory → Prop} {s : Step} (h : s.Within T) :
    s.LeavesEngine := by
  cases s with
  | call | setBackend | upload => exact h.elim
  | _ => trivial

/-- The second coprocessor is where the first one got with the engine attached, which was asked to
draw the triangles and told of flushes. -/
structure Draws (b : Render.Backend) (ws : List Drawing) (d e : Coprocessor) : Prop where
  backend : e.backend = some b
  calls : ∃ cs, e.calls = d.calls ++ cs.toArray ∧ Drawn b ws cs

theorem Draws.refl (hb : d.backend = some b) : Draws b [] d d where
  backend := hb
  calls := ⟨[], by simp, .nil⟩

theorem Draws.trans {ws vs : List Drawing} {e f : Coprocessor} (h : Draws b ws d e)
    (h' : Draws b vs e f) : Draws b (ws ++ vs) d f := by
  obtain ⟨cs, hcs, hdrawn⟩ := h.calls
  obtain ⟨ds, hds, hdrawn'⟩ := h'.calls
  refine ⟨h'.backend, cs ++ ds, ?_, hdrawn.append hdrawn'⟩
  rw [hds, hcs]
  simp

theorem drawn_submitCalls (hb : d.backend = some b) (t : Triangle.Setup) :
    Drawn b (if d.enabled then [⟨d, t⟩] else []) (d.submitCalls t) := by
  cases hon : d.enabled with
  | true =>
    rw [submitCalls_eq hb hon]
    exact .single _
  | false =>
    rw [submitCalls, hon]
    exact .nil

theorem drawn_effectCalls (hb : d.backend = some b) (e : Effect) :
    Drawn b (d.effectDrawings e) (d.effectCalls e) := by
  have hnone : Drawn b (if d.enabled then ([] : List Drawing) else []) [] := by
    rw [ite_self]
    exact .nil
  cases e with
  | command c =>
    cases c with
    | triangle => exact drawn_submitCalls hb d.triangle
    | floatTriangle => exact drawn_submitCalls hb d.floatTriangle.toFixed
    | _ => exact hnone
  | _ => exact hnone

theorem drawn_stepCalls (hb : d.backend = some b) {s : Step} (hs : s.LeavesEngine) :
    Drawn b (d.stepDrawings s) (d.stepCalls s) := by
  have hnone : Drawn b (if d.enabled then ([] : List Drawing) else []) [] := by
    rw [ite_self]
    exact .nil
  cases s with
  | setBackend | upload => exact hs.elim
  | call c =>
    obtain ⟨addr, tmu, rfl⟩ := hs
    have hflush := hnone.append (.flush addr tmu .nil)
    rw [List.append_nil] at hflush
    exact hflush
  | submit t => exact drawn_submitCalls hb t
  | write r v =>
    rw [stepDrawings_write]
    have hstored : (d.store r v).backend = some b := hb
    exact drawn_effectCalls hstored _
  | _ => exact hnone

theorem backend_step {s : Step} (hs : s.LeavesEngine) : (d.step s).backend = d.backend := by
  have hinternal (h : s.Internal d.memory.texture) : (d.step s).backend = d.backend :=
    (d.alike_step h).backend
  cases s with
  | setBackend => exact hs.elim
  | call | setMemory | setSwitch | setWindow => rfl
  | _ => exact hinternal trivial

theorem draws_step (hb : d.backend = some b) {s : Step} (hs : s.LeavesEngine) :
    Draws b (d.stepDrawings s) d (d.step s) where
  backend := (backend_step hs).trans hb
  calls := ⟨d.stepCalls s, d.calls_step s, drawn_stepCalls hb hs⟩

theorem draws_after (hb : d.backend = some b) {ss : List Step}
    (hs : ∀ s ∈ ss, s.LeavesEngine) : Draws b (d.drawingsAlong ss) d (d.after ss) := by
  induction ss generalizing d with
  | nil => exact .refl hb
  | cons s ss ih =>
    obtain ⟨hs, hss⟩ := List.forall_mem_cons.mp hs
    have hstep := draws_step hb hs
    exact hstep.trans (ih hstep.backend hss)

/-! ### Operations -/

/-- The operation neither changes the engine nor hands it a texture. -/
def Operation.leavesEngine : Operation → Bool
  | .attach _ | .detach | .loadTexture _ => false
  | _ => true

variable (d)

theorem leavesEngine_flushPageSteps (page : UInt32) :
    ∀ s ∈ d.flushPageSteps page, s.LeavesEngine := by
  unfold flushPageSteps
  cases d.backend with
  | none => simp
  | some b =>
    intro s hs
    obtain ⟨tmu, -, rfl⟩ := List.mem_map.mp hs
    exact ⟨page, tmu, rfl⟩

theorem leavesEngine_write32Steps (addr v : UInt32) :
    ∀ s ∈ d.write32Steps addr v, s.LeavesEngine := by
  unfold write32Steps
  split
  · rw [List.forall_mem_cons]
    refine ⟨trivial, ?_⟩
    cases d.layout.decode addr with
    | texture offset =>
      rw [writeRegionSteps, List.forall_mem_cons]
      exact ⟨trivial, d.leavesEngine_flushPageSteps _⟩
    | _ =>
      intro s hs
      refine (d.within_writeRegionSteps (T := fun _ => True) (fun _ _ => trivial) addr v ?_ s
        hs).leavesEngine
      simp
  · simp

theorem leavesEngine_rewriteSteps (addr : UInt32) (edit : UInt32 → UInt32) :
    ∀ s ∈ d.rewriteSteps addr edit, s.LeavesEngine := by
  rw [rewriteSteps, List.forall_mem_cons, List.forall_mem_append]
  refine ⟨trivial, fun s hs => ?_, leavesEngine_write32Steps _ _ _⟩
  exact (d.within_read32Steps (fun _ => True) _ s hs).leavesEngine

theorem leavesEngine_steps {op : Operation} (hop : op.leavesEngine = true) :
    ∀ s ∈ d.steps op, s.LeavesEngine := by
  have hread (addr : UInt32) : ∀ s ∈ d.read32Steps addr, s.LeavesEngine := fun s hs =>
    (d.within_read32Steps (fun _ => True) addr s hs).leavesEngine
  cases op with
  | attach | detach | loadTexture => simp [Operation.leavesEngine] at hop
  | setEnabled on =>
    rw [steps]
    split <;> simp [Step.LeavesEngine]
  | writeIndex index v =>
    rw [steps, writeIndexSteps]
    cases register? index <;> simp [Step.LeavesEngine]
  | write32 addr v => exact d.leavesEngine_write32Steps addr v
  | write16 addr v =>
    exact d.leavesEngine_rewriteSteps addr fun word =>
      insertBits word 0xFFFF (halfShift addr) v.toUInt32
  | write8 addr v =>
    exact d.leavesEngine_rewriteSteps addr fun word =>
      insertBits word 0xFF (byteShift addr) v.toUInt32
  | read32 addr => exact hread addr
  | read16 addr | read8 addr =>
    rw [steps, List.forall_mem_cons]
    exact ⟨trivial, hread _⟩
  | bridgeWrite addr v =>
    rw [steps, bridgeWriteSteps]
    split
    · rw [List.forall_mem_append]
      refine ⟨d.leavesEngine_write32Steps addr v, ?_⟩
      split <;> simp [Step.LeavesEngine]
    · simp
  | bridgeRead addr =>
    exact fun s hs => (d.within_bridgeReadSteps (fun _ => True) addr s hs).leavesEngine
  | writeRing offset v =>
    exact fun s hs => (d.within_writeRingSteps (T := fun _ => True) (fun _ _ => trivial) offset v
      s hs).leavesEngine
  | drain => exact fun s hs => (d.within_drainSteps (fun _ => True) s hs).leavesEngine
  | _ => simp [steps, Step.LeavesEngine]

variable {d}

theorem draws_perform (hb : d.backend = some b) {op : Operation} (hop : op.leavesEngine = true) :
    Draws b (d.drawingsAlong (d.steps op)) d (d.perform op).2 := by
  cases op with
  | reset => exact ⟨hb, [], by simp [perform, reset], .nil⟩
  | swapBuffers =>
    have h := d.frame_alike.swapBuffers ⟨rfl, rfl, rfl⟩
    exact ⟨h.backend.trans hb, [], d.calls_swapBuffers.trans (by simp), .nil⟩
  | vsync =>
    have h := d.frame_alike.vsync ⟨rfl, rfl, rfl⟩
    exact ⟨h.backend.trans hb, [], d.calls_vsync.trans (by simp), .nil⟩
  | restore s =>
    simp only [perform]
    cases hr : d.restore s with
    | error e => exact .refl hb
    | ok r =>
      obtain ⟨t, rfl⟩ := takeOver_of_restore hr
      exact ⟨hb, [], by simp [takeOver, install, note], .nil⟩
  | _ =>
    rw [← after_steps d rfl]
    exact draws_after hb (d.leavesEngine_steps hop)

theorem draws_run (hb : d.backend = some b) {ops : List Operation}
    (hops : ∀ op ∈ ops, op.leavesEngine = true) :
    Draws b (d.drawings ops) d (d.run ops).2 := by
  induction ops generalizing d with
  | nil => exact .refl hb
  | cons op ops ih =>
    obtain ⟨hop, hops⟩ := List.forall_mem_cons.mp hops
    have hperform := draws_perform hb hop
    exact hperform.trans (ih hperform.backend hops)

/-! ### The count of the triangles -/

theorem pixelsIn_submit (hb : d.backend = some b) (t : Triangle.Setup) (w : Drawing) :
    (d.submit t).counters.pixelsIn =
      d.counters.pixelsIn + UInt32.ofNat (if d.enabled then [w] else []).length := by
  cases hon : d.enabled with
  | true =>
    obtain ⟨ns, h⟩ := submit_drawn hb hon t
    rw [h]
    rfl
  | false =>
    obtain ⟨ns, h⟩ := submit_not_drawn (.inl hon) t
    rw [h]
    exact (UInt32.add_zero _).symm

variable (d) in
/-- A step that draws nothing counts nothing. -/
theorem count_none :
    d.counters.pixelsIn =
      d.counters.pixelsIn + UInt32.ofNat (if d.enabled then ([] : List Drawing) else []).length := by
  rw [ite_self]
  exact (UInt32.add_zero _).symm

theorem pixelsIn_affect (hb : d.backend = some b) (e : Effect) (v : UInt32) :
    (d.affect e v).counters.pixelsIn =
      d.counters.pixelsIn + UInt32.ofNat (d.effectDrawings e).length := by
  cases e with
  | none | triangle | floatTriangle | fog => exact count_none d
  | init n =>
    match n with
    | 0 | 1 | 2 | 3 | 4 | 5 => exact count_none d
  | ring c =>
    have hnote (d : Coprocessor) (n : Option Notice) : (d.noteAny n).counters = d.counters := by
      cases n <;> rfl
    show (d.writeRingControl c v).counters.pixelsIn = _
    rw [writeRingControl_eq, hnote]
    exact count_none d
  | command c =>
    cases c with
    | triangle =>
      have hnoted : (d.note .triangleCommand).backend = some b := hb
      exact pixelsIn_submit hnoted d.triangle ⟨d, d.triangle⟩
    | floatTriangle =>
      have hnoted : (d.note .floatTriangleCommand).backend = some b := hb
      exact pixelsIn_submit hnoted d.floatTriangle.toFixed ⟨d, d.floatTriangle.toFixed⟩
    | fastFill =>
      have hfill (d : Coprocessor) : d.fastFill.counters = d.counters := by
        rw [fastFill_eq]
        split <;> rfl
      show (d.note .fastFillCommand).fastFill.counters.pixelsIn = _
      rw [hfill]
      exact count_none d
    | nop | swapBuffer | swapPend => exact count_none d

/-- A step counts the triangles it draws. -/
theorem pixelsIn_step (hb : d.backend = some b) (s : Step) :
    (d.step s).counters.pixelsIn =
      d.counters.pixelsIn + UInt32.ofNat (d.stepDrawings s).length := by
  cases s with
  | submit t => exact pixelsIn_submit hb t ⟨d, t⟩
  | write r v =>
    rw [stepDrawings_write]
    have hstored : (d.store r v).backend = some b := hb
    exact pixelsIn_affect hstored _ v
  | upload tmu =>
    obtain ⟨ns, h⟩ := d.upload_spec tmu
    rw [step, h]
    exact count_none d
  | fastFill =>
    rw [step, fastFill_eq]
    split <;> exact count_none d
  | countEntry =>
    rw [step, countEntry_eq]
    split <;> exact count_none d
  | updateThreshold =>
    rw [step, updateThreshold_eq]
    split <;> exact count_none d
  | _ => exact count_none d

theorem pixelsIn_after (hb : d.backend = some b) {ss : List Step}
    (hs : ∀ s ∈ ss, s.LeavesEngine) :
    (d.after ss).counters.pixelsIn =
      d.counters.pixelsIn + UInt32.ofNat (d.drawingsAlong ss).length := by
  induction ss generalizing d with
  | nil => exact (UInt32.add_zero _).symm
  | cons s ss ih =>
    obtain ⟨hs, hss⟩ := List.forall_mem_cons.mp hs
    rw [after_cons, ih ((backend_step hs).trans hb) hss, pixelsIn_step hb s, drawingsAlong,
      List.length_append, UInt32.ofNat_add, UInt32.add_assoc]

theorem counted_perform (hb : d.backend = some b) {op : Operation} {n : Nat}
    (hop : op.leavesEngine = true) (hrestore : op.restores = false)
    (hn : d.counters.pixelsIn = UInt32.ofNat n) :
    (d.perform op).2.counters.pixelsIn =
      UInt32.ofNat
        (if op.resets then 0 else n + (d.drawingsAlong (d.steps op)).length) := by
  have hswap (e : Coprocessor) : e.swapBuffers.counters = e.counters := by
    rw [swapBuffers_eq]
    split <;> rfl
  have hsync : d.vsync.counters = d.counters := by
    rw [vsync_eq]
    split
    · split
      · exact hswap _
      · rfl
    · rfl
  cases op with
  | reset => rfl
  | restore => simp [Operation.restores] at hrestore
  | swapBuffers => exact (congrArg Counters.pixelsIn (hswap d)).trans hn
  | vsync => exact (congrArg Counters.pixelsIn hsync).trans hn
  | _ =>
    rw [← after_steps d rfl, pixelsIn_after hb (d.leavesEngine_steps hop), hn,
      ← UInt32.ofNat_add]
    rfl

theorem counted_run (hb : d.backend = some b) {ops : List Operation} {n : Nat}
    (hops : ∀ op ∈ ops, op.leavesEngine = true) (hrestore : ∀ op ∈ ops, op.restores = false)
    (hn : d.counters.pixelsIn = UInt32.ofNat n) :
    (d.run ops).2.counters.pixelsIn = UInt32.ofNat (d.trianglesSinceReset n ops) := by
  induction ops generalizing d n with
  | nil => exact hn
  | cons op ops ih =>
    obtain ⟨hop, hops⟩ := List.forall_mem_cons.mp hops
    obtain ⟨hr, hrestore⟩ := List.forall_mem_cons.mp hrestore
    exact ih (draws_perform hb hop).backend hops hrestore (counted_perform hb hop hr hn)

end Drawings

/-! ### The texture base of a triangle -/

section TextureBase

variable {d : Coprocessor}

theorem masked_stepDrawings (h : d.regs.Masked) (s : Step) :
    ∀ w ∈ d.stepDrawings s, w.state.regs.Masked := by
  have hnone : ∀ w ∈ (if d.enabled then ([] : List Drawing) else []), w.state.regs.Masked := by
    simp
  cases s with
  | submit t =>
    unfold stepDrawings
    split
    · simpa using h
    · simp
  | write r v =>
    have hstore := masked_store h r v
    rw [stepDrawings_write]
    unfold effectDrawings
    split
    · split
      · simpa using hstore
      · simpa using hstore
      · simp
    · simp
  | _ => exact hnone

theorem masked_drawingsAlong (h : d.regs.Masked) (ss : List Step) :
    ∀ w ∈ d.drawingsAlong ss, w.state.regs.Masked := by
  induction ss generalizing d with
  | nil => simp [drawingsAlong]
  | cons s ss ih =>
    rw [drawingsAlong, List.forall_mem_append]
    exact ⟨masked_stepDrawings h s, ih (masked_invariant.step s h)⟩

theorem masked_drawings (h : d.regs.Masked) {ops : List Operation}
    (hops : ∀ s, .restore s ∈ ops → s.Masked) : ∀ w ∈ d.drawings ops, w.state.regs.Masked := by
  induction ops generalizing d with
  | nil => simp [drawings]
  | cons op ops ih =>
    have hlater : ∀ s, .restore s ∈ ops → s.Masked := fun s hs =>
      hops s (List.mem_cons_of_mem op hs)
    have hnext : (d.perform op).2.regs.Masked := by
      cases op with
      | restore s =>
        have hs := hops s List.mem_cons_self
        simp only [perform]
        cases hr : d.restore s with
        | error e => exact h
        | ok r => exact masked_restore hs hr
      | _ => exact masked_invariant.perform rfl h
    rw [drawings, List.forall_mem_append]
    exact ⟨masked_drawingsAlong h _, ih hnext hlater⟩

/-- The texture base register holds nothing but the number of the page. -/
theorem textureStart_of_masked {w : Drawing} (h : w.state.regs.Masked) :
    w.textureStart = (w.state.regs.get Register.textureBase).toNat * 4096 := by
  have hmask := Word.toNat_and_mask (w.state.regs.get Register.textureBase) 0x7FFFF 19 rfl
  rw [Word.bitsAt, Nat.pow_zero, Nat.div_one] at hmask
  have hword : w.state.regs.get Register.textureBase &&& 0x7FFFF =
      w.state.regs.get Register.textureBase := h Register.textureBase
  rw [Drawing.textureStart, ← hmask, hword]

end TextureBase

/-! ### The triangles of a run -/

/-- **The engine is handed every triangle once.** In a run with one engine attached the calls draw
the triangles that are asked for, in order, each right after its texture if it has one, with
nothing but flushes in between; the count of the triangles is right up to its width; and drawing
one changes nothing else. -/
theorem triangles_traced (mode : Aperture.Mode) (b : Render.Backend) {ops : List Operation}
    (hops : ∀ op ∈ ops, op.leavesEngine = true) :
    (∃ cs : List Render.Call, (((create mode).attach b).run ops).2.calls = cs.toArray ∧
      cs.filter Trace.isTriangle = (((create mode).attach b).drawings ops).map Drawing.call ∧
      ∀ pre x post, cs = pre ++ x :: post → Trace.isTriangle x = true →
        ∃ w, (((create mode).attach b).drawings ops)[pre.countP Trace.isTriangle]? = some w ∧
          x = w.call ∧ (w.HasTexture ↔ w.uploads b <:+ pre)) ∧
    ((∀ op ∈ ops, op.restores = false) →
      (((create mode).attach b).run ops).2.counters.pixelsIn =
        UInt32.ofNat (((create mode).attach b).trianglesSinceReset 0 ops)) ∧
    ((∀ s, .restore s ∈ ops → s.Masked) →
      ∀ w ∈ ((create mode).attach b).drawings ops,
        w.textureStart = (w.state.regs.get Register.textureBase).toNat * 4096) ∧
    ∀ (d : Coprocessor) (t : Triangle.Setup),
      (∀ c, d.enabled = true → d.backend = some c →
        ∃ ns, d.submit t =
          { d with
            counters := { d.counters with pixelsIn := d.counters.pixelsIn + 1 }
            busy := false
            calls := d.calls ++ ((Drawing.mk d t).calls c).toArray
            notices := ns }) ∧
      (d.enabled = false ∨ d.backend = none → ∃ ns, d.submit t = { d with notices := ns }) := by
  have hb : ((create mode).attach b).backend = some b := rfl
  obtain ⟨cs, hcs, hdrawn⟩ := (draws_run hb hops).calls
  refine ⟨⟨cs, ?_, hdrawn.triangles, fun pre x post hsplit hx => hdrawn.texture_iff hsplit hx⟩,
    fun hrestore => ?_, fun hmasked w hw => ?_, fun d t => ⟨fun c hon hc => ?_, fun h => ?_⟩⟩
  · rw [hcs]
    exact Array.empty_append
  · exact counted_run hb hops hrestore rfl
  · exact textureStart_of_masked (masked_drawings masked_powerOn hmasked w hw)
  · exact submit_drawn hc hon t
  · exact submit_not_drawn h t

/-- A triangle by its command register, a reset, and a textured triangle. -/
def aroundReset : List Operation :=
  [.writeIndex 0x20 0, .reset, .writeIndex 0x50 0x08000000, .renderTriangle]

theorem triangles_traced_aroundReset :
    (∀ op ∈ aroundReset, op.leavesEngine = true) ∧
      (((create .mb8).attach ⟨true⟩).run aroundReset).2.counters.pixelsIn = 1 ∧
      ∃ cs : List Render.Call,
        (((create .mb8).attach ⟨true⟩).run aroundReset).2.calls = cs.toArray ∧
          (cs.filter Trace.isTriangle).length = 2 ∧
          ∀ pre x post, cs = pre ++ x :: post → Trace.isTriangle x = true →
            pre.countP Trace.isTriangle = 1 →
              ∃ w : Drawing, x = w.call ∧ w.uploads ⟨true⟩ <:+ pre := by
  have hops : ∀ op ∈ aroundReset, op.leavesEngine = true := by
    simp [aroundReset, Operation.leavesEngine]
  have hrestores : ∀ op ∈ aroundReset, op.restores = false := by
    simp [aroundReset, Operation.restores]
  have hlength : (((create .mb8).attach ⟨true⟩).drawings aroundReset).length = 2 := by
    decide +kernel
  have hsince : ((create .mb8).attach ⟨true⟩).trianglesSinceReset 0 aroundReset = 1 := by
    decide +kernel
  have htexture : ∀ w ∈ (((create .mb8).attach ⟨true⟩).drawings aroundReset)[1]?,
      w.textured = true ∧ w.textureStart = 0 := by
    decide +kernel
  obtain ⟨⟨cs, hcs, htriangles, hplace⟩, hcount, -⟩ := triangles_traced .mb8 ⟨true⟩ hops
  refine ⟨hops, ?_, cs, hcs, ?_, fun pre x post hsplit hx hpre => ?_⟩
  · rw [hcount hrestores, hsince]
    rfl
  · rw [htriangles, List.length_map, hlength]
  · obtain ⟨w, hw, hcall, huploads⟩ := hplace pre x post hsplit hx
    rw [hpre] at hw
    obtain ⟨htextured, hstart⟩ := htexture w hw
    have hsize : 0 < w.state.memory.texture.size := by
      rw [w.state.memory.texture_size]
      cases w.state.memory.mode <;> decide
    exact ⟨w, hcall, huploads.mp ⟨htextured, by rwa [hstart]⟩⟩

end Coprocessor

end PumaBoard
