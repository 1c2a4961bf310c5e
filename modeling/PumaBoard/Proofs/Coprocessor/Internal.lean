import PumaBoard.Proofs.Coprocessor.Calls
import PumaBoard.Proofs.Coprocessor.Frame

/-!
What a bus access cannot do. Its steps, down to the packets of a drain, neither switch the
coprocessor nor put another engine in place, and those of any access but a word written to the
texture memory leave the texture memory as it is. So the engine is told of one texture memory
throughout, upload by upload and triangle by triangle.
-/

namespace PumaBoard

/-! ### What the engine is told of one texture memory -/

namespace Render

/-- The calls hand over the given texture memory: every upload hands over what the memory holds and
then flushes its first page, and triangles stand between uploads. -/
inductive Spoken (texture : ByteArray) : List Call → Prop
  | nil : Spoken texture []
  | upload {cs : List Call} (tmu : Nat) (addr : UInt32) : Spoken texture cs →
      Spoken texture
        (.load tmu addr (Bytes.slice texture addr.toNat Coprocessor.maxTextureBytes) ::
          .flush addr tmu :: cs)
  | triangle {cs : List Call} (block : Block) (frame : ByteArray) : Spoken texture cs →
      Spoken texture (.triangle block frame :: cs)

theorem Spoken.append {texture : ByteArray} {cs ds : List Call} (hc : Spoken texture cs)
    (hd : Spoken texture ds) : Spoken texture (cs ++ ds) := by
  induction hc with
  | nil => exact hd
  | upload tmu addr _ ih => exact .upload tmu addr ih
  | triangle block frame _ ih => exact .triangle block frame ih

end Render

namespace Coprocessor

/-! ### Steps inside an access -/

/-- A step that a bus access takes of itself, with this texture memory in place. -/
def Step.Internal (texture : ByteArray) : Step → Prop
  | .setMemory m => m.texture = texture
  | .call _ | .setSwitch _ | .setWindow _ | .setBackend _ => False
  | _ => True

/-- A step that a bus access takes of itself, without an upload of its own; a memory that it puts in
place is as `T` allows. -/
def Step.Within (T : Aperture.Memory → Prop) : Step → Prop
  | .setMemory m => T m
  | .call _ | .setSwitch _ | .setWindow _ | .setBackend _ | .upload _ => False
  | _ => True

theorem Step.Within.internal {texture : ByteArray} {s : Step}
    (h : s.Within (·.texture = texture)) : s.Internal texture := by
  cases s with
  | upload => trivial
  | _ => exact h

/-- The second coprocessor has the switch, the engine and the texture memory of the first. -/
structure Alike (d e : Coprocessor) : Prop where
  enabled : e.enabled = d.enabled
  backend : e.backend = d.backend
  texture : e.memory.texture = d.memory.texture

/-- The second coprocessor is where the first one got without a change to its switch, its engine
and its texture memory, of which it told the engine. -/
structure Undisturbed (d e : Coprocessor) : Prop extends Alike d e where
  calls : ∃ cs : List Render.Call, e.calls = d.calls ++ cs.toArray ∧
    Render.Spoken d.memory.texture cs

theorem Undisturbed.refl (d : Coprocessor) : Undisturbed d d where
  enabled := rfl
  backend := rfl
  texture := rfl
  calls := ⟨[], by simp, .nil⟩

theorem Undisturbed.trans {d e f : Coprocessor} (h : Undisturbed d e) (h' : Undisturbed e f) :
    Undisturbed d f := by
  obtain ⟨cs, hcs, hspoken⟩ := h.calls
  obtain ⟨ds, hds, hspoken'⟩ := h'.calls
  rw [h.texture] at hspoken'
  refine ⟨⟨?_, ?_, ?_⟩, cs ++ ds, ?_, hspoken.append hspoken'⟩
  · exact h'.enabled.trans h.enabled
  · exact h'.backend.trans h.backend
  · exact h'.texture.trans h.texture
  · rw [hds, hcs]; simp

section Steps

variable (d : Coprocessor)

/-! ### The calls of a step -/

theorem spoken_uploadCalls (tmu : Nat) : Render.Spoken d.memory.texture (d.uploadCalls tmu) := by
  unfold uploadCalls
  split
  · exact .upload tmu _ .nil
  · exact .nil

theorem spoken_textureCalls (b : Render.Backend) :
    Render.Spoken d.memory.texture (d.textureCalls b) := by
  unfold textureCalls
  split
  · induction b.units with
    | nil => exact .nil
    | cons tmu units ih => exact (d.spoken_uploadCalls tmu).append ih
  · exact .nil

theorem spoken_submitCalls (t : Triangle.Setup) :
    Render.Spoken d.memory.texture (d.submitCalls t) := by
  unfold submitCalls
  split
  · cases d.backend with
    | none => exact .nil
    | some b => exact (d.spoken_textureCalls b).append (.triangle _ _ .nil)
  · exact .nil

theorem spoken_effectCalls (e : Effect) :
    Render.Spoken d.memory.texture (d.effectCalls e) := by
  unfold effectCalls
  split
  · exact d.spoken_submitCalls _
  · exact d.spoken_submitCalls _
  · exact .nil

theorem spoken_stepCalls {s : Step} {texture : ByteArray} (hs : s.Internal texture) :
    Render.Spoken d.memory.texture (d.stepCalls s) := by
  cases s with
  | call => exact hs.elim
  | submit t => exact d.spoken_submitCalls t
  | upload tmu => exact d.spoken_uploadCalls tmu
  | write r v => exact spoken_effectCalls (d.store r v) _
  | _ => exact .nil

/-! ### The frame of a step -/

theorem alike_submit {e : Coprocessor} (t : Triangle.Setup) (h : Alike d e) :
    Alike d (e.submit t) :=
  submit_of (Alike d) (fun _ h => ⟨h.1, h.2, h.3⟩) (fun _ h => ⟨h.1, h.2, h.3⟩)
    (fun _ h => ⟨h.1, h.2, h.3⟩) (fun h => ⟨h.1, h.2, h.3⟩) t h

theorem alike_fastFill {e : Coprocessor} (h : Alike d e) : Alike d e.fastFill := by
  have htexture (f : FastFill) : (f.execute e.memory).texture = e.memory.texture :=
    FastFill.rel_execute (R := fun m _ => m.texture = e.memory.texture) (fun _ _ h => h) f
      (n := e.memory) rfl
  rw [fastFill_eq]
  split
  · exact ⟨h.enabled, h.backend, (htexture _).trans h.texture⟩
  · exact h

theorem frame_alike : Frame (Alike d) where
  note _ h := ⟨h.1, h.2, h.3⟩
  swap _ h := ⟨h.1, h.2, h.3⟩
  ring _ h := ⟨h.1, h.2, h.3⟩
  submit := d.alike_submit

theorem alike_step {s : Step} (hs : s.Internal d.memory.texture) : Alike d (d.step s) := by
  have hd : Alike d d := ⟨rfl, rfl, rfl⟩
  cases s with
  | call | setSwitch | setWindow | setBackend => exact hs.elim
  | setMemory m => exact ⟨rfl, rfl, hs⟩
  | submit t => exact d.alike_submit t hd
  | fastFill => exact d.alike_fastFill hd
  | upload tmu =>
    obtain ⟨ns, h⟩ := d.upload_spec tmu
    rw [step, h]
    exact ⟨rfl, rfl, rfl⟩
  | countEntry => rw [step, countEntry_eq]; split <;> exact ⟨rfl, rfl, rfl⟩
  | updateThreshold => rw [step, updateThreshold_eq]; split <;> exact ⟨rfl, rfl, rfl⟩
  | write r v =>
    exact d.frame_alike.writeRegister (fun _ _ _ h => ⟨h.1, h.2, h.3⟩)
      (fun _ _ _ h => ⟨h.1, h.2, h.3⟩) (fun _ _ _ h => ⟨h.1, h.2, h.3⟩)
      (fun _ _ _ h => ⟨h.1, h.2, h.3⟩) (.inr fun _ => d.alike_fastFill) v hd
  | _ => exact ⟨rfl, rfl, rfl⟩

/-- **A step inside an access tells the engine of the texture memory, and leaves it alone.** -/
theorem undisturbed_step {s : Step} (hs : s.Internal d.memory.texture) :
    Undisturbed d (d.step s) where
  toAlike := d.alike_step hs
  calls := ⟨d.stepCalls s, d.calls_step s, d.spoken_stepCalls hs⟩

theorem undisturbed_after {ss : List Step} (hs : ∀ s ∈ ss, s.Internal d.memory.texture) :
    Undisturbed d (d.after ss) := by
  induction ss generalizing d with
  | nil => exact .refl d
  | cons s ss ih =>
    obtain ⟨hs, hss⟩ := List.forall_mem_cons.mp hs
    have hstep := d.undisturbed_step hs
    rw [← hstep.texture] at hss
    exact hstep.trans (ih _ hss)

/-! ### The steps of an access -/

section Access

variable (T : Aperture.Memory → Prop)

theorem within_writePageSteps (page v : UInt32) :
    ∀ s ∈ d.writePageSteps page v, s.Within T := by
  unfold writePageSteps
  cases d.layout.page? page <;> simp [Step.Within]

theorem within_writePagesSteps (ws : List (UInt32 × UInt32)) :
    ∀ s ∈ d.writePagesSteps ws, s.Within T := by
  induction ws generalizing d with
  | nil => simp [writePagesSteps]
  | cons w ws ih =>
    rw [writePagesSteps, List.forall_mem_append]
    exact ⟨d.within_writePageSteps T w.1 w.2, ih _⟩

theorem within_executePacketSteps (header : UInt32) (p : Ring.Packet) :
    ∀ s ∈ d.executePacketSteps header p, s.Within T := by
  cases p with
  | nop => simp [executePacketSteps, Step.Within]
  | single page v =>
    rw [executePacketSteps, List.forall_mem_cons]
    exact ⟨trivial, within_writePageSteps _ T page v⟩
  | group base mask =>
    rw [executePacketSteps]
    split
    · simp [Step.Within]
    · rw [List.forall_mem_cons]
      exact ⟨trivial, within_writePagesSteps _ T _⟩

theorem within_drainUpToSteps (done n : Nat) :
    ∀ s ∈ d.drainUpToSteps done n, s.Within T := by
  induction n generalizing d done with
  | zero => simp [drainUpToSteps]
  | succ n ih =>
    rw [drainUpToSteps]
    split
    · rw [List.forall_mem_cons]
      refine ⟨trivial, ?_⟩
      cases d.fetch with
      | error notice => simp [Step.Within]
      | ok found =>
        rw [List.forall_mem_append, List.forall_mem_cons]
        exact ⟨d.within_executePacketSteps T _ _, trivial, ih _ _⟩
    · simp

theorem within_drainSteps : ∀ s ∈ d.drainSteps, s.Within T := by
  unfold drainSteps
  split
  · rw [List.forall_mem_append]
    exact ⟨d.within_drainUpToSteps T _ _, by simp [Step.Within]⟩
  · simp

theorem within_read32Steps (addr : UInt32) : ∀ s ∈ d.read32Steps addr, s.Within T := by
  unfold read32Steps
  split
  · split <;> simp [Step.Within]
  · simp

theorem within_bridgeReadSteps (addr : UInt32) :
    ∀ s ∈ d.bridgeReadSteps addr, s.Within T := by
  unfold bridgeReadSteps
  split
  · rw [List.forall_mem_append]
    refine ⟨d.within_read32Steps T addr, ?_⟩
    split <;> simp [Step.Within]
  · simp

variable {T} (hT : ∀ offset v, T (d.memory.writeFrame32 offset v))

include hT

/-- A word written to the ring is stored in the frame buffer. -/
theorem within_writeRingSteps (offset v : UInt32) :
    ∀ s ∈ d.writeRingSteps offset v, s.Within T := by
  have hstore : (d.storeFrameStep offset v).Within T := hT offset v
  unfold writeRingSteps
  split
  · split
    · rw [List.forall_mem_cons]
      refine ⟨trivial, ?_⟩
      split
      · simpa using hstore
      · split
        · rw [List.forall_mem_cons, List.forall_mem_cons]
          exact ⟨hstore, trivial, within_drainSteps _ T⟩
        · simp [Step.Within]
    · simp [Step.Within]
  · simp

/-- A word written anywhere but to the texture memory may be stored in the frame buffer. -/
theorem within_writeRegionSteps (addr v : UInt32) {region : Aperture.Region}
    (hregion : ∀ offset, region ≠ .texture offset) :
    ∀ s ∈ d.writeRegionSteps addr v region, s.Within T := by
  cases region with
  | frame offset =>
    have hstore : (d.storeFrameStep (offset &&& ~~~3) v).Within T := hT _ v
    rw [writeRegionSteps]
    split
    · exact d.within_writeRingSteps hT offset v
    · simpa using hstore
  | register r => simp [writeRegionSteps, Step.Within]
  | texture offset => exact absurd rfl (hregion offset)
  | invalid => simp [writeRegionSteps, Step.Within]

end Access

/-! ### The texture memory during an access -/

section Texture

variable (texture : ByteArray)

theorem internal_drainSteps : ∀ s ∈ d.drainSteps, s.Internal texture :=
  fun s hs => (d.within_drainSteps _ s hs).internal

theorem internal_read32Steps (addr : UInt32) : ∀ s ∈ d.read32Steps addr, s.Internal texture :=
  fun s hs => (d.within_read32Steps _ addr s hs).internal

theorem internal_bridgeReadSteps (addr : UInt32) :
    ∀ s ∈ d.bridgeReadSteps addr, s.Internal texture :=
  fun s hs => (d.within_bridgeReadSteps _ addr s hs).internal

end Texture

theorem internal_writeRingSteps (offset v : UInt32) :
    ∀ s ∈ d.writeRingSteps offset v, s.Internal d.memory.texture :=
  fun s hs => (d.within_writeRingSteps (fun _ _ => rfl) offset v s hs).internal

/-- A word written anywhere but to the texture memory leaves the texture memory as it is. -/
theorem internal_writeRegionSteps (addr v : UInt32) {region : Aperture.Region}
    (hregion : ∀ offset, region ≠ .texture offset) :
    ∀ s ∈ d.writeRegionSteps addr v region, s.Internal d.memory.texture :=
  fun s hs => (d.within_writeRegionSteps (fun _ _ => rfl) addr v hregion s hs).internal

/-! ### The switch -/

theorem enabled_setEnabled (on : Bool) : (d.setEnabled on).enabled = on := by
  rw [setEnabled_eq]
  split
  · assumption
  · rfl

theorem enabled_flushPage (page : UInt32) : (d.flushPage page).enabled = d.enabled := by
  have flushes (units : List Nat) (d : Coprocessor) :
      (units.foldl (fun d tmu => d.call (.flush page tmu)) d).enabled = d.enabled := by
    induction units generalizing d with
    | nil => rfl
    | cons tmu units ih => exact ih _
  unfold flushPage
  cases d.backend with
  | none => rfl
  | some b => exact flushes _ _

theorem enabled_write32 (addr v : UInt32) : (d.write32 addr v).enabled = d.enabled := by
  rw [write32]
  split
  · cases d.layout.decode addr with
    | texture offset => exact enabled_flushPage _ _
    | _ =>
      rw [← after_writeRegionSteps]
      exact (undisturbed_after d (internal_writeRegionSteps _ _ _ (by simp))).enabled
  · rfl

theorem enabled_bridgeWrite (addr v : UInt32) :
    (d.bridgeWrite addr v).enabled = d.enabled := by
  rw [bridgeWrite]
  split
  · dsimp only
    split <;> exact d.enabled_write32 addr v
  · rfl

theorem enabled_read32 (addr : UInt32) : (d.read32 addr).2.enabled = d.enabled := by
  rw [← after_read32Steps]
  exact (undisturbed_after d (internal_read32Steps _ _ _)).enabled

theorem enabled_bridgeRead (addr : UInt32) : (d.bridgeRead addr).2.enabled = d.enabled := by
  rw [← after_bridgeReadSteps]
  exact (undisturbed_after d (internal_bridgeReadSteps _ _ _)).enabled

theorem enabled_vsync : d.vsync.enabled = d.enabled :=
  (d.frame_alike.vsync ⟨rfl, rfl, rfl⟩).enabled

end Steps

end Coprocessor

end PumaBoard
