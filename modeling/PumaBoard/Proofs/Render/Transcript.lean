import PumaBoard.Proofs.Coprocessor.Internal
import PumaBoard.Proofs.Coprocessor.Restore

/-!
What the engine is told during a run. As long as one engine stays attached, the calls of a run go
through the contents that the texture memory has in turn: it is uploaded as it is, a word is
written to it and the page of the word is flushed in every unit, or a snapshot replaces it and the
engine is told nothing.
-/

namespace PumaBoard

namespace Render

/-- The calls to an engine while the texture memory goes from the first contents to the second.
Snapshots replace the contents only as `A` allows. -/
inductive Transcript (A : ByteArray → ByteArray → Prop) (b : Backend) :
    ByteArray → List Call → ByteArray → Prop
  | nil (texture : ByteArray) : Transcript A b texture [] texture
  | spoken {texture last : ByteArray} {cs ds : List Call} : Spoken texture cs →
      Transcript A b texture ds last → Transcript A b texture (cs ++ ds) last
  | written {texture last : ByteArray} {cs : List Call} (offset v : UInt32) :
      Transcript A b (Bytes.write32 texture (offset &&& ~~~3).toNat v) cs last →
      Transcript A b texture (b.units.map (Call.flush ((offset >>> 12) <<< 12)) ++ cs) last
  | replaced {texture next last : ByteArray} {cs : List Call} : A texture next →
      Transcript A b next cs last → Transcript A b texture cs last

theorem Transcript.append {A : ByteArray → ByteArray → Prop} {b : Backend}
    {texture next last : ByteArray} {cs ds : List Call} (hc : Transcript A b texture cs next)
    (hd : Transcript A b next ds last) : Transcript A b texture (cs ++ ds) last := by
  induction hc with
  | nil => exact hd
  | spoken hspoken _ ih => rw [List.append_assoc]; exact .spoken hspoken (ih hd)
  | written offset v _ ih => rw [List.append_assoc]; exact .written offset v (ih hd)
  | replaced hA _ ih => exact .replaced hA (ih hd)

end Render

namespace Coprocessor

/-! ### Coprocessors with one engine -/

/-- The second coprocessor is where the first one got with one engine attached, which a transcript
was told. -/
structure Tells (A : ByteArray → ByteArray → Prop) (b : Render.Backend)
    (d e : Coprocessor) : Prop where
  backend : e.backend = some b
  calls : ∃ cs : List Render.Call, e.calls = d.calls ++ cs.toArray ∧
    Render.Transcript A b d.memory.texture cs e.memory.texture

/-- The operation leaves the engine attached and the texture memory to the coprocessor. -/
def Operation.KeepsEngine : Operation → Prop
  | .attach _ | .detach => False
  | .editMemory edit => ∀ m, (edit m).texture = m.texture
  | _ => True

section Tells

variable {A : ByteArray → ByteArray → Prop} {b : Render.Backend} {d e f : Coprocessor}

theorem Tells.refl (hb : d.backend = some b) : Tells A b d d where
  backend := hb
  calls := ⟨[], by simp, .nil _⟩

theorem Tells.trans (h : Tells A b d e) (h' : Tells A b e f) : Tells A b d f := by
  obtain ⟨cs, hcs, htold⟩ := h.calls
  obtain ⟨ds, hds, htold'⟩ := h'.calls
  refine ⟨h'.backend, cs ++ ds, ?_, htold.append htold'⟩
  rw [hds, hcs]
  simp

/-- The calls made on the way are a transcript. -/
theorem Tells.transcript (h : Tells A b d e) {cs : List Render.Call}
    (hcs : e.calls = d.calls ++ cs.toArray) :
    Render.Transcript A b d.memory.texture cs e.memory.texture := by
  obtain ⟨ds, hds, htold⟩ := h.calls
  have heq : ds = cs := by simpa using congrArg Array.toList (hds.symm.trans hcs)
  rw [← heq]
  exact htold

theorem Undisturbed.tells (h : Undisturbed d e) (hb : d.backend = some b) : Tells A b d e := by
  obtain ⟨cs, hcs, hspoken⟩ := h.calls
  refine ⟨h.backend.trans hb, cs, hcs, ?_⟩
  rw [h.texture]
  simpa using Render.Transcript.spoken hspoken (.nil _)

variable (hb : d.backend = some b)

include hb

/-! ### Words of the texture memory -/

theorem tells_writeTexture (addr v offset : UInt32) :
    Tells A b d (d.writeRegion addr v (.texture offset)) := by
  have hset : (d.setMemory (d.memory.writeTexture32 (offset &&& ~~~3) v)).backend = some b := hb
  show Tells A b d ((d.setMemory _).flushPage _)
  rw [flushPage_eq _ hset]
  have htold : Render.Transcript A b d.memory.texture _ _ := .written offset v (.nil _)
  exact ⟨hb, _, rfl, by rwa [List.append_nil] at htold⟩

theorem tells_write32 (addr v : UInt32) : Tells A b d (d.write32 addr v) := by
  rw [write32]
  split
  · cases hdecode : d.layout.decode addr with
    | texture offset => exact tells_writeTexture hb addr v offset
    | _ =>
      rw [← after_writeRegionSteps]
      exact (undisturbed_after _ (internal_writeRegionSteps _ _ _ (by simp))).tells hb
  · exact .refl hb

/-! ### Operations -/

theorem tells_read32 (addr : UInt32) : Tells A b d (d.read32 addr).2 := by
  rw [← after_read32Steps]
  exact (undisturbed_after _ (internal_read32Steps _ _ _)).tells hb

theorem tells_bridgeWrite (addr v : UInt32) : Tells A b d (d.bridgeWrite addr v) := by
  have h := tells_write32 (A := A) hb addr v
  rw [bridgeWrite]
  split
  · dsimp only
    split
    · exact ⟨h.backend, h.calls⟩
    · exact h
  · exact .refl hb

theorem tells_restore {s : Snapshot} {r : Coprocessor} (hr : d.restore s = .ok r)
    (hA : A d.memory.texture r.memory.texture) : Tells A b d r := by
  obtain ⟨t, rfl⟩ := takeOver_of_restore hr
  exact ⟨hb, [], by simp [takeOver, install, note], .replaced hA (.nil _)⟩

/-- An operation whose steps are those of an access tells a transcript. -/
theorem tells_steps {op : Operation} (hop : op.stepwise = true)
    (hs : ∀ s ∈ d.steps op, s.Internal d.memory.texture) : Tells A b d (d.perform op).2 := by
  rw [← after_steps d hop]
  exact (undisturbed_after d hs).tells hb

/-- **Every operation that keeps the engine tells a transcript.** -/
theorem tells_perform {op : Operation} (hop : op.KeepsEngine)
    (hA : op.restores = true → A d.memory.texture (d.perform op).2.memory.texture) :
    Tells A b d (d.perform op).2 := by
  cases op with
  | attach | detach => exact hop.elim
  | reset => exact ⟨hb, [], by simp [perform, reset], .nil _⟩
  | setWindow => exact ⟨hb, [], by simp [perform, setWindow], .nil _⟩
  | setEnabled on =>
    simp only [perform, setEnabled_eq]
    split
    · exact .refl hb
    · exact ⟨hb, [], by simp [setSwitch, note], .nil _⟩
  | swapBuffers =>
    have h := d.frame_alike.swapBuffers ⟨rfl, rfl, rfl⟩
    exact Undisturbed.tells ⟨h, [], d.calls_swapBuffers.trans (by simp), .nil⟩ hb
  | vsync =>
    have h := d.frame_alike.vsync ⟨rfl, rfl, rfl⟩
    exact Undisturbed.tells ⟨h, [], d.calls_vsync.trans (by simp), .nil⟩ hb
  | restore s =>
    simp only [perform] at hA ⊢
    cases hr : d.restore s with
    | error e => exact .refl hb
    | ok r =>
      rw [hr] at hA
      exact tells_restore hb hr (hA rfl)
  | write32 addr v => exact tells_write32 hb addr v
  | write16 addr v =>
    have h := tells_read32 (A := A) hb (aligned addr)
    exact h.trans (tells_write32 h.backend _ _)
  | write8 addr v =>
    have h := tells_read32 (A := A) hb (aligned addr)
    exact h.trans (tells_write32 h.backend _ _)
  | read32 addr => exact tells_read32 hb addr
  | read16 addr | read8 addr => exact tells_read32 hb (aligned addr)
  | bridgeWrite addr v => exact tells_bridgeWrite hb addr v
  | bridgeRead addr => exact tells_steps hb rfl (d.internal_bridgeReadSteps _ addr)
  | writeRing offset v => exact tells_steps hb rfl (d.internal_writeRingSteps offset v)
  | drain => exact tells_steps hb rfl (d.internal_drainSteps _)
  | editMemory edit => exact tells_steps hb rfl (by simpa [steps, Step.Internal] using hop d.memory)
  | writeIndex index v =>
    refine tells_steps hb rfl ?_
    simp only [steps, writeIndexSteps]
    cases register? index <;> simp [Step.Internal]
  | loadTexture tmu => exact tells_steps hb rfl (by simp [steps, hb, Step.Internal])
  | readIndex | storedIndex | renderTriangle | fastFill | pixelAddress | look =>
    exact tells_steps hb rfl (by simp [steps, Step.Internal])

/-! ### Runs -/

omit hb in
/-- Every restore of a run replaces the texture memory only as `A` allows. -/
def RestoresWithin (A : ByteArray → ByteArray → Prop) : Coprocessor → List Operation → Prop
  | _, [] => True
  | d, op :: ops =>
    (op.restores = true → A d.memory.texture (d.perform op).2.memory.texture) ∧
      RestoresWithin A (d.perform op).2 ops

omit hb in
theorem restoresWithin_true (d : Coprocessor) (ops : List Operation) :
    RestoresWithin (fun _ _ => True) d ops := by
  induction ops generalizing d with
  | nil => trivial
  | cons op ops ih => exact ⟨fun _ => trivial, ih _⟩

/-- **Every run that keeps the engine tells a transcript.** -/
theorem tells_run {ops : List Operation} (hops : ∀ op ∈ ops, op.KeepsEngine)
    (hA : RestoresWithin A d ops) : Tells A b d (d.run ops).2 := by
  induction ops generalizing d with
  | nil => exact .refl hb
  | cons op ops ih =>
    obtain ⟨hop, hops⟩ := List.forall_mem_cons.mp hops
    have h := tells_perform hb hop hA.1
    exact h.trans (ih h.backend hops hA.2)

end Tells

end Coprocessor

end PumaBoard
