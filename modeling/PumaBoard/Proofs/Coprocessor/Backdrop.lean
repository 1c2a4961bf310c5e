import PumaBoard.Proofs.Coprocessor.Parts

/-!
What the commands of the coprocessor do not look at: the command ring, the status flags, the calls
made so far and the notices given so far. A command, and a write of a register that does not
control the ring, does the same in front of any of them.
-/

namespace PumaBoard

/-- A change to the parts of the state that no command looks at: what becomes of the ring and of
the status flags, and what happened before. -/
structure Backdrop where
  ring : Ring → Ring := id
  status : Status → Status := id
  calls : Array Render.Call := #[]
  notices : Array Notice := #[]

namespace Coprocessor

/-- The coprocessor in front of a backdrop. -/
def against (d : Coprocessor) (b : Backdrop) : Coprocessor :=
  { d with
    ring := b.ring d.ring
    status := b.status d.status
    calls := b.calls ++ d.calls
    notices := b.notices ++ d.notices }

section Against

variable (d : Coprocessor) (b : Backdrop)

/-! ### What shows through -/

@[simp] theorem against_memory : (d.against b).memory = d.memory := rfl
@[simp] theorem against_regs : (d.against b).regs = d.regs := rfl
@[simp] theorem against_triangle : (d.against b).triangle = d.triangle := rfl
@[simp] theorem against_floatTriangle : (d.against b).floatTriangle = d.floatTriangle := rfl
@[simp] theorem against_enabled : (d.against b).enabled = d.enabled := rfl
@[simp] theorem against_backend : (d.against b).backend = d.backend := rfl
@[simp] theorem against_swap : (d.against b).swap = d.swap := rfl
@[simp] theorem against_window : (d.against b).window = d.window := rfl
@[simp] theorem against_layout : (d.against b).layout = d.layout := rfl
@[simp] theorem against_textureOffset : (d.against b).textureOffset = d.textureOffset := rfl
@[simp] theorem against_colourBuffer : (d.against b).colourBuffer = d.colourBuffer := rfl

/-! ### Effects -/

theorem against_note (n : Notice) : (d.against b).note n = (d.note n).against b := by
  simp only [against, note, Array.push_append]

theorem against_checkSum (fits : Bool) :
    (d.against b).checkSum fits = (d.checkSum fits).against b := by
  cases fits with
  | true => rfl
  | false => exact against_note d b .overflow

theorem against_noteAny (n : Option Notice) :
    (d.against b).noteAny n = (d.noteAny n).against b := by
  cases n with
  | none => rfl
  | some n => exact against_note ..

theorem against_call (c : Render.Call) : (d.against b).call c = (d.call c).against b := by
  simp only [against, call, Array.push_append]

theorem against_setMemory (m : Aperture.Memory) :
    (d.against b).setMemory m = (d.setMemory m).against b := rfl

theorem against_setSwap (s : Swap) : (d.against b).setSwap s = (d.setSwap s).against b := rfl

theorem against_setBusy (on : Bool) : (d.against b).setBusy on = (d.setBusy on).against b := rfl

theorem ite_against (c : Prop) [Decidable c] (d e : Coprocessor) :
    (if c then d else e).against b = if c then d.against b else e.against b :=
  apply_ite (against · b) ..

theorem against_storeFrame (offset v : UInt32) :
    (d.against b).storeFrame offset v = (d.storeFrame offset v).against b := rfl

theorem against_foldl {α : Type} {f : Coprocessor → α → Coprocessor}
    (hf : ∀ d x, f (d.against b) x = (f d x).against b) (xs : List α) :
    xs.foldl f (d.against b) = (xs.foldl f d).against b := by
  induction xs generalizing d with
  | nil => rfl
  | cons x xs ih => rw [List.foldl_cons, hf, ih, List.foldl_cons]

theorem against_setEnabled (on : Bool) :
    (d.against b).setEnabled on = (d.setEnabled on).against b := by
  have h : (d.against b).setSwitch on = (d.setSwitch on).against b := rfl
  simp only [setEnabled_eq, against_enabled, h, against_note, ite_against]

theorem against_flushPage (page : UInt32) :
    (d.against b).flushPage page = (d.flushPage page).against b := by
  unfold flushPage
  rw [against_backend]
  cases d.backend with
  | none => rfl
  | some e => exact against_foldl _ _ (fun d _ => by exact against_call d b _) _

/-! ### Commands -/

theorem against_upload (tmu : Nat) : (d.against b).upload tmu = (d.upload tmu).against b := by
  simp only [upload, against_textureOffset, against_memory, against_call, against_note, ite_against]

theorem against_uploadAll (e : Render.Backend) :
    (d.against b).uploadAll e = (d.uploadAll e).against b := by
  simp only [uploadAll, against_regs, against_foldl d b (fun d tmu => against_upload d b tmu),
    ite_against]

theorem against_queue (t : Triangle.Setup) : (d.against b).queue t = (d.queue t).against b := by
  rw [queue, against_call]; rfl

theorem against_submit (t : Triangle.Setup) : (d.against b).submit t = (d.submit t).against b := by
  simp only [submit_eq, against_enabled, against_backend, ite_against]
  cases d.backend with
  | none => simp only [against_note]
  | some e => simp only [against_setBusy, against_uploadAll, against_queue]

theorem against_loadTexture (tmu : Nat) :
    (d.against b).loadTexture tmu = (d.loadTexture tmu).against b := by
  unfold loadTexture
  rw [against_backend]
  cases d.backend with
  | none => rfl
  | some e => exact against_upload ..

theorem against_fastFill : (d.against b).fastFill = d.fastFill.against b := by
  simp only [fastFill_eq, against_enabled, against_regs, against_memory, against_setMemory,
    against_note, ite_against]

theorem against_swapBuffers : (d.against b).swapBuffers = d.swapBuffers.against b := by
  simp only [swapBuffers_eq, against_swap, against_checkSum, against_setSwap, against_colourBuffer,
    against_window, against_note, ite_against]

theorem against_vsync : (d.against b).vsync = d.vsync.against b := by
  simp only [vsync_eq, against_enabled, against_swap, against_setSwap, against_swapBuffers,
    ite_against]
  rfl

theorem against_execute (c : Command) : (d.against b).execute c = (d.execute c).against b := by
  cases c with
  | triangle => simp only [execute, against_note, renderTriangle, against_submit, against_triangle]
  | floatTriangle =>
    simp only [execute, against_note, renderFloatTriangle, against_submit, against_floatTriangle]
  | nop => simp only [execute, against_note]
  | fastFill => simp only [execute, against_note, against_fastFill]
  | swapBuffer => exact against_note (d.setSwap d.swap.request) b _
  | swapPend =>
    simp only [execute_swapPend, against_swap, against_checkSum, against_setSwap, against_note]

/-! ### Register writes -/

theorem against_store (r : Register) (v : UInt32) :
    (d.against b).store r v = (d.store r v).against b := rfl

variable {b} in
theorem against_affect {e : Effect} (he : e.controlsRing = false) (v : UInt32) :
    (d.against b).affect e v = (d.affect e v).against b := by
  cases e with
  | none | triangle | floatTriangle | fog => rfl
  | init n =>
    have hn : n.val < 3 := by simpa [Effect.controlsRing] using he
    simp only [affect, writeInit_eq, show n.val ≠ 3 by omega, show n.val ≠ 4 by omega,
      show n.val ≠ 5 by omega, if_false]
  | ring => simp [Effect.controlsRing] at he
  | command c => exact against_execute ..

/-- **A write that does not set up the ring does the same in front of any backdrop.** -/
theorem against_writeRegister {r : Register} (hr : r.controlsRing = false) (v : UInt32) :
    (d.against b).writeRegister r v = (d.writeRegister r v).against b := by
  rw [writeRegister_eq, against_store, against_affect _ (by rw [r.controlsRing_effect, hr])]; rfl

end Against

end Coprocessor

end PumaBoard
