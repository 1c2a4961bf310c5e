import PumaBoard.Proofs.Coprocessor.Frame
import PumaBoard.Proofs.Coprocessor.Invariant
import PumaBoard.Proofs.Coprocessor.Past

/-!
A restored coprocessor goes on as the one its snapshot was taken from. A snapshot leaves out the
rendering engine, the past, and whether a triangle is being drawn; between operations none is, so
with one engine attached the two coprocessors differ in the past alone.
-/

namespace PumaBoard.Coprocessor

/-! ### Between operations no triangle is being drawn -/

theorem busy_submit {d : Coprocessor} (t : Triangle.Setup) (h : d.busy = false) :
    (d.submit t).busy = false := by
  rw [submit_eq]
  split
  · cases d.backend with
    | none => exact h
    | some b => rfl
  · exact h

theorem busy_fastFill {d : Coprocessor} (h : d.busy = false) : d.fastFill.busy = false := by
  rw [fastFill_eq]; split <;> exact h

theorem frame_idle : Frame fun d => d.busy = false where
  note _ h := h
  swap _ h := h
  ring _ h := h
  submit := busy_submit

theorem idle_invariant : Invariant fun d => d.busy = false where
  note _ h := h
  call _ h := h
  memory _ h := h
  switch _ h := h
  window _ h := h
  backend _ h := h
  request _ h := h
  grant _ h := h
  advance _ h := h
  retire h := h
  countEntry h := by rw [countEntry_eq]; split <;> exact h
  updateThreshold h := by rw [updateThreshold_eq]; split <;> exact h
  submit := busy_submit
  swapBuffers := frame_idle.swapBuffers
  vsync := frame_idle.vsync
  write _ v := frame_idle.writeRegister (fun _ _ _ h => h) (fun _ _ _ h => h) (fun _ _ _ h => h)
    (fun _ _ _ h => h) (.inr fun _ => busy_fastFill) v
  reset _ := rfl

theorem busy_occurs {d : Coprocessor} (hd : d.Occurs) : d.busy = false := by
  obtain ⟨mode, ops, rfl⟩ := hd
  refine idle_invariant.run (fun _ hr => ?_) ops rfl
  obtain ⟨t, rfl⟩ := takeOver_of_restore hr
  rfl

/-! ### The past of a coprocessor -/

/-- What happened to a coprocessor before. -/
def past (d : Coprocessor) : Backdrop := { calls := d.calls, notices := d.notices }

theorem isPast_past (d : Coprocessor) : d.past.IsPast := ⟨rfl, rfl⟩

theorem settle_against_past (d : Coprocessor) : d.settle.against d.past = d := by
  simp only [settle, against, past, Array.append_empty, id]

/-- Puts a rendering engine, or none, in place of the old one. -/
def withEngine (d : Coprocessor) (b : Option Render.Backend) : Coprocessor :=
  { d with backend := b }

/-- What a restore takes over is all of an idle coprocessor but its engine and its past. -/
theorem takeOver_withEngine {d : Coprocessor} (h : d.busy = false) (e : Coprocessor)
    (b : Option Render.Backend) :
    ((e.takeOver d.capture ⟨d.regs, d.fog, d.memory⟩).withEngine b).settle =
      (d.withEngine b).settle := by
  simp only [takeOver, install, capture, note, withEngine, settle, Status.ofBits_bits, h]

/-! ### Runs -/

/-- What a run of a coprocessor has to show: its replies, and the snapshot and the calls at its
end, the calls counted from its start. -/
theorem run_eq (d : Coprocessor) (ops : List Operation) :
    (d.run ops).1 = (d.settle.run ops).1 ∧
      (d.run ops).2.capture = (d.settle.run ops).2.capture ∧
      (d.run ops).2.calls = d.calls ++ (d.settle.run ops).2.calls := by
  have h := against_run d.settle d.isPast_past ops
  rw [settle_against_past] at h
  rw [h]
  exact ⟨rfl, against_capture _ d.isPast_past, rfl⟩

/-- **Snapshots are complete.** Every coprocessor of its mode accepts the snapshot of a coprocessor
that got where it is by operations, and is then the same snapshot itself; with the same rendering
engine attached to both, or none, every run afterwards gets the same replies, makes the same calls
and ends in the same snapshot. -/
theorem resume_restored {d : Coprocessor} (hd : d.Occurs) (e : Coprocessor)
    (hm : e.mode = d.mode) :
    ∃ r, e.restore d.capture = .ok r ∧ r.capture = d.capture ∧
      ∀ (b : Option Render.Backend) (ops : List Operation),
        ((r.withEngine b).run ops).1 = ((d.withEngine b).run ops).1 ∧
        ((r.withEngine b).run ops).2.capture = ((d.withEngine b).run ops).2.capture ∧
        ∃ calls,
          ((r.withEngine b).run ops).2.calls = r.calls ++ calls ∧
          ((d.withEngine b).run ops).2.calls = d.calls ++ calls := by
  refine ⟨_, restore_capture hm, capture_takeOver d e, fun b ops => ?_⟩
  obtain ⟨hr, hc, hcalls⟩ :=
    run_eq ((e.takeOver d.capture ⟨d.regs, d.fog, d.memory⟩).withEngine b) ops
  obtain ⟨hr', hc', hcalls'⟩ := run_eq (d.withEngine b) ops
  rw [takeOver_withEngine (busy_occurs hd)] at hr hc hcalls
  exact ⟨hr.trans hr'.symm, hc.trans hc'.symm, _, hcalls, hcalls'⟩

theorem resume_restored_colour :
    ((create .mb8).run [.writeIndex 0x56 0xFF]).2.Occurs ∧
      ∃ r, (create .mb8).restore ((create .mb8).run [.writeIndex 0x56 0xFF]).2.capture = .ok r ∧
        ((r.withEngine none).run [.readIndex 0x56]).1 = [.word 0xFF] := by
  have hd : ((create .mb8).run [.writeIndex 0x56 0xFF]).2.Occurs := ⟨.mb8, _, rfl⟩
  have hread : ((create .mb8).run [.writeIndex 0x56 0xFF]).2.readIndex 0x56 = 0xFF := by
    decide +kernel
  obtain ⟨r, hr, -, h⟩ := resume_restored hd (create .mb8) rfl
  refine ⟨hd, r, hr, (h none [.readIndex 0x56]).1.trans ?_⟩
  exact congrArg (fun v => [Reply.word v]) hread

end PumaBoard.Coprocessor
