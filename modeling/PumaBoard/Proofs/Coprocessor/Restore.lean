import PumaBoard.Coprocessor.Snapshot

/-!
Taking and restoring a snapshot. The checks of a restore look at the snapshot and the mode alone;
what they let through is installed as a whole, so a snapshot of a coprocessor is accepted by every
coprocessor of its mode and is the snapshot taken there afterwards.
-/

namespace PumaBoard

/-! ### Status bits -/

theorem Status.ofBits_bits (s : Status) : Status.ofBits s.bits = s := by
  obtain ⟨a, b, c, d, e⟩ := s
  revert a b c d e
  decide

/-! ### What a restore checks -/

/-- What the checks of a restore let through: the two tables and the memory. -/
structure Snapshot.Contents where
  regs : RegisterFile
  fog : Fog.Table
  memory : Aperture.Memory

/-- The checks of a restore in a mode. -/
def Snapshot.checked (s : Snapshot) (mode : Aperture.Mode) : Except Error Snapshot.Contents :=
  if s.mode = mode then
    match Coprocessor.tableOf .registers 256 s.regs with
    | .error e => .error e
    | .ok regs =>
      match Coprocessor.tableOf .fog 64 s.fog with
      | .error e => .error e
      | .ok fog =>
        match Coprocessor.memoryOf mode s with
        | .error e => .error e
        | .ok memory => .ok ⟨⟨regs⟩, fog, memory⟩
  else .error (.modeMismatch mode s.mode)

namespace Coprocessor

/-- Takes over a checked snapshot. -/
def takeOver (d : Coprocessor) (s : Snapshot) (t : Snapshot.Contents) : Coprocessor :=
  (d.install s t.regs t.fog t.memory).note (.stateRestored d.mode)

theorem restore_eq (d : Coprocessor) (s : Snapshot) :
    d.restore s = (s.checked d.mode).map (d.takeOver s) := by
  unfold restore Snapshot.checked
  by_cases h : s.mode = d.mode
  · simp only [h, if_true]
    cases tableOf .registers 256 s.regs with
    | error e => rfl
    | ok regs =>
      cases tableOf .fog 64 s.fog with
      | error e => rfl
      | ok fog =>
        cases memoryOf d.mode s with
        | error e => rfl
        | ok memory => rfl
  · simp only [h, if_false]; rfl

theorem takeOver_of_restore {d r : Coprocessor} {s : Snapshot} (h : d.restore s = .ok r) :
    ∃ t, r = d.takeOver s t := by
  rw [restore_eq] at h
  cases hc : s.checked d.mode with
  | error e => rw [hc] at h; cases h
  | ok t =>
    rw [hc] at h
    exact ⟨t, (Except.ok.inj h).symm⟩

/-! ### Snapshots of a coprocessor -/

theorem checked_capture (d : Coprocessor) :
    d.capture.checked d.mode = .ok ⟨d.regs, d.fog, d.memory⟩ := by
  have hr : tableOf .registers 256 d.capture.regs = .ok d.regs.words := dif_pos d.regs.words.2
  have hf : tableOf .fog 64 d.capture.fog = .ok d.fog := dif_pos d.fog.2
  have hm : memoryOf d.mode d.capture = .ok d.memory :=
    (dif_pos d.memory.frame_size).trans (dif_pos d.memory.texture_size)
  rw [Snapshot.checked, if_pos (show d.capture.mode = d.mode from rfl), hr, hf, hm]

/-- **Every coprocessor of its mode accepts a snapshot.** -/
theorem restore_capture {d e : Coprocessor} (h : e.mode = d.mode) :
    e.restore d.capture = .ok (e.takeOver d.capture ⟨d.regs, d.fog, d.memory⟩) := by
  rw [restore_eq, h, checked_capture]; rfl

/-- A snapshot is accepted only in its own mode. -/
theorem eq_of_restore {d e r : Coprocessor} (h : e.restore d.capture = .ok r) :
    r = e.takeOver d.capture ⟨d.regs, d.fog, d.memory⟩ := by
  by_cases hm : e.mode = d.mode
  · rw [restore_capture hm] at h
    exact (Except.ok.inj h).symm
  · have hm' : ¬ d.capture.mode = e.mode := fun h => hm h.symm
    rw [restore_eq, Snapshot.checked, if_neg hm'] at h
    cases h

theorem capture_takeOver (d e : Coprocessor) :
    (e.takeOver d.capture ⟨d.regs, d.fog, d.memory⟩).capture = d.capture := by
  simp only [capture, takeOver, install, note, mode, Status.ofBits_bits]

end Coprocessor

end PumaBoard
