import PumaBoard.Proofs.Coprocessor.Banks

/-!
The words of the register file stay within the masks of their registers: they are at power-on and
after each operation, a restore of a snapshot apart, which stores the words as they are.
-/

namespace PumaBoard

/-- Every stored word is within the mask of its register. -/
def RegisterFile.Masked (f : RegisterFile) : Prop :=
  ∀ r : Register, f.get r &&& r.descriptor.mask = f.get r

/-- The snapshot holds nothing that its registers could not hold. -/
def Snapshot.Masked (s : Snapshot) : Prop :=
  ∀ (r : Register) (v : UInt32), s.regs[r.val]? = some v → v &&& r.descriptor.mask = v

namespace Coprocessor

theorem masked_set {f : RegisterFile} (h : f.Masked) {r : Register} {v : UInt32}
    (hv : v &&& r.descriptor.mask = v) : (f.set r v).Masked := by
  intro s
  rw [RegisterFile.get_set]
  split
  · next hr => rw [← hr, hv]
  · exact h s

theorem masked_zero : RegisterFile.zero.Masked := by
  intro r
  have hzero : RegisterFile.zero.get r = 0 := by
    simp [RegisterFile.zero, RegisterFile.get, Vector.get]
  rw [hzero, UInt32.zero_and]

theorem masked_powerOn : powerOnRegisters.Masked := by
  have hall : Register.powerOn.all (fun p => p.2 &&& p.1.descriptor.mask = p.2) = true := by
    decide
  rw [List.all_eq_true] at hall
  unfold powerOnRegisters
  exact List.foldlRecOn _ _ masked_zero fun f hf p hp =>
    masked_set hf (of_decide_eq_true (hall p hp))

theorem masked_store {d : Coprocessor} (h : d.regs.Masked) (r : Register) (v : UInt32) :
    (d.store r v).regs.Masked :=
  masked_set h (by rw [UInt32.and_assoc, UInt32.and_self])

theorem masked_invariant : Invariant fun d => d.regs.Masked where
  note _ h := h
  call _ h := h
  memory _ h := h
  switch _ h := h
  window _ h := h
  backend _ h := h
  request _ h := h
  grant _ h := h
  advance _ h := h
  retire h := h
  countEntry h := by rw [countEntry_eq]; split <;> exact h
  updateThreshold h := by rw [updateThreshold_eq]; split <;> exact h
  submit := (frame_banks fun b => b.regs.Masked).submit
  swapBuffers := (frame_banks fun b => b.regs.Masked).swapBuffers
  vsync := (frame_banks fun b => b.regs.Masked).vsync
  write {d} r v h := by
    have hregs : (d.writeRegister r v).regs = (d.store r v).regs := by
      refine (congrArg Banks.regs (banks_writeRegister d r v)).trans ?_
      rw [Banks.write, Banks.regs_affect]
      rfl
    rw [hregs]
    exact masked_store h r v
  reset _ := masked_powerOn

theorem regs_of_checked {s : Snapshot} {mode : Aperture.Mode} {t : Snapshot.Contents}
    (h : s.checked mode = .ok t) : t.regs.words.toArray = s.regs := by
  unfold Snapshot.checked at h
  split at h
  · split at h
    · cases h
    · next regs hregs =>
      have hwords : regs.toArray = s.regs := by
        unfold tableOf at hregs
        split at hregs
        · injection hregs with hregs
          rw [← hregs]
        · cases hregs
      split at h
      · cases h
      · split at h
        · cases h
        · injection h with h
          rw [← h]
          exact hwords
  · cases h

theorem masked_restore {d r : Coprocessor} {s : Snapshot} (hs : s.Masked)
    (h : d.restore s = .ok r) : r.regs.Masked := by
  rw [restore_eq] at h
  cases hc : s.checked d.mode with
  | error e => rw [hc] at h; cases h
  | ok t =>
    rw [hc] at h
    injection h with h
    have hwords := regs_of_checked hc
    intro i
    refine hs i _ ?_
    rw [← hwords, ← h]
    exact Array.getElem?_eq_getElem (by simp)

end Coprocessor

end PumaBoard
