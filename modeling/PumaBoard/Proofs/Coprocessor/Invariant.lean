import PumaBoard.Proofs.Coprocessor.Steps

/-!
Invariants of the coprocessor: a property that survives the elementary steps survives every
operation but a restore, however many packets a drain executes on the way.
-/

namespace PumaBoard.Coprocessor

/-- A property that the elementary steps of the coprocessor keep. -/
structure Invariant (P : Coprocessor → Prop) : Prop where
  note : ∀ {d} (n : Notice), P d → P (d.note n)
  call : ∀ {d} (c : Render.Call), P d → P (d.call c)
  memory : ∀ {d} (m : Aperture.Memory), P d → P (d.setMemory m)
  switch : ∀ {d} (on : Bool), P d → P (d.setSwitch on)
  window : ∀ {d} (w : Window), P d → P (d.setWindow w)
  backend : ∀ {d} (b : Option Render.Backend), P d → P { d with backend := b }
  request : ∀ {d} (on : Bool), P d → P { d with pumaRequest := on }
  grant : ∀ {d} (on : Bool), P d → P { d with pumaGrant := on }
  advance : ∀ {d} (p : Ring.Packet), P d → P (d.advance p)
  retire : ∀ {d}, P d → P d.retire
  countEntry : ∀ {d}, P d → P d.countEntry
  updateThreshold : ∀ {d}, P d → P d.updateThreshold
  submit : ∀ {d} (t : Triangle.Setup), P d → P (d.submit t)
  swapBuffers : ∀ {d}, P d → P d.swapBuffers
  vsync : ∀ {d}, P d → P d.vsync
  write : ∀ {d} (r : Register) (v : UInt32), P d → P (d.writeRegister r v)
  reset : ∀ {d}, P d → P d.reset

namespace Invariant

variable {P : Coprocessor → Prop} (I : Invariant P) {d : Coprocessor}

include I

/-! ### Steps -/

theorem upload (tmu : Nat) (h : P d) : P (d.upload tmu) := by
  rw [upload_eq]
  split
  · exact I.call _ (I.call _ h)
  · exact I.note _ h

theorem fastFill (h : P d) : P d.fastFill := by
  rw [fastFill_eq]
  split
  · exact I.note _ (I.memory _ h)
  · exact h

/-- An invariant survives every step. -/
theorem step (s : Step) (h : P d) : P (d.step s) := by
  cases s with
  | note => exact I.note _ h
  | call => exact I.call _ h
  | setMemory => exact I.memory _ h
  | setSwitch => exact I.switch _ h
  | setWindow => exact I.window _ h
  | setBackend => exact I.backend _ h
  | setRequest => exact I.request _ h
  | setGrant => exact I.grant _ h
  | advance => exact I.advance _ h
  | retire => exact I.retire h
  | countEntry => exact I.countEntry h
  | updateThreshold => exact I.updateThreshold h
  | submit => exact I.submit _ h
  | fastFill => exact I.fastFill h
  | upload => exact I.upload _ h
  | write => exact I.write _ _ h
  | decode | narrow | page | place | fetch | pixel => exact h

theorem after (ss : List Step) (h : P d) : P (d.after ss) := by
  induction ss generalizing d with
  | nil => exact h
  | cons s ss ih => exact ih (I.step s h)

/-! ### Runs -/

/-- **An invariant survives every operation but a restore.** -/
theorem perform {op : Operation} (hop : op.restores = false) (h : P d) : P (d.perform op).2 := by
  cases op with
  | reset => exact I.reset h
  | swapBuffers => exact I.swapBuffers h
  | vsync => exact I.vsync h
  | restore => simp [Operation.restores] at hop
  | _ => rw [← after_steps d rfl]; exact I.after _ h

/-- An invariant that every restore keeps survives every run. -/
theorem run (hrestore : ∀ {d r s}, P d → d.restore s = .ok r → P r) (ops : List Operation)
    (h : P d) : P (d.run ops).2 := by
  induction ops generalizing d with
  | nil => exact h
  | cons op ops ih =>
    refine ih ?_
    cases op with
    | restore s =>
      simp only [Coprocessor.perform]
      cases hr : d.restore s with
      | ok r => exact hrestore h hr
      | error e => exact h
    | _ => exact I.perform rfl h

/-- **An invariant that holds after power-on and that a restore keeps holds in every reachable
state.** -/
theorem reachable (hcreate : ∀ mode, P (create mode))
    (hrestore : ∀ {d e r}, P d → P e → d.restore e.capture = .ok r → P r) (hd : d.Reachable) :
    P d := by
  induction hd with
  | create mode => exact hcreate mode
  | perform op hop _ ih => exact I.perform hop ih
  | restore _ _ hr ihd ihe => exact hrestore ihd ihe hr

end Invariant

end PumaBoard.Coprocessor
