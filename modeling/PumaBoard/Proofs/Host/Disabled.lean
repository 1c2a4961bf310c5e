import PumaBoard.Proofs.Host.Bridge

/-!
A disabled coprocessor is inert. Every way into it asks for the switch first, so accesses change
nothing and read zeros, whether they come to the coprocessor itself or through the host chip, as
long as the host chip is not told to enable it.
-/

namespace PumaBoard

/-! ### Accesses to the coprocessor -/

namespace Coprocessor

/-- The operation has no effect on a disabled coprocessor: an access to the aperture or over the
bridge, a vertical sync, a fast fill or a triangle. -/
def Operation.guarded : Operation → Bool
  | .write32 _ _ | .write16 _ _ | .write8 _ _ => true
  | .read32 _ | .read16 _ | .read8 _ => true
  | .bridgeWrite _ _ | .bridgeRead _ => true
  | .vsync | .fastFill | .renderTriangle => true
  | _ => false

/-- An answer without a value, or zero. -/
def Reply.blank : Reply → Prop
  | .done => True
  | .word v => v = 0
  | .half v => v = 0
  | .byte v => v = 0
  | _ => False

section Disabled

variable {d : Coprocessor} (hoff : d.enabled = false)

include hoff

theorem write32_disabled (addr v : UInt32) : d.write32 addr v = d := by
  rw [write32, hoff]
  rfl

theorem read32_disabled (addr : UInt32) : d.read32 addr = (0, d) := by
  simp [read32, peek, hoff]

theorem perform_disabled {op : Operation} (hop : op.guarded = true) :
    (d.perform op).2 = d ∧ (d.perform op).1.blank := by
  cases op with
  | write32 addr v => exact ⟨write32_disabled hoff addr v, trivial⟩
  | write16 addr v =>
    refine ⟨?_, trivial⟩
    simp only [perform, write16, read32_disabled hoff, write32_disabled hoff]
  | write8 addr v =>
    refine ⟨?_, trivial⟩
    simp only [perform, write8, read32_disabled hoff, write32_disabled hoff]
  | read32 addr => simp [perform, read32_disabled hoff, Reply.blank]
  | read16 addr => simp [perform, read16, read32_disabled hoff, Reply.blank]
  | read8 addr => simp [perform, read8, read32_disabled hoff, Reply.blank]
  | bridgeWrite addr v => exact ⟨by simp [perform, bridgeWrite, hoff], trivial⟩
  | bridgeRead addr => simp [perform, bridgeRead, hoff, Reply.blank]
  | vsync => exact ⟨by simp [perform, vsync, hoff], trivial⟩
  | fastFill => exact ⟨by simp [perform, fastFill, hoff], trivial⟩
  | renderTriangle => exact ⟨by simp [perform, renderTriangle, submit, hoff], trivial⟩
  | _ => simp [Operation.guarded] at hop

theorem run_disabled {ops : List Operation} (hops : ∀ op ∈ ops, op.guarded = true) :
    (d.run ops).2 = d ∧ ∀ reply ∈ (d.run ops).1, reply.blank := by
  induction ops with
  | nil => exact ⟨rfl, by simp [run]⟩
  | cons op ops ih =>
    obtain ⟨hop, hops⟩ := List.forall_mem_cons.mp hops
    obtain ⟨hd, hreply⟩ := perform_disabled hoff hop
    obtain ⟨hrun, hreplies⟩ := ih hops
    rw [run, hd]
    exact ⟨hrun, List.forall_mem_cons.mpr ⟨hreply, hreplies⟩⟩

end Disabled

end Coprocessor

/-! ### Accesses over the host chip -/

namespace HostChip

open Host (Registers)

/-- No write of the top byte of the bridge control finds the bit that enables the coprocessor. -/
def StaysOff : Registers → List Cycle → Prop
  | _, [] => True
  | r, c :: cs => c.switched (c.latch r) false = false ∧ StaysOff (c.latch r) cs

theorem staysOff_append {r : Registers} {cs ds : List Cycle} :
    StaysOff r (cs ++ ds) ↔ StaysOff r cs ∧ StaysOff (cs.foldl Cycle.latch r) ds := by
  induction cs generalizing r with
  | nil => simp [StaysOff]
  | cons c cs ih => simp [StaysOff, ih, and_assoc]

section Disabled

variable {h : HostChip} {r : Registers} {d : Coprocessor} (hoff : d.enabled = false)

include hoff

/-- The only calls to a coprocessor that stays disabled disable it. -/
theorem run_directCalls_disabled {cs : List Cycle} (hcs : StaysOff r cs) :
    (d.run (directCalls r false cs)).2 = d := by
  induction cs generalizing r with
  | nil => rfl
  | cons c cs ih =>
    obtain ⟨hc, hcs⟩ := hcs
    have hcall : (d.run (c.direct (c.latch r) false)).2 = d := by
      cases c with
      | write offset v =>
        simp only [Cycle.direct, Cycle.switched] at hc ⊢
        split
        · next hswitch =>
          rw [if_pos hswitch] at hc
          rw [hc]
          exact if_pos hoff
        · simp [Coprocessor.run]
      | read offset => simp [Cycle.direct, Coprocessor.run]
      | video edit => rfl
      | apertureRead addr => rfl
      | apertureWrite addr v => rfl
      | vsync => rfl
    rw [directCalls, Coprocessor.run_append, hcall, hc]
    exact ih hcs

theorem Bridged.access_disabled (hB : Bridged h r d) {a : Access} (ha : StaysOff r a.cycles) :
    Bridged (h.access a).2 (a.cycles.foldl Cycle.latch r) d := by
  have hcycles := hB.cycles a.cycles
  rw [hoff, run_directCalls_disabled hoff ha] at hcycles
  rw [access_cycles]
  exact hcycles

/-- The aperture reads as zero. -/
theorem Bridged.apertureRead_disabled (hB : Bridged h r d) (addr : UInt32) :
    (h.apertureRead addr).1 = 0 := by
  have hasked : (h.askEnabled (·.read32 addr)).1 = none := by
    rw [askEnabled, hB.enabled, hoff]
    rfl
  show (h.askEnabled (·.read32 addr)).1.getD 0 = 0
  rw [hasked]
  rfl

theorem Bridged.run_disabled (hB : Bridged h r d) {as : List Access}
    (has : StaysOff r (as.flatMap Access.cycles)) :
    (∃ s, Bridged (h.run as).2 s d) ∧
      ∀ addr reply, (Access.apertureRead addr, reply) ∈ as.zip (h.run as).1 → reply = some 0 := by
  induction as generalizing h r with
  | nil => exact ⟨⟨r, hB⟩, by simp⟩
  | cons a as ih =>
    obtain ⟨ha, has⟩ := staysOff_append.mp has
    obtain ⟨hrun, hreplies⟩ := ih (hB.access_disabled hoff ha) has
    refine ⟨hrun, fun addr reply hmem => ?_⟩
    rcases List.mem_cons.mp hmem with hfirst | hlater
    · obtain ⟨rfl, rfl⟩ := Prod.mk.inj hfirst
      exact congrArg some (hB.apertureRead_disabled hoff addr)
    · exact hreplies addr reply hlater

end Disabled

/-- **A disabled coprocessor is inert.** Accesses to it, vertical syncs, fills and triangles change
nothing and read zeros; so do the accesses over a host chip that is not told to enable it, which
change no more than the notices waiting there. -/
theorem disabled_inert {d : Coprocessor} (hoff : d.enabled = false) :
    (∀ ops : List Coprocessor.Operation, (∀ op ∈ ops, op.guarded = true) →
      (d.run ops).2 = d ∧ ∀ reply ∈ (d.run ops).1, reply.blank) ∧
    (∀ (h : HostChip) (as : List Access), h.coprocessor = some d →
      StaysOff h.regs (as.flatMap Access.cycles) →
      (∃ notices, (h.run as).2.coprocessor = some { d with notices := notices }) ∧
        ∀ addr reply, (Access.apertureRead addr, reply) ∈ as.zip (h.run as).1 →
          reply = some 0) := by
  refine ⟨fun ops hops => Coprocessor.run_disabled hoff hops, fun h as hd has => ?_⟩
  have hB : Bridged h h.regs d := ⟨by rw [hd]; rfl, fun _ _ _ => rfl⟩
  obtain ⟨⟨s, hrun⟩, hreplies⟩ := hB.run_disabled hoff has
  exact ⟨hrun.coprocessor_eq, hreplies⟩

/-- A coprocessor that was switched off after power-on. -/
def switchedOff : Coprocessor := (Coprocessor.create .mb8).setSwitch false

/-- A board with a coprocessor that was switched off. -/
def switchedOffBoard : HostChip := { bridgedBoard with coprocessor := some switchedOff }

theorem disabled_inert_sentWord :
    switchedOff.enabled = false ∧
      (switchedOff.run [.write8 0x600001 7, .renderTriangle, .bridgeRead 0]).2 = switchedOff ∧
      StaysOff switchedOffBoard.regs ((sentWord ++ [Access.vsync]).flatMap Access.cycles) ∧
      ∃ notices, (switchedOffBoard.run (sentWord ++ [Access.vsync])).2.coprocessor =
        some { switchedOff with notices := notices } := by
  have hstays :
      StaysOff switchedOffBoard.regs ((sentWord ++ [Access.vsync]).flatMap Access.cycles) := by
    simp +decide [sentWord, Access.cycles, writeCycles, Word.lanes, StaysOff]
  obtain ⟨hops, haccesses⟩ := disabled_inert (d := switchedOff) rfl
  refine ⟨rfl, (hops _ (by decide)).1, hstays, ?_⟩
  exact (haccesses switchedOffBoard _ rfl hstays).1

end HostChip

end PumaBoard
