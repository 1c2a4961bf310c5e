import PumaBoard.Proofs.Coprocessor.Banks
import PumaBoard.Proofs.Coprocessor.Swaps
import PumaBoard.Proofs.Word.Number

/-!
The register file and the settings of the command ring as a history. Every write of a register,
by whatever path it comes, is a delivery of a value; each register holds its mask of the latest
delivery to it, and each setting of the ring is the group of bits that the latest delivery to one
of its registers has there. No step without a delivery touches any of them.
-/

namespace PumaBoard

/-! ### Deliveries -/

/-- A value delivered to a register. -/
abbrev Delivery := Register × UInt32

namespace Delivery

/-- What the latest of some deliveries tells, of those that tell anything. -/
def latest {α : Type} (tells : Delivery → Option α) (ws : List Delivery) : Option α :=
  (ws.filterMap tells).getLast?

theorem latest_concat {α : Type} (tells : Delivery → Option α) (ws : List Delivery) (w : Delivery) :
    latest tells (ws ++ [w]) = (tells w).or (latest tells ws) := by
  rw [latest, List.filterMap_append]
  cases h : tells w with
  | none => simp [latest, h]
  | some x => simp [h]

/-- The value, if it goes to the register. -/
def valueTo (r : Register) (w : Delivery) : Option UInt32 := if w.1 = r then some w.2 else none

/-- The number in the bits that a table names for the register: the lowest of them and how many
there are. -/
def number (table : List (Register × Nat × Nat)) (w : Delivery) : Option Nat :=
  (table.lookup w.1).map fun bits => Word.bitsAt w.2 bits.1 bits.2

/-- The number that the latest delivery to a register of a table leaves, or zero. -/
def latestNumber (table : List (Register × Nat × Nat)) (ws : List Delivery) : Nat :=
  (latest (number table) ws).getD 0

theorem latestNumber_concat (table : List (Register × Nat × Nat)) (ws : List Delivery)
    (w : Delivery) :
    latestNumber table (ws ++ [w]) = (number table w).getD (latestNumber table ws) := by
  rw [latestNumber, latest_concat]
  cases number table w <;> rfl

theorem number_eq_none {table : List (Register × Nat × Nat)} {w : Delivery}
    (h : ∀ entry ∈ table, w.1 ≠ entry.1) : number table w = none := by
  have hlookup : table.lookup w.1 = none := by
    rw [List.lookup_eq_none_iff]
    intro entry hentry
    exact bne_iff_ne.mpr (h entry hentry)
  rw [number, hlookup, Option.map_none]

end Delivery

/-! ### The settings of the ring -/

/-- The register of a control of the ring. -/
def RingControl.register : RingControl → Register
  | .base => Register.ringBase
  | .top => Register.ringTop
  | .bottom => Register.ringBottom
  | .readPtr => Register.ringReadPtr
  | .threshold => Register.ringThreshold
  | .enable => Register.ringEnable

/-- A setting of the ring, which registers alone change. -/
inductive RingSetting where
  | base
  | bottom
  | top
  | threshold
  | enable

namespace RingSetting

/-- The setting as a number; the switch is 1 if it is on. -/
def value (r : Ring) : RingSetting → Nat
  | base => r.basePage.toNat
  | bottom => r.bottomPage.toNat
  | top => r.topPage.toNat
  | threshold => r.threshold.toNat
  | enable => r.enabled.toNat

/-- The registers that set it, each with the bits it takes. -/
def table : RingSetting → List (Register × Nat × Nat)
  | base => [(Register.ringBase, 0, 16)]
  | bottom => [(Register.init3, 1, 10), (Register.ringBase, 0, 16), (Register.ringBottom, 0, 16)]
  | top => [(Register.init3, 11, 10), (Register.ringTop, 0, 16)]
  | threshold => [(Register.init3, 21, 10), (Register.ringThreshold, 0, 16)]
  | enable => [(Register.init3, 0, 1), (Register.ringEnable, 0, 1)]

theorem register_of_mem_table {s : RingSetting} {entry : Register × Nat × Nat}
    (h : entry ∈ s.table) : entry.1 = Register.init3 ∨ ∃ c : RingControl, entry.1 = c.register := by
  cases s <;> simp only [table, List.mem_cons, List.not_mem_nil, or_false] at h
  · exact .inr ⟨.base, by rw [h]; rfl⟩
  · rcases h with rfl | rfl | rfl
    · exact .inl rfl
    · exact .inr ⟨.base, rfl⟩
    · exact .inr ⟨.bottom, rfl⟩
  · rcases h with rfl | rfl
    · exact .inl rfl
    · exact .inr ⟨.top, rfl⟩
  · rcases h with rfl | rfl
    · exact .inl rfl
    · exact .inr ⟨.threshold, rfl⟩
  · rcases h with rfl | rfl
    · exact .inl rfl
    · exact .inr ⟨.enable, rfl⟩

end RingSetting

/-! ### What writes do to the ring -/

namespace Register

theorem effect_eq_init3 (r : Register) : r.descriptor.effect = .init 3 ↔ r = init3 := by
  revert r; decide +kernel

theorem effect_eq_ring (r : Register) (c : RingControl) :
    r.descriptor.effect = .ring c ↔ r = c.register := by
  cases c <;> (revert r; decide +kernel)

end Register

/-- What the effect of a write does to the ring. -/
def Effect.onRing (v : UInt32) (r : Ring) : Effect → Ring
  | .init n =>
    if n.val = 3 then r.applyInit3 v
    else if n.val = 4 then { r with entryCount := v &&& 0x7FFFF }
    else if n.val = 5 then { r with readPtr := v &&& 0x7FFFF }
    else r
  | .ring c => Coprocessor.controlled r c v
  | _ => r

/-- The lowest bit of a word as a switch. -/
theorem Word.toNat_lowBit (w : UInt32) : (decide (w &&& 1 ≠ 0)).toNat = bitsAt w 0 1 := by
  have hbit : (w &&& 1).toNat = bitsAt w 0 1 := toNat_and_mask w 1 1 rfl
  have hlt := bitsAt_lt w 0 1
  by_cases h : w &&& 1 = 0
  · rw [h] at hbit
    simp [h, ← hbit]
  · have hne : (w &&& 1).toNat ≠ 0 := fun h0 => h (UInt32.toNat_inj.mp h0)
    simp only [ne_eq, h, not_false_eq_true, decide_true, Bool.toNat_true]
    omega

/-- **A write leaves of every setting what the latest delivery tells.** -/
theorem RingSetting.value_onRing (s : RingSetting) (reg : Register) (v : UInt32) (r : Ring) :
    s.value (reg.descriptor.effect.onRing v r) =
      (Delivery.number s.table (reg, v)).getD (s.value r) := by
  -- a register with another effect is in no table
  have hnone (hinit : reg.descriptor.effect ≠ .init 3)
      (hring : ∀ c, reg.descriptor.effect ≠ .ring c) :
      Delivery.number s.table (reg, v) = none := by
    refine Delivery.number_eq_none fun entry hentry heq => ?_
    rcases register_of_mem_table hentry with h | ⟨c, h⟩
    · exact hinit ((reg.effect_eq_init3).mpr (heq.trans h))
    · exact hring c ((reg.effect_eq_ring c).mpr (heq.trans h))
  have hlow : (v &&& 0xFFFF).toNat = Word.bitsAt v 0 16 := Word.toNat_and_mask v 0xFFFF 16 rfl
  cases he : reg.descriptor.effect with
  | ring c =>
    obtain rfl := (reg.effect_eq_ring c).mp he
    cases c with
    | base =>
      cases s with
      | base | bottom => exact hlow
      | _ => rfl
    | bottom =>
      cases s with
      | bottom => exact hlow
      | _ => rfl
    | top =>
      cases s with
      | top => exact hlow
      | _ => rfl
    | threshold =>
      cases s with
      | threshold => exact hlow
      | _ => rfl
    | enable =>
      cases s with
      | enable =>
        have hbit : v &&& 0xFFFF &&& 1 = v &&& 1 := by rw [UInt32.and_assoc]; rfl
        show (decide (v &&& 0xFFFF &&& 1 ≠ 0)).toNat = Word.bitsAt v 0 1
        rw [hbit, Word.toNat_lowBit]
      | _ => rfl
    | readPtr => cases s <;> rfl
  | init n =>
    by_cases hn : n = 3
    · subst hn
      obtain rfl := (reg.effect_eq_init3).mp he
      cases s with
      | base => rfl
      | bottom => exact Word.toNat_shift_and v 1 0x3FF 1 10 rfl (by decide) rfl
      | top => exact Word.toNat_shift_and v 11 0x3FF 11 10 rfl (by decide) rfl
      | threshold => exact Word.toNat_shift_and v 21 0x3FF 21 10 rfl (by decide) rfl
      | enable => exact Word.toNat_lowBit v
    · rw [hnone (by rw [he]; simpa using hn) (by rw [he]; simp)]
      match n with
      | 0 | 1 | 2 | 4 | 5 => cases s <;> rfl
      | 3 => exact absurd rfl hn
  | _ => rw [hnone (by rw [he]; simp) (by rw [he]; simp)]; rfl

namespace Coprocessor

section Ring

variable (d : Coprocessor)

theorem ring_submit (t : Triangle.Setup) : (d.submit t).ring = d.ring :=
  submit_of (fun e => e.ring = d.ring) (fun _ h => h) (fun _ h => h) (fun _ h => h) (fun h => h)
    t rfl

theorem ring_fastFill : d.fastFill.ring = d.ring := by
  rw [fastFill_eq]
  split <;> rfl

theorem ring_affect (e : Effect) (v : UInt32) : (d.affect e v).ring = e.onRing v d.ring := by
  cases e with
  | none | triangle | floatTriangle | fog => rfl
  | init n =>
    match n with
    | 0 | 1 | 2 | 3 | 4 | 5 => rfl
  | ring c =>
    show (d.writeRingControl c v).ring = _
    rw [writeRingControl_eq, ring_noteAny]; rfl
  | command c =>
    cases c with
    | triangle | floatTriangle => exact ring_submit ..
    | fastFill => exact ring_fastFill ..
    | nop | swapBuffer | swapPend => rfl

theorem regs_writeRegister (r s : Register) (v : UInt32) :
    (d.writeRegister r v).regs.get s =
      if r = s then v &&& r.descriptor.mask else d.regs.get s :=
  (congrArg (·.regs.get s) (banks_writeRegister d r v)).trans (Banks.regs_write ..)

end Ring

/-! ### Steps without a delivery -/

/-- The delivery of a step. -/
def Step.delivery : Step → Option Delivery
  | .write r v => some (r, v)
  | _ => none

/-- The second coprocessor holds the same registers and the same settings of the ring. -/
structure SameSettings (d e : Coprocessor) : Prop where
  regs : e.regs = d.regs
  ring : ∀ s : RingSetting, s.value e.ring = s.value d.ring

namespace SameSettings

variable {d e f : Coprocessor}

theorem of_eq (hregs : e.regs = d.regs) (hring : e.ring = d.ring) : SameSettings d e :=
  ⟨hregs, fun _ => by rw [hring]⟩

theorem refl (d : Coprocessor) : SameSettings d d := .of_eq rfl rfl

theorem trans (h : SameSettings d e) (h' : SameSettings e f) : SameSettings d f :=
  ⟨h'.regs.trans h.regs, fun s => (h'.ring s).trans (h.ring s)⟩

end SameSettings

section Steps

variable (d : Coprocessor)

theorem sameSettings_advance (p : Ring.Packet) : SameSettings d (d.advance p) := by
  refine ⟨rfl, fun s => ?_⟩
  rw [advance_eq]
  show s.value (d.ring.advance p.length) = _
  unfold Ring.advance
  split
  · rfl
  · cases s <;> rfl

/-- **Nothing but a delivery touches a register or a setting of the ring.** -/
theorem sameSettings_step {s : Step} (hs : s.delivery = none) : SameSettings d (d.step s) := by
  cases s with
  | write r v => simp [Step.delivery] at hs
  | advance p => exact d.sameSettings_advance p
  | retire => exact ⟨rfl, fun s => by cases s <;> rfl⟩
  | countEntry =>
    rw [step, countEntry_eq]
    split <;> exact ⟨rfl, fun s => by cases s <;> rfl⟩
  | updateThreshold =>
    rw [step, updateThreshold_eq]
    split <;> exact .of_eq rfl rfl
  | submit t =>
    exact submit_of (SameSettings d) (fun _ h => ⟨h.1, h.2⟩) (fun _ h => ⟨h.1, h.2⟩)
      (fun _ h => ⟨h.1, h.2⟩) (fun h => ⟨h.1, h.2⟩) t (.refl d)
  | fastFill =>
    rw [step, fastFill_eq]
    split <;> exact .of_eq rfl rfl
  | upload tmu =>
    rw [step, upload_eq]
    split <;> exact .of_eq rfl rfl
  | _ => exact .of_eq rfl rfl

theorem sameSettings_after {ss : List Step} (hs : ∀ s ∈ ss, s.delivery = none) :
    SameSettings d (d.after ss) := by
  induction ss generalizing d with
  | nil => exact .refl d
  | cons s ss ih =>
    obtain ⟨hs, hss⟩ := List.forall_mem_cons.mp hs
    exact (d.sameSettings_step hs).trans (ih _ hss)

theorem sameSettings_swapBuffers : SameSettings d d.swapBuffers := by
  rw [swapBuffers_eq]
  split <;> exact .of_eq rfl rfl

theorem sameSettings_vsync : SameSettings d d.vsync := by
  rw [vsync_eq]
  split
  · split
    · have hretire : SameSettings d (d.setSwap d.swap.retire) := .of_eq rfl rfl
      exact hretire.trans (d.setSwap d.swap.retire).sameSettings_swapBuffers
    · exact .of_eq rfl rfl
  · exact .refl d

/-- The deliveries of an operation, the first one first. -/
def delivered (op : Operation) : List Delivery := (d.steps op).filterMap Step.delivery

theorem sameSettings_perform {op : Operation} (hop : op.restores = false)
    (hreset : op.resets = false) (h : d.delivered op = []) : SameSettings d (d.perform op).2 := by
  cases op with
  | reset => simp [Operation.resets] at hreset
  | restore => simp [Operation.restores] at hop
  | swapBuffers => exact d.sameSettings_swapBuffers
  | vsync => exact d.sameSettings_vsync
  | _ => rw [← after_steps d rfl]; exact d.sameSettings_after (List.filterMap_eq_nil_iff.mp h)

end Steps

/-! ### Histories -/

/-- The registers and the settings of the ring are what some deliveries after power-on or a reset
have left. -/
structure LeftBy (d : Coprocessor) (ws : List Delivery) : Prop where
  regs : ∀ r : Register, d.regs.get r =
    ((Delivery.latest (Delivery.valueTo r) ws).map (· &&& r.descriptor.mask)).getD
      (powerOnRegisters.get r)
  ring : ∀ s : RingSetting, s.value d.ring = Delivery.latestNumber s.table ws

namespace LeftBy

variable {d e : Coprocessor} {ws : List Delivery}

theorem fresh (hregs : d.regs = powerOnRegisters) (hring : d.ring = {}) : LeftBy d [] where
  regs r := by rw [hregs]; rfl
  ring s := by rw [hring]; cases s <;> rfl

theorem same (h : LeftBy d ws) (hsame : SameSettings d e) : LeftBy e ws where
  regs r := by rw [hsame.regs]; exact h.regs r
  ring s := (hsame.ring s).trans (h.ring s)

theorem write (h : LeftBy d ws) (reg : Register) (v : UInt32) :
    LeftBy (d.writeRegister reg v) (ws ++ [(reg, v)]) where
  regs r := by
    rw [regs_writeRegister, Delivery.latest_concat, Delivery.valueTo]
    by_cases hr : reg = r
    · subst hr
      simp
    · simpa [hr] using h.regs r
  ring s := by
    rw [Delivery.latestNumber_concat, ← h.ring, ← s.value_onRing]
    exact congrArg (s.value ·) (ring_affect (d.store reg v) reg.descriptor.effect v)

/-- A step adds its delivery to the history. -/
theorem step (h : LeftBy d ws) (s : Step) : LeftBy (d.step s) (ws ++ s.delivery.toList) := by
  cases hs : s.delivery with
  | none =>
    rw [Option.toList_none, List.append_nil]
    exact h.same (d.sameSettings_step hs)
  | some w =>
    cases s with
    | write reg v =>
      obtain rfl := Option.some.inj hs
      exact h.write reg v
    | _ => simp [Step.delivery] at hs

theorem after (h : LeftBy d ws) (ss : List Step) :
    LeftBy (d.after ss) (ws ++ ss.filterMap Step.delivery) := by
  induction ss generalizing d ws with
  | nil => simpa using h
  | cons s ss ih =>
    have hrest := ih (h.step s)
    cases hs : s.delivery with
    | none => simpa [hs] using hrest
    | some w => simpa [hs] using hrest

/-- An operation adds its deliveries to the history; a reset begins a new one. -/
theorem perform (h : LeftBy d ws) {op : Operation} (hop : op.restores = false) :
    LeftBy (d.perform op).2 (if op.resets then [] else ws ++ d.delivered op) := by
  cases op with
  | reset => exact .fresh rfl rfl
  | restore => simp [Operation.restores] at hop
  | swapBuffers => exact (List.append_nil ws).symm ▸ h.same d.sameSettings_swapBuffers
  | vsync => exact (List.append_nil ws).symm ▸ h.same d.sameSettings_vsync
  | _ => rw [← after_steps d rfl]; exact h.after _

end LeftBy

/-- The deliveries of a run since its last reset, after those of `ws`. -/
def deliveries (d : Coprocessor) (ws : List Delivery) : List Operation → List Delivery
  | [] => ws
  | op :: ops =>
    (d.perform op).2.deliveries (if op.resets then [] else ws ++ d.delivered op) ops

theorem LeftBy.run {d : Coprocessor} {ws : List Delivery} (h : LeftBy d ws) {ops : List Operation}
    (hops : ∀ op ∈ ops, op.restores = false) : LeftBy (d.run ops).2 (d.deliveries ws ops) := by
  induction ops generalizing d ws with
  | nil => exact h
  | cons op ops ih =>
    obtain ⟨hop, hrest⟩ := List.forall_mem_cons.mp hops
    exact ih (h.perform hop) hrest

/-- **Registers and ring settings are the last write.** After every run from power-on or a reset
each register holds its mask of the value last delivered to it, or its power-on value, and each
setting of the ring is the group of bits that the latest delivery to one of its registers has
there, or zero. No step without a delivery touches any of them, nor does any operation whose steps
deliver nothing. -/
theorem settings_are_last_write {start : Coprocessor} (hstart : start.Fresh)
    {ops : List Operation} (hops : ∀ op ∈ ops, op.restores = false) :
    ((∀ n : Nat, ∀ h : n < 256, (start.run ops).2.storedIndex (.ofNat n) =
        ((Delivery.latest (Delivery.valueTo ⟨n, h⟩) (start.deliveries [] ops)).map
          (· &&& (Register.descriptor ⟨n, h⟩).mask)).getD (powerOnRegisters.get ⟨n, h⟩)) ∧
      (start.run ops).2.ring.bottomPage.toNat =
        Delivery.latestNumber
          [(Register.init3, 1, 10), (Register.ringBase, 0, 16), (Register.ringBottom, 0, 16)]
          (start.deliveries [] ops) ∧
      (start.run ops).2.ring.topPage.toNat =
        Delivery.latestNumber [(Register.init3, 11, 10), (Register.ringTop, 0, 16)]
          (start.deliveries [] ops) ∧
      (start.run ops).2.ring.threshold.toNat =
        Delivery.latestNumber [(Register.init3, 21, 10), (Register.ringThreshold, 0, 16)]
          (start.deliveries [] ops) ∧
      (start.run ops).2.ring.enabled.toNat =
        Delivery.latestNumber [(Register.init3, 0, 1), (Register.ringEnable, 0, 1)]
          (start.deliveries [] ops) ∧
      (start.run ops).2.ring.basePage.toNat =
        Delivery.latestNumber [(Register.ringBase, 0, 16)] (start.deliveries [] ops)) ∧
    (∀ (d : Coprocessor) (s : Step), s.delivery = none → SameSettings d (d.step s)) ∧
    ∀ (d : Coprocessor) (op : Operation), op.restores = false → op.resets = false →
      d.delivered op = [] → SameSettings d (d.perform op).2 := by
  have hfresh : LeftBy start [] := by
    rcases hstart with ⟨mode, rfl⟩ | ⟨e, rfl⟩
    · exact .fresh rfl rfl
    · exact .fresh rfl rfl
  have hrun := hfresh.run hops
  refine ⟨⟨fun n h => ?_, hrun.ring .bottom, hrun.ring .top, hrun.ring .threshold,
    hrun.ring .enable, hrun.ring .base⟩, fun d s => d.sameSettings_step,
    fun d op => d.sameSettings_perform⟩
  rw [storedIndex_ofNat _ h]
  exact hrun.regs ⟨n, h⟩

/-- The ring set up by an init register, then its ends and a colour written over other paths. -/
def windowMoved : List Operation :=
  [.writeIndex 0x93 0x1003, .write32 0x4E9000 0x12345, .bridgeWrite 0x4EA000 3, .vsync,
    .writeIndex 0x58 0x12345678, .renderTriangle]

/-- The top of the ring comes from the register window, its bottom over the bridge. -/
theorem settings_are_last_write_windowMoved :
    (create .mb8).Fresh ∧ (∀ op ∈ windowMoved, op.restores = false) ∧
      (create .mb8).deliveries [] windowMoved =
        [(0x93, 0x1003), (0xE9, 0x12345), (0xEA, 3), (0x58, 0x12345678)] ∧
      ((create .mb8).run windowMoved).2.storedIndex 0x58 = 0x345678 ∧
      ((create .mb8).run windowMoved).2.ring.topPage.toNat = 0x2345 ∧
      ((create .mb8).run windowMoved).2.ring.bottomPage.toNat = 3 ∧
      ((create .mb8).run windowMoved).2.ring.enabled.toNat = 1 := by
  have hfresh : (create .mb8).Fresh := .inl ⟨_, rfl⟩
  have hops : ∀ op ∈ windowMoved, op.restores = false := by
    simp [windowMoved, Operation.restores]
  have hdeliveries : (create .mb8).deliveries [] windowMoved =
      [(0x93, 0x1003), (0xE9, 0x12345), (0xEA, 3), (0x58, 0x12345678)] := by decide +kernel
  obtain ⟨⟨hregs, hbottom, htop, -, henabled, -⟩, -, -⟩ := settings_are_last_write hfresh hops
  have hcolour := hregs 0x58 (by decide)
  rw [hdeliveries] at hbottom htop henabled hcolour
  exact ⟨hfresh, hops, hdeliveries, hcolour, htop, hbottom, henabled⟩

end Coprocessor

end PumaBoard
