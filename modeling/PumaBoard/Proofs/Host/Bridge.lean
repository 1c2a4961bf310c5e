import PumaBoard.Proofs.Coprocessor.Internal
import PumaBoard.Proofs.Coprocessor.Past
import PumaBoard.Proofs.Host.Access
import PumaBoard.Proofs.Memory.Words

/-!
The bridge of the host chip as calls to the coprocessor. Three words of the register window matter
to it, and what is stored there is what was last written there; so the calls that a run of the host
chip makes are known from the bytes stored at its start and from its cycles alone.
-/

namespace PumaBoard

/-! ### Stored bytes -/

namespace Host.Registers

variable (r : Registers) (offset : UInt32)

theorem byte_eq : r.byte offset = Bytes.byteD r.bytes (place offset) := by
  have h : place offset < r.bytes.size := by
    rw [r.size_eq]
    exact place_lt offset
  rw [Bytes.byteD, dif_pos h]
  rfl

theorem byte_setByte (v : UInt8) (at_ : UInt32) :
    (r.setByte offset v).byte at_ = if place offset = place at_ then v else r.byte at_ := by
  have h : place at_ < r.bytes.size := by
    rw [r.size_eq]
    exact place_lt at_
  rw [byte_eq, byte_eq, setByte, Bytes.byteD_put]
  simp only [h, and_true]

/-- Writing a word leaves the bytes of other places as they are. -/
theorem byte_setWord_of_ne (v : UInt32) {at_ : UInt32}
    (h : ∀ k ∈ [offset, offset + 1, offset + 2, offset + 3], place k ≠ place at_) :
    (r.setWord offset v).byte at_ = r.byte at_ := by
  simp only [List.forall_mem_cons] at h
  obtain ⟨h0, h1, h2, h3, -⟩ := h
  simp only [setWord, byte_setByte, h0, h1, h2, h3, if_false]

end Host.Registers

namespace HostChip

open Host (Registers)
open Host.Registers (place)

/-! ### The words of the bridge -/

/-- Both hold the same bytes in the words of the bridge. -/
def BridgeAlike (r s : Registers) : Prop :=
  ∀ k : UInt32, 0x400 ≤ place k → place k ≤ 0x40F → r.byte k = s.byte k

theorem BridgeAlike.setByte {r s : Registers} (h : BridgeAlike r s) (offset : UInt32) (v : UInt8) :
    BridgeAlike (r.setByte offset v) (s.setByte offset v) := by
  intro k hlo hhi
  rw [Registers.byte_setByte, Registers.byte_setByte, h k hlo hhi]

theorem BridgeAlike.word {r s : Registers} (h : BridgeAlike r s) {offset : UInt32}
    (ho : offset ∈ [bridgeControl, bridgeAddress, bridgeData]) :
    r.word offset = s.word offset := by
  have hplaces : [bridgeControl, bridgeAddress, bridgeData].all (fun o =>
      [o, o + 1, o + 2, o + 3].all fun k => 0x400 ≤ place k ∧ place k ≤ 0x40F) = true := by decide
  simp only [List.all_eq_true, decide_eq_true_eq] at hplaces
  have hbytes : ∀ k ∈ [offset, offset + 1, offset + 2, offset + 3], r.byte k = s.byte k := by
    intro k hk
    obtain ⟨hlo, hhi⟩ := hplaces offset ho k hk
    exact h k hlo hhi
  simp only [List.forall_mem_cons] at hbytes
  obtain ⟨h0, h1, h2, h3, -⟩ := hbytes
  rw [Registers.word, Registers.word, h0, h1, h2, h3]

/-- Clearing the start bit of a drawing command or of a 3D command is not seen there. -/
theorem BridgeAlike.setWord {r s : Registers} (h : BridgeAlike r s) {offset : UInt32}
    (ho : offset ∈ [Host.Draw.control, commandSet]) (v : UInt32) :
    BridgeAlike (r.setWord offset v) s := by
  have hplaces : [Host.Draw.control, commandSet].all (fun o =>
      [o, o + 1, o + 2, o + 3].all fun k => place k < 0x400) = true := by decide
  simp only [List.all_eq_true, decide_eq_true_eq] at hplaces
  intro k hlo hhi
  rw [Registers.byte_setWord_of_ne, h k hlo hhi]
  intro l hl
  have hlt := hplaces offset ho l hl
  omega

/-! ### The calls of a run -/

/-- The stored bytes after a cycle, as far as cycles write them. -/
def Cycle.latch (r : Registers) : Cycle → Registers
  | .write offset v => r.setByte offset v
  | _ => r

/-- What the control word of the bridge says. -/
def switchBit (r : Registers) : Bool := r.word bridgeControl &&& 1 ≠ 0

/-- The call that a cycle makes to the coprocessor, with the bytes stored by then; all calls but
that of the switch need the coprocessor to be enabled. -/
def Cycle.direct (r : Registers) (on : Bool) : Cycle → List Coprocessor.Operation
  | .write offset _ =>
    if offset &&& 0xFFFF = 0x403 then [.setEnabled (switchBit r)]
    else if offset &&& 0xFFFF = 0x40F ∧ on then
      [.bridgeWrite (r.word bridgeAddress) (r.word bridgeData)]
    else []
  | .read offset =>
    if (bridgeData ≤ offset &&& 0xFFFF ∧ offset &&& 0xFFFF ≤ 0x40F) ∧ on then
      [.bridgeRead (r.word bridgeAddress)]
    else []
  | .video _ => []
  | .apertureRead addr => if on then [.read32 addr] else []
  | .apertureWrite addr v => if on then [.write32 addr v] else []
  | .vsync => if on then [.vsync] else []

/-- Whether the coprocessor is enabled after a cycle. -/
def Cycle.switched (r : Registers) (on : Bool) : Cycle → Bool
  | .write offset _ => if offset &&& 0xFFFF = 0x403 then switchBit r else on
  | _ => on

/-- The calls that cycles make to the coprocessor. -/
def directCalls (r : Registers) (on : Bool) : List Cycle → List Coprocessor.Operation
  | [] => []
  | c :: cs =>
    c.direct (c.latch r) on ++ directCalls (c.latch r) (c.switched (c.latch r) on) cs

/-! ### The host chip beside its calls -/

theorem askEnabled_snd {α : Type} (h : HostChip) (f : Coprocessor → α × Coprocessor) :
    (h.askEnabled f).2 = h.withEnabled fun d => (f d).2 := by
  unfold askEnabled withEnabled
  split
  · unfold askCoprocessor withCoprocessor
    cases h.coprocessor <;> rfl
  · rfl

/-- A byte of the bridge data is asked of the coprocessor; any other byte is a stored one. -/
theorem fetch8_snd (h : HostChip) (offset : UInt32) :
    (h.fetch8 offset).2 =
      if bridgeData ≤ offset ∧ offset ≤ 0x40F then
        h.withEnabled fun d => (d.bridgeRead (h.regs.word bridgeAddress)).2
      else h := by
  unfold fetch8
  by_cases hstatus : offset = 0x405
  · subst hstatus
    rfl
  · rw [if_neg hstatus, ← askEnabled_snd]
    by_cases hdata : bridgeData ≤ offset ∧ offset ≤ 0x40F
    · simp only [hdata, decide_true, Bool.and_self, if_true, and_self]
      cases (h.askEnabled (·.bridgeRead (h.regs.word bridgeAddress))).1 <;> rfl
    · have hdata' : ¬ (decide (bridgeData ≤ offset) && decide (offset ≤ 0x40F)) = true := by
        simpa using hdata
      rw [if_neg hdata, if_neg hdata']

/-- The host chip holds the coprocessor, but for its notices, and stores the bytes of the bridge. -/
structure Bridged (h : HostChip) (r : Registers) (d : Coprocessor) : Prop where
  coprocessor : h.coprocessor.map Coprocessor.hush = some d.hush
  latch : BridgeAlike h.regs r

namespace Bridged

variable {h : HostChip} {r : Registers} {d : Coprocessor}

theorem exists_eq (hB : Bridged h r d) :
    ∃ e, h.coprocessor = some e ∧ e.hush = d.hush := by
  simpa using hB.coprocessor

/-- The coprocessor carries out an operation. -/
theorem work (hB : Bridged h r d) (op : Coprocessor.Operation) :
    Bridged (h.withCoprocessor fun e => (e.perform op).2) r (d.perform op).2 := by
  obtain ⟨e, he, heq⟩ := hB.exists_eq
  have hsame : (e.perform op).2.hush = (d.perform op).2.hush := by
    rw [← (e.hush_perform op).2, heq, (d.hush_perform op).2]
  refine ⟨?_, ?_⟩
  · rw [withCoprocessor, he, ← hsame]
    rfl
  · rw [withCoprocessor, he]
    exact hB.latch

theorem enabled (hB : Bridged h r d) : h.coprocessorEnabled = d.enabled := by
  obtain ⟨e, he, heq⟩ := hB.exists_eq
  rw [coprocessorEnabled, he]
  show e.hush.enabled = d.hush.enabled
  rw [heq]

/-- An enabled coprocessor carries out an operation. -/
theorem workEnabled (hB : Bridged h r d) (op : Coprocessor.Operation) :
    Bridged (h.withEnabled fun e => (e.perform op).2) r
      (d.run (if d.enabled then [op] else [])).2 := by
  rw [withEnabled, hB.enabled]
  split
  · exact hB.work op
  · exact hB

/-- All but the notices of the coprocessor is known. -/
theorem coprocessor_eq (hB : Bridged h r d) :
    ∃ notices, h.coprocessor = some { d with notices := notices } := by
  obtain ⟨e, he, heq⟩ := hB.exists_eq
  have hsame := congrArg (fun c : Coprocessor => { c with notices := e.notices }) heq
  exact ⟨e.notices, he.trans (congrArg some hsame)⟩

theorem of_eq {h' : HostChip} (hB : Bridged h r d) (hcoprocessor : h'.coprocessor = h.coprocessor)
    (hregs : h'.regs = h.regs) : Bridged h' r d :=
  ⟨hcoprocessor ▸ hB.coprocessor, hregs ▸ hB.latch⟩

/-! ### The effects of writes -/

theorem startDraw (hB : Bridged h r d) : Bridged h.startDraw r d := by
  have hrun (h : HostChip) : h.runDraw.coprocessor = h.coprocessor ∧ h.runDraw.regs = h.regs := by
    unfold runDraw
    split <;> exact ⟨rfl, rfl⟩
  unfold HostChip.startDraw
  dsimp only
  split
  · obtain ⟨hcoprocessor, hregs⟩ := hrun { h with busy := { h.busy with draw2d := true } }
    refine ⟨?_, ?_⟩
    · rw [hcoprocessor]
      exact hB.coprocessor
    · rw [hregs]
      exact hB.latch.setWord (by decide) _
  · exact hB

theorem startRender (hB : Bridged h r d) : Bridged h.startRender r d := by
  unfold HostChip.startRender
  dsimp only
  split
  · exact ⟨hB.coprocessor, hB.latch.setWord (by decide) _⟩
  · exact hB

theorem updateBridge (hB : Bridged h r d) :
    Bridged h.updateBridge r (d.run [.setEnabled (switchBit r)]).2 := by
  obtain ⟨e, he, -⟩ := hB.exists_eq
  have hbit : decide (h.regs.word bridgeControl &&& 1 ≠ 0) = switchBit r := by
    rw [hB.latch.word (by decide), switchBit]
  have hwork := hB.work (.setEnabled (switchBit r))
  unfold HostChip.updateBridge
  simp only [he, hbit]
  exact hwork.of_eq rfl rfl

theorem sendBridge (hB : Bridged h r d) :
    Bridged h.sendBridge r
      (d.run (if d.enabled then
        [.bridgeWrite (r.word bridgeAddress) (r.word bridgeData)] else [])).2 := by
  unfold HostChip.sendBridge
  rw [hB.latch.word (by decide), hB.latch.word (by decide)]
  exact hB.workEnabled (.bridgeWrite _ _)

theorem affect (hB : Bridged h r d) (offset : UInt32) :
    Bridged (h.affect offset) r
      (d.run (if offset = 0x403 then [.setEnabled (switchBit r)]
        else if offset = 0x40F ∧ d.enabled then
          [.bridgeWrite (r.word bridgeAddress) (r.word bridgeData)]
        else [])).2 := by
  by_cases hswitch : offset = 0x403
  · subst hswitch
    exact hB.updateBridge
  · by_cases hdata : offset = 0x40F
    · subst hdata
      show Bridged h.sendBridge r _
      simpa using hB.sendBridge
    · rw [if_neg hswitch, if_neg fun h => hdata h.1]
      show Bridged (h.affect offset) r d
      unfold HostChip.affect
      split
      · exact hB.startDraw
      · split
        · exact hB.startRender
        · split
          · exact hB.of_eq rfl rfl
          · exact hB

/-! ### Cycles -/

theorem write (hB : Bridged h r d) (offset : UInt32) (v : UInt8) :
    Bridged (h.windowWrite8 offset v) (r.setByte offset v)
      (d.run ((Cycle.write offset v).direct (r.setByte offset v) d.enabled)).2 := by
  have hplace : place (offset &&& 0xFFFF) = place offset := by
    rw [place, place, UInt32.and_assoc, UInt32.and_self]
  have hset : h.regs.setByte (offset &&& 0xFFFF) v = h.regs.setByte offset v := by
    simp only [Registers.setByte, hplace]
  have hstored : Bridged { h.note (.windowWrite (offset &&& 0xFFFF) v) with
      regs := h.regs.setByte (offset &&& 0xFFFF) v } (r.setByte offset v) d := by
    rw [hset]
    exact ⟨hB.coprocessor, hB.latch.setByte offset v⟩
  exact hstored.affect (offset &&& 0xFFFF)

theorem read (hB : Bridged h r d) (offset : UInt32) :
    Bridged (h.windowRead8 offset).2 r (d.run ((Cycle.read offset).direct r d.enabled)).2 := by
  have hread : Bridged (h.fetch8 (offset &&& 0xFFFF)).2 r
      (d.run ((Cycle.read offset).direct r d.enabled)).2 := by
    rw [fetch8_snd, Cycle.direct]
    by_cases hdata : bridgeData ≤ offset &&& 0xFFFF ∧ offset &&& 0xFFFF ≤ 0x40F
    · rw [if_pos hdata, hB.latch.word (by decide)]
      have hwork : Bridged
          (h.withEnabled fun d => (d.bridgeRead (r.word bridgeAddress)).2) r _ :=
        hB.workEnabled (.bridgeRead _)
      simpa only [hdata, true_and, and_self] using hwork
    · rw [if_neg hdata, if_neg fun h => hdata h.1]
      exact hB
  exact hread.of_eq rfl rfl

/-- **A cycle of the host chip does to the coprocessor what its call does.** -/
theorem cycle (hB : Bridged h r d) (c : Cycle) :
    Bridged (h.cycle c) (c.latch r) (d.run (c.direct (c.latch r) d.enabled)).2 := by
  cases c with
  | read offset => exact hB.read offset
  | write offset v => exact hB.write offset v
  | video edit => exact hB.of_eq rfl rfl
  | apertureRead addr =>
    show Bridged (h.askEnabled (·.read32 addr)).2 r _
    rw [askEnabled_snd]
    exact hB.workEnabled (.read32 addr)
  | apertureWrite addr v => exact hB.workEnabled (.write32 addr v)
  | vsync => exact hB.workEnabled .vsync

end Bridged

/-- The switch follows the calls. -/
theorem enabled_direct (d : Coprocessor) (r : Registers) (c : Cycle) :
    (d.run (c.direct r d.enabled)).2.enabled = c.switched r d.enabled := by
  cases c with
  | write offset v =>
    simp only [Cycle.direct, Cycle.switched]
    split
    · exact d.enabled_setEnabled _
    · split
      · exact d.enabled_bridgeWrite _ _
      · rfl
  | read offset =>
    simp only [Cycle.direct, Cycle.switched]
    split
    · exact d.enabled_bridgeRead _
    · rfl
  | video edit => rfl
  | apertureRead addr =>
    simp only [Cycle.direct, Cycle.switched]
    split
    · exact d.enabled_read32 addr
    · rfl
  | apertureWrite addr v =>
    simp only [Cycle.direct, Cycle.switched]
    split
    · exact d.enabled_write32 addr v
    · rfl
  | vsync =>
    simp only [Cycle.direct, Cycle.switched]
    split
    · exact d.enabled_vsync
    · rfl

/-- **A run of the host chip does to the coprocessor what its calls do.** -/
theorem Bridged.cycles {h : HostChip} {r : Registers} {d : Coprocessor} (hB : Bridged h r d)
    (cs : List Cycle) :
    Bridged (cs.foldl HostChip.cycle h) (cs.foldl Cycle.latch r)
      (d.run (directCalls r d.enabled cs)).2 := by
  induction cs generalizing h r d with
  | nil => exact hB
  | cons c cs ih =>
    have hrest := ih (hB.cycle c)
    rw [enabled_direct] at hrest
    rw [directCalls, Coprocessor.run_append]
    exact hrest

/-! ### Reading the data word -/

/-- The host chip has an enabled coprocessor which shows a word at the address of the bridge. -/
def Offers (h : HostChip) (w : UInt32) : Prop :=
  ∃ e, h.coprocessor = some e ∧ e.enabled = true ∧ e.peek (h.regs.word bridgeAddress) = w

/-- A read through the bridge gives what the coprocessor shows and leaves that as it is. -/
theorem bridgeRead_eq (d : Coprocessor) (addr : UInt32) :
    ∃ ns grant, d.bridgeRead addr = (d.peek addr, { d with notices := ns, pumaGrant := grant }) := by
  unfold Coprocessor.bridgeRead Coprocessor.read32
  split
  · dsimp only
    split <;> split <;> exact ⟨_, _, rfl⟩
  · next hoff =>
    refine ⟨d.notices, d.pumaGrant, ?_⟩
    rw [Coprocessor.peek, if_neg hoff]

theorem Offers.read8 {h : HostChip} {w : UInt32} (hw : h.Offers w) {k : UInt32}
    (hk : k ∈ [0, 1, 2, 3]) {offset : UInt32} (ho : offset &&& 0xFFFF = bridgeData + k) :
    (h.windowRead8 offset).1 = Word.lane w k ∧ (h.windowRead8 offset).2.Offers w := by
  obtain ⟨e, he, hon, hpeek⟩ := hw
  obtain ⟨ns, grant, hread⟩ := bridgeRead_eq e (h.regs.word bridgeAddress)
  have hdata : [0, 1, 2, 3].all (fun k => bridgeData + k ≠ 0x405 ∧ bridgeData ≤ bridgeData + k ∧
      bridgeData + k ≤ 0x40F ∧ bridgeData + k - bridgeData = k) = true := by decide
  simp only [List.all_eq_true, decide_eq_true_eq] at hdata
  obtain ⟨hstatus, hlo, hhi, hsub⟩ := hdata k hk
  have hask : h.askEnabled (·.bridgeRead (h.regs.word bridgeAddress)) =
      (some w, { h with
        coprocessor := some { e with notices := #[], pumaGrant := grant },
        notices := h.notices ++ ns }) := by
    rw [askEnabled, coprocessorEnabled, he]
    simp only [hon, if_true, askCoprocessor, he, hread, hpeek]
  have hfetch : h.fetch8 (bridgeData + k) = (Word.lane w k, { h with
        coprocessor := some { e with notices := #[], pumaGrant := grant },
        notices := h.notices ++ ns }) := by
    unfold fetch8
    simp only [hstatus, if_false, hlo, hhi, decide_true, Bool.and_self, if_true, hask, hsub]
  rw [windowRead8, ho, hfetch]
  exact ⟨rfl, _, rfl, hon, hpeek⟩

theorem windowRead32_eq (h : HostChip) (offset : UInt32) :
    (h.windowRead32 offset).1 =
      Word.ofLanes (h.windowRead8 offset).1 ((h.windowRead8 offset).2.windowRead8 (offset + 1)).1
        (((h.windowRead8 offset).2.windowRead8 (offset + 1)).2.windowRead8 (offset + 2)).1
        ((((h.windowRead8 offset).2.windowRead8 (offset + 1)).2.windowRead8
          (offset + 2)).2.windowRead8 (offset + 3)).1 := rfl

/-- The data word is read as the coprocessor shows it, though each byte asks for it again. -/
theorem Offers.read32 {h : HostChip} {w : UInt32} (hw : h.Offers w) {offset : UInt32}
    (ho : offset &&& 0xFFFF = bridgeData) : (h.windowRead32 offset).1 = w := by
  have hnext (k : UInt32) (hk : k ∈ [1, 2, 3]) : (offset + k) &&& 0xFFFF = bridgeData + k := by
    have hmod (o : UInt32) : (o &&& 0xFFFF).toNat = o.toNat % 2 ^ 16 :=
      Nat.and_two_pow_sub_one_eq_mod _ 16
    have hlt : bridgeData.toNat + k.toNat < 2 ^ 16 := by
      simp only [List.mem_cons, List.not_mem_nil, or_false] at hk
      rcases hk with rfl | rfl | rfl <;> decide
    have hoff := congrArg UInt32.toNat ho
    rw [hmod] at hoff
    apply UInt32.toNat_inj.mp
    rw [hmod, UInt32.toNat_add, UInt32.toNat_add]
    omega
  obtain ⟨h0, hw⟩ := hw.read8 (k := 0) (by decide) ho
  obtain ⟨h1, hw⟩ := hw.read8 (k := 1) (by decide) (hnext 1 (by decide))
  obtain ⟨h2, hw⟩ := hw.read8 (k := 2) (by decide) (hnext 2 (by decide))
  obtain ⟨h3, -⟩ := hw.read8 (k := 3) (by decide) (hnext 3 (by decide))
  rw [windowRead32_eq, h0, h1, h2, h3, Word.ofLanes_lanes]

/-! ### Runs -/

/-- **The bridge is a sequence of calls to the coprocessor.** A run of the host chip leaves the
coprocessor, but for its notices, as the calls of its cycles do. These calls are made with the
words that the host chip stores; and while the coprocessor is enabled the data word reads as the
coprocessor answers. -/
theorem run_follows_calls {h : HostChip} {d : Coprocessor} (hd : h.coprocessor = some d)
    (as : List Access) :
    (∃ notices, (h.run as).2.coprocessor =
      some { (d.run (directCalls h.regs d.enabled (as.flatMap Access.cycles))).2 with
        notices := notices }) ∧
    (∀ offset ∈ [bridgeControl, bridgeAddress, bridgeData],
      (h.run as).2.regs.word offset =
        ((as.flatMap Access.cycles).foldl Cycle.latch h.regs).word offset) ∧
    (d.enabled = true → ∀ offset, offset &&& 0xFFFF = bridgeData →
      (h.windowRead32 offset).1 = (d.bridgeRead (h.regs.word bridgeAddress)).1) := by
  have hB : Bridged h h.regs d := ⟨by rw [hd]; rfl, fun _ _ _ => rfl⟩
  have hrun := hB.cycles (as.flatMap Access.cycles)
  rw [← run_cycles] at hrun
  refine ⟨hrun.coprocessor_eq, fun offset ho => hrun.latch.word ho, fun hon offset ho => ?_⟩
  obtain ⟨ns, grant, hread⟩ := bridgeRead_eq d (h.regs.word bridgeAddress)
  have hw : h.Offers (d.peek (h.regs.word bridgeAddress)) := ⟨d, hd, hon, rfl⟩
  rw [hw.read32 ho, hread]

/-- A board after power-on, with a coprocessor. -/
def bridgedBoard : HostChip := create .mb2 (some (.mb8, {}))

/-- A word sent over the bridge; the offsets of its bytes wrap. -/
def sentWord : List Access := [.write32 0x408 0x10, .write32 0x1040C 7]

theorem directCalls_sentWord (r : Registers) :
    directCalls r true (sentWord.flatMap Access.cycles) = [.bridgeWrite 0x10 7] := by
  have haddr :
      ((sentWord.flatMap Access.cycles).foldl Cycle.latch r).word bridgeAddress = 0x10 := by
    simp +decide [sentWord, Access.cycles, writeCycles, Word.lanes, Cycle.latch, Registers.word,
      Registers.byte_setByte]
  have hdata : ((sentWord.flatMap Access.cycles).foldl Cycle.latch r).word bridgeData = 7 := by
    simp +decide [sentWord, Access.cycles, writeCycles, Word.lanes, Cycle.latch, Registers.word,
      Registers.byte_setByte]
  calc directCalls r true (sentWord.flatMap Access.cycles)
      = [.bridgeWrite
          (((sentWord.flatMap Access.cycles).foldl Cycle.latch r).word bridgeAddress)
          (((sentWord.flatMap Access.cycles).foldl Cycle.latch r).word bridgeData)] := rfl
    _ = [.bridgeWrite 0x10 7] := by rw [haddr, hdata]

theorem run_follows_calls_word :
    ∃ (d : Coprocessor) (notices : Array Notice), bridgedBoard.coprocessor = some d ∧
      (bridgedBoard.run sentWord).2.coprocessor =
        some { (d.run [.bridgeWrite 0x10 7]).2 with notices := notices } := by
  obtain ⟨⟨notices, hrun⟩, -, -⟩ := run_follows_calls (h := bridgedBoard) rfl sentWord
  refine ⟨_, notices, rfl, hrun.trans ?_⟩
  rw [← directCalls_sentWord bridgedBoard.regs]
  rfl

end HostChip

end PumaBoard
