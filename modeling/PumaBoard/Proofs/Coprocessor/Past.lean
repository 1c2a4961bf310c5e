import PumaBoard.Proofs.Coprocessor.Backdrop
import PumaBoard.Proofs.Coprocessor.Operation
import PumaBoard.Proofs.Coprocessor.Restore

/-!
The past does not matter: every operation answers and does the same whatever calls were made and
whatever notices were given before it, and only adds to them.
-/

namespace PumaBoard

/-- The backdrop changes nothing but what happened before. -/
structure Backdrop.IsPast (b : Backdrop) : Prop where
  ring : b.ring = id
  status : b.status = id

namespace Coprocessor

section Past

variable (d : Coprocessor) {b : Backdrop} (hb : b.IsPast)

include hb

/-! ### What shows through -/

theorem against_ring : (d.against b).ring = d.ring := by rw [against, hb.ring]; rfl

theorem against_status : (d.against b).status = d.status := by rw [against, hb.status]; rfl

theorem against_setRing (r : Ring) : (d.against b).setRing r = (d.setRing r).against b := by
  simp only [against, setRing, hb.ring, id]

theorem against_setStatus (s : Status) : (d.against b).setStatus s = (d.setStatus s).against b := by
  simp only [against, setStatus, hb.status, id]

theorem against_capture : (d.against b).capture = d.capture := by
  simp only [capture, against_ring d hb, against_status d hb]; rfl

/-! ### Registers -/

theorem against_readRegister (r : Register) : (d.against b).readRegister r = d.readRegister r := by
  unfold readRegister statusValue
  rw [against_ring d hb, against_status d hb]; rfl

theorem against_readIndex (index : UInt32) : (d.against b).readIndex index = d.readIndex index := by
  unfold readIndex
  cases register? index with
  | none => rfl
  | some r => exact against_readRegister d hb r

theorem against_writeInit (n : Fin 6) (v : UInt32) :
    (d.against b).writeInit n v = (d.writeInit n v).against b := by
  simp only [writeInit_eq, against_ring d hb, against_setRing _ hb, against_note, ite_against]

theorem against_writeRingControl (c : RingControl) (v : UInt32) :
    (d.against b).writeRingControl c v = (d.writeRingControl c v).against b := by
  simp only [writeRingControl_eq, against_ring d hb, against_setRing _ hb, against_noteAny]

theorem against_writeRegister_past (r : Register) (v : UInt32) :
    (d.against b).writeRegister r v = (d.writeRegister r v).against b := by
  rw [writeRegister_eq, writeRegister_eq, against_store]
  cases r.descriptor.effect with
  | none | triangle | floatTriangle | fog => rfl
  | init n => exact against_writeInit _ hb n v
  | ring c => exact against_writeRingControl _ hb c v
  | command c => exact against_execute ..

theorem against_writeIndex (index v : UInt32) :
    (d.against b).writeIndex index v = (d.writeIndex index v).against b := by
  unfold writeIndex
  cases register? index with
  | none => rfl
  | some r => exact against_writeRegister_past d hb r v

/-! ### Packets -/

theorem against_ringWord? (n : UInt32) : (d.against b).ringWord? n = d.ringWord? n := by
  unfold ringWord?
  rw [against_ring d hb]; rfl

theorem against_writePage_past (page v : UInt32) :
    (d.against b).writePage page v = (d.writePage page v).against b := by
  unfold writePage
  rw [against_layout]
  cases d.layout.page? page with
  | none => exact against_note ..
  | some r => exact against_writeRegister_past d hb r v

theorem against_writePages_past (ws : List (UInt32 × UInt32)) :
    (d.against b).writePages ws = (d.writePages ws).against b :=
  against_foldl _ _ (fun d w => by exact against_writePage_past d hb w.1 w.2) _

theorem against_advance (p : Ring.Packet) : (d.against b).advance p = (d.advance p).against b := by
  rw [advance_eq, advance_eq, against_ring d hb, against_setRing d hb]

theorem against_groupWrites (base mask : UInt32) :
    (d.against b).groupWrites base mask = d.groupWrites base mask := by
  unfold groupWrites
  simp only [against_ringWord? d hb]

theorem against_executePacket (header : UInt32) (p : Ring.Packet) :
    (d.against b).executePacket header p = (d.executePacket header p).against b := by
  cases p with
  | nop => exact against_advance d hb _
  | single page v => simp only [executePacket, against_advance _ hb, against_writePage_past _ hb]
  | group base mask =>
    simp only [executePacket_group, against_note, against_advance _ hb, against_groupWrites d hb,
      against_writePages_past _ hb, ite_against]

theorem against_fetch : (d.against b).fetch = d.fetch := by
  unfold fetch
  simp only [against_ring d hb, against_ringWord? d hb]

theorem against_retire : (d.against b).retire = d.retire.against b := by
  rw [retire_eq, retire_eq, against_ring d hb, against_setRing d hb]

theorem against_drainUpTo (n : Nat) : (d.against b).drainUpTo n = (d.drainUpTo n).against b := by
  induction n generalizing d with
  | zero => rfl
  | succ n ih =>
    simp only [drainUpTo, against_ring d hb, against_fetch d hb, ite_against]
    cases d.fetch with
    | error notice => simp only [against_note]
    | ok found => simp only [against_executePacket d hb, against_retire _ hb, ih]

theorem against_updateThreshold : (d.against b).updateThreshold = d.updateThreshold.against b := by
  simp only [updateThreshold_eq, against_ring d hb, against_status d hb, against_setStatus d hb,
    ite_against]

theorem against_drain : (d.against b).drain = d.drain.against b := by
  simp only [drain, against_ring d hb, against_drainUpTo d hb, against_updateThreshold _ hb,
    ite_against]

theorem against_countEntry : (d.against b).countEntry = d.countEntry.against b := by
  simp only [countEntry_eq, against_ring d hb, against_status d hb, against_setRing _ hb,
    against_setStatus _ hb, ite_against]

theorem against_writeRing (offset v : UInt32) :
    (d.against b).writeRing offset v = (d.writeRing offset v).against b := by
  simp only [writeRing, against_ring d hb, against_storeFrame, against_countEntry _ hb,
    against_drain _ hb, against_note, ite_against]

/-! ### The aperture and the bridge -/

theorem against_writeRegion (addr v : UInt32) (region : Aperture.Region) :
    (d.against b).writeRegion addr v region = (d.writeRegion addr v region).against b := by
  cases region with
  | frame offset =>
    simp only [writeRegion, against_ring d hb, against_writeRing d hb, against_storeFrame,
      ite_against]
  | register r => exact against_writeRegister_past d hb r v
  | texture offset => exact against_flushPage (d.setMemory _) b _
  | invalid => exact against_note ..

theorem against_write32 (addr v : UInt32) :
    (d.against b).write32 addr v = (d.write32 addr v).against b := by
  simp only [write32, against_enabled, against_layout, against_writeRegion d hb, ite_against]

theorem against_peek (addr : UInt32) : (d.against b).peek addr = d.peek addr := by
  simp only [peek, against_enabled, against_layout]
  cases d.layout.decode addr with
  | register r => simp only [regionValue, against_readRegister d hb]
  | _ => rfl

theorem against_read32 (addr : UInt32) :
    (d.against b).read32 addr = ((d.read32 addr).1, (d.read32 addr).2.against b) := by
  simp only [read32, against_peek d hb, against_enabled, against_layout, against_note, ite_against]
  rfl

theorem against_bridgeWrite (addr v : UInt32) :
    (d.against b).bridgeWrite addr v = (d.bridgeWrite addr v).against b := by
  simp only [bridgeWrite, against_enabled, against_write32 d hb, against_layout, ite_against]
  rfl

theorem against_bridgeRead (addr : UInt32) :
    (d.against b).bridgeRead addr = ((d.bridgeRead addr).1, (d.bridgeRead addr).2.against b) := by
  unfold bridgeRead
  by_cases h : d.enabled
  · simp only [against_enabled, h, if_true, against_read32 d hb, against_layout, ite_against]; rfl
  · simp only [against_enabled, h]; rfl

theorem against_write16 (addr : UInt32) (v : UInt16) :
    (d.against b).write16 addr v = (d.write16 addr v).against b := by
  simp only [write16, against_read32 d hb, against_write32 _ hb]

theorem against_write8 (addr : UInt32) (v : UInt8) :
    (d.against b).write8 addr v = (d.write8 addr v).against b := by
  simp only [write8, against_read32 d hb, against_write32 _ hb]

/-! ### Snapshots and switches -/

theorem against_reset : (d.against b).reset = d.reset.against b := by
  simp only [reset, against, hb.ring, hb.status, Array.push_append, id]

theorem against_takeOver (s : Snapshot) (t : Snapshot.Contents) :
    (d.against b).takeOver s t = (d.takeOver s t).against b := by
  have h : (d.against b).install s t.regs t.fog t.memory =
      (d.install s t.regs t.fog t.memory).against b := by
    simp only [install, against, hb.ring, hb.status, id]
  rw [takeOver, h, against_note]; rfl

theorem against_restore (s : Snapshot) :
    (d.against b).restore s = (d.restore s).map (against · b) := by
  have hm : (d.against b).mode = d.mode := rfl
  rw [restore_eq, restore_eq, hm]
  cases s.checked d.mode with
  | error e => rfl
  | ok t => exact congrArg Except.ok (against_takeOver d hb s t)

/-! ### Runs -/

theorem against_perform (op : Operation) :
    (d.against b).perform op = ((d.perform op).1, (d.perform op).2.against b) := by
  cases op with
  | reset => simp only [perform, against_reset d hb]
  | setEnabled => simp only [perform, against_setEnabled]
  | setWindow => rfl
  | attach => rfl
  | detach => rfl
  | writeIndex => simp only [perform, against_writeIndex d hb]
  | readIndex => simp only [perform, against_readIndex d hb]
  | storedIndex => rfl
  | write32 => simp only [perform, against_write32 d hb]
  | write16 => simp only [perform, against_write16 d hb]
  | write8 => simp only [perform, against_write8 d hb]
  | read32 => simp only [perform, against_read32 d hb]
  | read16 => simp only [perform, read16, against_read32 d hb]
  | read8 => simp only [perform, read8, against_read32 d hb]
  | bridgeWrite => simp only [perform, against_bridgeWrite d hb]
  | bridgeRead => simp only [perform, against_bridgeRead d hb]
  | writeRing => simp only [perform, against_writeRing d hb]
  | drain => simp only [perform, against_drain d hb]
  | renderTriangle => simp only [perform, renderTriangle, against_triangle, against_submit]
  | fastFill => simp only [perform, against_fastFill]
  | loadTexture => simp only [perform, against_loadTexture]
  | swapBuffers => simp only [perform, against_swapBuffers]
  | vsync => simp only [perform, against_vsync]
  | pixelAddress => rfl
  | editMemory => rfl
  | look => simp only [perform, against_capture d hb]; rfl
  | restore s =>
    simp only [perform, against_restore d hb]
    cases d.restore s <;> rfl

/-- **The past does not matter.** -/
theorem against_run (ops : List Operation) :
    (d.against b).run ops = ((d.run ops).1, (d.run ops).2.against b) := by
  induction ops generalizing d with
  | nil => rfl
  | cons op ops ih => simp only [run, against_perform d hb, ih]

end Past

/-! ### Without the notices -/

/-- The coprocessor without the notices given so far. -/
def hush (d : Coprocessor) : Coprocessor := { d with notices := #[] }

theorem hush_against (d : Coprocessor) {b : Backdrop} (hb : b.IsPast) (hcalls : b.calls = #[]) :
    (d.against b).hush = d.hush := by
  simp [hush, against, hb.ring, hb.status, hcalls]

/-- An operation does the same whatever notices were given. -/
theorem hush_perform (d : Coprocessor) (op : Operation) :
    (d.hush.perform op).1 = (d.perform op).1 ∧
      (d.hush.perform op).2.hush = (d.perform op).2.hush := by
  have hb : Backdrop.IsPast { notices := d.notices } := ⟨rfl, rfl⟩
  have hd : d.hush.against { notices := d.notices } = d := by simp [hush, against]
  have h := against_perform d.hush hb op
  rw [hd] at h
  rw [h, hush_against _ hb rfl]
  exact ⟨rfl, rfl⟩

end Coprocessor

end PumaBoard
