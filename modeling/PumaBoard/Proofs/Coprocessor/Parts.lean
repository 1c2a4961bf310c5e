import PumaBoard.Coprocessor.Bus

/-!
The coprocessor part by part: one name for putting a part of the state in place of the old one,
and the operations written with these names, so that what an operation does to one part can be
said without the others.
-/

namespace PumaBoard

namespace Coprocessor

section Parts

variable (d : Coprocessor)

/-! ### Putting a part in place -/

def setMemory (m : Aperture.Memory) : Coprocessor := { d with memory := m }
def setRing (r : Ring) : Coprocessor := { d with ring := r }
def setStatus (s : Status) : Coprocessor := { d with status := s }
def setSwap (s : Swap) : Coprocessor := { d with swap := s }
def setBusy (on : Bool) : Coprocessor := { d with busy := on }
def setSwitch (on : Bool) : Coprocessor := { d with enabled := on }

theorem setEnabled_eq (on : Bool) :
    d.setEnabled on =
      if d.enabled = on then d else (d.setSwitch on).note (.coprocessorSwitched on) := rfl

/-! ### Commands -/

theorem upload_eq (tmu : Nat) :
    d.upload tmu =
      if d.textureOffset.toNat < d.memory.texture.size then
        (d.call (.load tmu d.textureOffset
          (Bytes.slice d.memory.texture d.textureOffset.toNat maxTextureBytes))).call
          (.flush d.textureOffset tmu)
      else d.note (.textureOutside d.textureOffset) := rfl

/-- Queues a triangle at the rendering engine and counts it. -/
def queue (t : Triangle.Setup) : Coprocessor :=
  (d.call (.triangle (d.block t) d.memory.frame)).countTriangle

theorem submit_eq (t : Triangle.Setup) :
    d.submit t =
      if d.enabled then
        match d.backend with
        | none => d.note .noBackend
        | some b => (((d.setBusy true).uploadAll b).queue t).setBusy false
      else d := rfl

theorem fastFill_eq :
    d.fastFill =
      if d.enabled then
        (d.setMemory ((FastFill.ofRegisters d.regs).execute d.memory)).note
          (.fastFilled (FastFill.ofRegisters d.regs).clip
            (Surface.fillColour (d.regs.get Register.colour0)))
      else d := rfl

theorem swapBuffers_eq :
    d.swapBuffers =
      if d.swap.requested then
        ((d.checkSum d.swap.canComplete).setSwap d.swap.complete).note
          (.swapCompleted d.colourBuffer d.window)
      else d := rfl

theorem vsync_eq :
    d.vsync =
      if d.enabled && d.swap.pending > 0 && d.swap.requested then
        if d.swap.retire.pending = 0 then (d.setSwap d.swap.retire).swapBuffers
        else d.setSwap d.swap.retire
      else d := rfl

theorem execute_triangle :
    d.execute .triangle = (d.note .triangleCommand).submit d.triangle := rfl

theorem execute_floatTriangle :
    d.execute .floatTriangle = (d.note .floatTriangleCommand).submit d.floatTriangle.toFixed := rfl

theorem execute_swapPend :
    d.execute .swapPend =
      ((d.checkSum d.swap.canAppend).setSwap d.swap.append).note
        (.swapAppended d.swap.append.pending) := rfl

/-! ### Register writes -/

theorem writeInit_eq (n : Fin 6) (v : UInt32) :
    d.writeInit n v =
      if n.val = 3 then (d.setRing (d.ring.applyInit3 v)).note (.ringInit (d.ring.applyInit3 v))
      else if n.val = 4 then d.setRing { d.ring with entryCount := v &&& 0x7FFFF }
      else if n.val = 5 then d.setRing { d.ring with readPtr := v &&& 0x7FFFF }
      else d := by
  match n with
  | 0 | 1 | 2 | 3 | 4 | 5 => rfl

/-- The ring after a write of one of its control registers. -/
def controlled (r : Ring) (control : RingControl) (v : UInt32) : Ring :=
  match control with
  | .base => { r with basePage := v &&& 0xFFFF, bottomPage := v &&& 0xFFFF }
  | .bottom => { r with bottomPage := v &&& 0xFFFF }
  | .top => { r with topPage := v &&& 0xFFFF }
  | .readPtr => { r with readPtr := v &&& 0xFFFF }
  | .threshold => { r with threshold := v &&& 0xFFFF }
  | .enable => { r with enabled := v &&& 0xFFFF &&& 1 ≠ 0 }

/-- What a write of a control register of the ring has to tell. -/
def controlNotice (r : Ring) (control : RingControl) (v : UInt32) : Option Notice :=
  match control with
  | .base => some (.ringBase (v &&& 0xFFFF))
  | .bottom => some (.ringBottom (v &&& 0xFFFF))
  | .top => some (.ringTop (v &&& 0xFFFF))
  | .readPtr | .threshold => none
  | .enable => some (.ringSwitched r)

/-- Gives a notice, if there is one. -/
def noteAny : Option Notice → Coprocessor
  | none => d
  | some n => d.note n

section NoteAny

variable (n : Option Notice)

theorem ring_noteAny : (d.noteAny n).ring = d.ring := by cases n <;> rfl

theorem status_noteAny : (d.noteAny n).status = d.status := by cases n <;> rfl

theorem swap_noteAny : (d.noteAny n).swap = d.swap := by cases n <;> rfl

theorem layout_noteAny : (d.noteAny n).layout = d.layout := by cases n <;> rfl

end NoteAny

theorem writeRingControl_eq (control : RingControl) (v : UInt32) :
    d.writeRingControl control v =
      (d.setRing (controlled d.ring control v)).noteAny
        (controlNotice (controlled d.ring control v) control v) := by
  cases control <;> rfl

theorem writeRegister_eq (r : Register) (v : UInt32) :
    d.writeRegister r v = (d.store r v).affect r.descriptor.effect v := rfl

/-! ### The ring -/

/-- Writes registers through their pages, one after the other. -/
def writePages (ws : List (UInt32 × UInt32)) : Coprocessor :=
  ws.foldl (fun d w => d.writePage w.1 w.2) d

theorem executePacket_group (header base mask : UInt32) :
    d.executePacket header (.group base mask) =
      if Word.population mask = 0 then (d.note (.groupEmpty header)).advance (.group base mask)
      else (d.advance (.group base mask)).writePages (d.groupWrites base mask) := rfl

theorem advance_eq (p : Ring.Packet) : d.advance p = d.setRing (d.ring.advance p.length) := rfl

theorem retire_eq : d.retire = d.setRing d.ring.retireEntry := rfl

theorem updateThreshold_eq :
    d.updateThreshold =
      if d.ring.entryCount < d.ring.threshold then d.setStatus { d.status with ringFull := false }
      else d := rfl

theorem countEntry_eq :
    d.countEntry =
      if d.ring.countEntry.threshold ≠ 0 &&
          d.ring.countEntry.entryCount ≥ d.ring.countEntry.threshold then
        (d.setRing d.ring.countEntry).setStatus { d.status with ringFull := true }
      else d.setRing d.ring.countEntry := rfl

theorem ring_updateThreshold : d.updateThreshold.ring = d.ring := by
  rw [updateThreshold_eq]
  split <;> rfl

theorem swap_updateThreshold : d.updateThreshold.swap = d.swap := by
  rw [updateThreshold_eq]
  split <;> rfl

theorem memory_updateThreshold : d.updateThreshold.memory = d.memory := by
  rw [updateThreshold_eq]
  split <;> rfl

theorem ring_countEntry : d.countEntry.ring = d.ring.countEntry := by
  rw [countEntry_eq]
  split <;> rfl

theorem swap_countEntry : d.countEntry.swap = d.swap := by
  rw [countEntry_eq]
  split <;> rfl

theorem memory_countEntry : d.countEntry.memory = d.memory := by
  rw [countEntry_eq]
  split <;> rfl

end Parts

end Coprocessor

/-! ### Registers that set up the ring -/

/-- The register sets up the ring: the init registers 3 to 5 and the control registers do. -/
def Register.controlsRing (r : Register) : Bool :=
  (0x93 ≤ r.val && r.val ≤ 0x95) || (0xE8 ≤ r.val && r.val ≤ 0xED)

/-- The effect of a write reaches the ring. -/
def Effect.controlsRing : Effect → Bool
  | .init n => 3 ≤ n.val
  | .ring _ => true
  | _ => false

theorem Register.controlsRing_effect (r : Register) :
    r.descriptor.effect.controlsRing = r.controlsRing := by
  revert r; decide +kernel

/-- The effect of a write is a fast fill. -/
def Effect.fills (e : Effect) : Bool := e = .command .fastFill

theorem Register.fills_effect (r : Register) :
    r.descriptor.effect.fills = decide (r = Register.fastFillCommand) := by
  revert r; decide +kernel

end PumaBoard
