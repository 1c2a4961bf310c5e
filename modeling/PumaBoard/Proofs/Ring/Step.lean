import PumaBoard.Proofs.Coprocessor.Backdrop
import PumaBoard.Proofs.Coprocessor.Frame
import PumaBoard.Proofs.Ring.Geometry

/-!
One step of a drain. The packet at the read pointer is a list of page writes; when none of them
sets up the ring, the step carries them out, moves the read pointer past the packet and retires
the entry.
-/

namespace PumaBoard

/-- A write of the page does not set up the ring. -/
def Aperture.Layout.SparesRing (l : Aperture.Layout) (page : UInt32) : Prop :=
  ∀ r, l.page? page = some r → r.controlsRing = false

namespace Coprocessor

/-! ### The ring and the status flags under page writes -/

section Pages

variable (d : Coprocessor)

theorem setRing_eq_against (r : Ring) : d.setRing r = d.against { ring := fun _ => r } := by
  simp only [setRing, against, Array.empty_append, id]

theorem setStatus_eq_against (s : Status) : d.setStatus s = d.against { status := fun _ => s } := by
  simp only [setStatus, against, Array.empty_append, id]

theorem layout_writePage (page v : UInt32) : (d.writePage page v).layout = d.layout := by
  unfold writePage
  split
  · exact congrArg Aperture.Mode.layout (mode_writeRegister ..)
  · rfl

theorem enabled_writePage (page v : UInt32) : (d.writePage page v).enabled = d.enabled := by
  unfold writePage
  split
  · exact enabled_writeRegister ..
  · rfl

theorem layout_writePages (ws : List (UInt32 × UInt32)) : (d.writePages ws).layout = d.layout := by
  induction ws generalizing d with
  | nil => rfl
  | cons w ws ih => exact (ih _).trans (layout_writePage ..)

theorem enabled_writePages (ws : List (UInt32 × UInt32)) :
    (d.writePages ws).enabled = d.enabled := by
  induction ws generalizing d with
  | nil => rfl
  | cons w ws ih => exact (ih _).trans (enabled_writePage ..)

variable {d}

theorem against_writePage {page : UInt32} (h : d.layout.SparesRing page) (b : Backdrop)
    (v : UInt32) : (d.against b).writePage page v = (d.writePage page v).against b := by
  unfold writePage
  rw [against_layout]
  cases hr : d.layout.page? page with
  | none => exact against_note ..
  | some r => exact against_writeRegister d b (h r hr) v

theorem against_writePages {ws : List (UInt32 × UInt32)} (h : ∀ w ∈ ws, d.layout.SparesRing w.1)
    (b : Backdrop) : (d.against b).writePages ws = (d.writePages ws).against b := by
  induction ws generalizing d with
  | nil => rfl
  | cons w ws ih =>
    obtain ⟨hw, hws⟩ := List.forall_mem_cons.mp h
    have hl := layout_writePage d w.1 w.2
    exact (congrArg (writePages · ws) (against_writePage hw b w.2)).trans (ih (by rwa [hl]))

variable {ws : List (UInt32 × UInt32)} (h : ∀ w ∈ ws, d.layout.SparesRing w.1)

include h

theorem setRing_writePages (r : Ring) :
    (d.setRing r).writePages ws = (d.writePages ws).setRing r := by
  rw [setRing_eq_against, setRing_eq_against, against_writePages h]

theorem setStatus_writePages (s : Status) :
    (d.setStatus s).writePages ws = (d.writePages ws).setStatus s := by
  rw [setStatus_eq_against, setStatus_eq_against, against_writePages h]

theorem ring_writePages : (d.writePages ws).ring = d.ring :=
  congrArg (·.ring) (show d.writePages ws = _ from setRing_writePages h d.ring)

theorem status_writePages : (d.writePages ws).status = d.status :=
  congrArg (·.status) (show d.writePages ws = _ from setStatus_writePages h d.status)

end Pages

/-! ### Packets as page writes -/

/-- The page writes of a packet. -/
def packetWrites (d : Coprocessor) : Ring.Packet → List (UInt32 × UInt32)
  | .nop => []
  | .single page v => [(page, v)]
  | .group base mask => d.groupWrites base mask

/-- What the execution of a packet has to tell: a group without writes is worth a notice. -/
def packetNotice (header : UInt32) : Ring.Packet → Option Notice
  | .group _ mask => if Word.population mask = 0 then some (.groupEmpty header) else none
  | _ => none

theorem groupWrites_empty (d : Coprocessor) (base : UInt32) {mask : UInt32}
    (h : Word.population mask = 0) : d.groupWrites base mask = [] := by
  have h0 : (Word.setBits mask).length = 0 := by rw [← Word.toNat_population, h]; rfl
  rw [groupWrites, List.length_eq_zero_iff.mp h0]; rfl

theorem executePacket_eq (d : Coprocessor) (header : UInt32) (p : Ring.Packet) :
    d.executePacket header p =
      ((d.noteAny (packetNotice header p)).advance p).writePages (d.packetWrites p) := by
  cases p with
  | nop | single => rfl
  | group base mask =>
    rw [executePacket_group, packetNotice, packetWrites]
    split
    · next h => rw [groupWrites_empty d base h]; rfl
    · rfl

/-! ### Steps -/

section Steps

variable {d : Coprocessor}

theorem fetch_eq {header data : UInt32} (hr : d.ring.readPtr < d.ring.words)
    (hw : d.ring.words ≠ 0)
    (hh : Bytes.read32? d.memory.frame (d.ring.place d.ring.readPtr.toNat) = some header)
    (hd : Bytes.read32? d.memory.frame (d.ring.place (d.ring.readPtr.toNat + 1)) = some data) :
    d.fetch = .ok (header, .decode header data) := by
  have h0 : d.ringWord? 0 = some header := (ringWord?_eq hw 0).trans hh
  have h1 : d.ringWord? 1 = some data := (ringWord?_eq hw 1).trans hd
  rw [fetch, if_neg (UInt32.not_le.mpr hr), h0, h1]

theorem drainUpTo_empty (h : d.ring.entryCount = 0) (n : Nat) : d.drainUpTo n = d := by
  cases n with
  | zero => rfl
  | succ n => rw [drainUpTo, h]; simp

/-- **One step of a drain.** -/
theorem drainUpTo_step {header : UInt32} {p : Ring.Packet} (he : d.ring.enabled = true)
    (hc : d.ring.entryCount ≠ 0) (hf : d.fetch = .ok (header, p))
    (hs : ∀ w ∈ d.packetWrites p, d.layout.SparesRing w.1) (n : Nat) :
    d.drainUpTo (n + 1) =
      (((d.noteAny (packetNotice header p)).writePages (d.packetWrites p)).setRing
        (d.ring.advance p.length).retireEntry).drainUpTo n := by
  have hpos : d.ring.entryCount > 0 := UInt32.pos_iff_ne_zero.mpr hc
  rw [← d.layout_noteAny (packetNotice header p)] at hs
  rw [drainUpTo, if_pos (by simp [he, hpos]), hf]
  dsimp only
  rw [executePacket_eq, advance_eq, ring_noteAny, setRing_writePages hs, retire_eq]
  rfl

end Steps

end Coprocessor

end PumaBoard
