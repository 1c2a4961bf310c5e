import PumaBoard.Proofs.Coprocessor.Calls
import PumaBoard.Proofs.Ring.Step
import PumaBoard.Proofs.Word.Lanes

/-!
Narrow accesses as accesses to words. A narrow write is a write of the word around it, with some of
its lanes replaced; a word written in halfwords or in bytes is written as many times.
-/

namespace PumaBoard.Coprocessor

/-! ### Aligned addresses -/

section Addresses

variable (addr : UInt32)

theorem toNat_aligned : (aligned addr).toNat = addr.toNat / 4 * 4 := Word.toNat_alignWord addr

theorem aligned_aligned : aligned (aligned addr) = aligned addr := by
  apply UInt32.toNat_inj.mp
  rw [toNat_aligned, toNat_aligned]
  omega

theorem byteShift_eq : byteShift addr = UInt32.ofNat (addr.toNat % 4) * 8 := by
  have h : addr &&& 3 = UInt32.ofNat (addr.toNat % 4) := by
    rw [Word.and_eq addr 3 2 rfl, Word.bitsAt, Nat.pow_zero, Nat.div_one]
    rfl
  rw [byteShift, h]

theorem halfShift_eq (heven : addr.toNat % 2 = 0) :
    halfShift addr = UInt32.ofNat (addr.toNat % 4) * 8 := by
  have h : addr &&& 2 = UInt32.ofNat (addr.toNat % 4) := by
    apply UInt32.toNat_inj.mp
    rw [UInt32.toNat_and, UInt32.toNat_ofNat_of_lt' (by simp only [UInt32.size]; omega)]
    show addr.toNat &&& 2 ^ 1 = _
    rw [Nat.and_two_pow, Nat.testBit_eq_decide_div_mod_eq]
    rcases Nat.mod_two_eq_zero_or_one (addr.toNat / 2 ^ 1) with h | h
    · rw [h]
      show 0 * 2 ^ 1 = _
      omega
    · rw [h]
      show 1 * 2 ^ 1 = _
      omega
  rw [halfShift, h]

end Addresses

/-! ### The layout of the aperture -/

section Layout

variable (d : Coprocessor)

theorem layout_drainUpTo (n : Nat) : (d.drainUpTo n).layout = d.layout := by
  induction n generalizing d with
  | zero => rfl
  | succ n ih =>
    rw [drainUpTo]
    split
    · cases d.fetch with
      | error notice => rfl
      | ok packet =>
        refine (ih _).trans ?_
        show (d.executePacket packet.1 packet.2).layout = d.layout
        rw [executePacket_eq, layout_writePages]
        exact d.layout_noteAny _
    · rfl

theorem layout_drain : d.drain.layout = d.layout := by
  rw [drain]
  split
  · rw [← d.layout_drainUpTo]
    exact congrArg (·.mode.layout) (memory_updateThreshold _)
  · rfl

theorem layout_countEntry : d.countEntry.layout = d.layout :=
  congrArg (·.mode.layout) d.memory_countEntry

theorem layout_writeRing (offset v : UInt32) : (d.writeRing offset v).layout = d.layout := by
  unfold writeRing
  split
  · split
    · dsimp only
      split
      · rfl
      · split
        · rw [layout_drain, layout_countEntry]
          rfl
        · rfl
    · rfl
  · rfl

theorem layout_flushPage (page : UInt32) : (d.flushPage page).layout = d.layout := by
  obtain hb | ⟨b, hb⟩ := Option.eq_none_or_eq_some d.backend
  · rw [flushPage, hb]
  · rw [flushPage_eq d hb]
    rfl

/-- No write of a word moves a region of the aperture. -/
theorem layout_write32 (addr v : UInt32) : (d.write32 addr v).layout = d.layout := by
  rw [write32]
  split
  · cases d.layout.decode addr with
    | frame offset =>
      simp only [writeRegion]
      split
      · exact d.layout_writeRing offset v
      · rfl
    | register r => exact congrArg Aperture.Mode.layout (mode_writeRegister ..)
    | texture offset => exact layout_flushPage _ _
    | invalid => rfl
  · rfl

end Layout

/-! ### Narrow writes -/

section Narrow

variable {d : Coprocessor} {addr : UInt32} (haddr : addr.toNat % 4 = 0)

theorem read32_of_decode (h : d.layout.decode addr ≠ .invalid) :
    d.read32 addr = (d.peek addr, d) := by
  simp [read32, h]

include haddr

theorem toNat_add_lane {j : Nat} (hj : j < 4) :
    (addr + UInt32.ofNat j).toNat = addr.toNat + j := by
  have hlt := addr.toNat_lt
  rw [UInt32.toNat_add, UInt32.toNat_ofNat_of_lt' (by simp only [UInt32.size]; omega)]
  omega

theorem aligned_add_lane {j : Nat} (hj : j < 4) : aligned (addr + UInt32.ofNat j) = addr := by
  apply UInt32.toNat_inj.mp
  rw [toNat_aligned, toNat_add_lane haddr hj]
  omega

variable (h : d.layout.decode addr ≠ .invalid) (v : UInt32)

include h

theorem write8_lane {j : Nat} (hj : j < 4) :
    d.write8 (addr + UInt32.ofNat j) (Word.lane v (UInt32.ofNat j)) =
      d.write32 addr (Word.splice (d.peek addr) v j 1) := by
  have hlane : (addr + UInt32.ofNat j).toNat % 4 = j := by
    rw [toNat_add_lane haddr hj]
    omega
  rw [write8, aligned_add_lane haddr hj, read32_of_decode h, byteShift_eq, hlane]
  exact congrArg (d.write32 addr) (Word.insertBits_byte _ v hj)

theorem write16_half {j : Nat} (hj : j = 0 ∨ j = 2) :
    d.write16 (addr + UInt32.ofNat j) (v >>> (UInt32.ofNat j * 8)).toUInt16 =
      d.write32 addr (Word.splice (d.peek addr) v j 2) := by
  have hlt : j < 4 := by omega
  have hlane : (addr + UInt32.ofNat j).toNat % 4 = j := by
    rw [toNat_add_lane haddr hlt]
    omega
  have heven : (addr + UInt32.ofNat j).toNat % 2 = 0 := by omega
  rw [write16, aligned_add_lane haddr hlt, read32_of_decode h, halfShift_eq _ heven, hlane]
  exact congrArg (d.write32 addr) (Word.insertBits_half _ v hj)

omit v

theorem write8_eq {j : Nat} (hj : j < 4) (b : UInt8) :
    d.write8 (addr + UInt32.ofNat j) b = d.write32 addr (Word.replaceByte (d.peek addr) j b) := by
  have hwrite := write8_lane haddr h (Word.ofLanes b b b b) hj
  rwa [Word.lane_ofLanes (fun _ => b) hj] at hwrite

theorem write16_eq {j : Nat} (hj : j = 0 ∨ j = 2) (v : UInt16) :
    d.write16 (addr + UInt32.ofNat j) v =
      d.write32 addr (Word.replaceHalf (d.peek addr) j v) := by
  have hwrite := write16_half haddr h
    (Word.ofLanes v.toUInt8 (v >>> 8).toUInt8 v.toUInt8 (v >>> 8).toUInt8) hj
  rwa [Word.shift_ofLanes v hj] at hwrite

end Narrow

/-! ### Words in parts -/

/-- Writes a word as two halfwords, the low one first. -/
def write32Halves (d : Coprocessor) (addr v : UInt32) : Coprocessor :=
  [0, 2].foldl
    (fun d j => d.write16 (addr + UInt32.ofNat j) (v >>> (UInt32.ofNat j * 8)).toUInt16) d

/-- Writes a word as four bytes, the lowest one first. -/
def write32Bytes (d : Coprocessor) (addr v : UInt32) : Coprocessor :=
  [0, 1, 2, 3].foldl
    (fun d j => d.write8 (addr + UInt32.ofNat j) (Word.lane v (UInt32.ofNat j))) d

/-- Writes a word once for every part, a first lane and a number of lanes: the lanes of the part
are put in place of those that the word has by then. -/
def writeParts (d : Coprocessor) (addr v : UInt32) (parts : List (Nat × Nat)) : Coprocessor :=
  parts.foldl (fun d part => d.write32 addr (Word.splice (d.peek addr) v part.1 part.2)) d

section Parts

variable {d : Coprocessor} {addr : UInt32} (haddr : addr.toNat % 4 = 0)
  (h : d.layout.decode addr ≠ .invalid) (v : UInt32)

include haddr h

theorem foldl_write16 {js : List Nat} (hjs : ∀ j ∈ js, j = 0 ∨ j = 2) :
    js.foldl
        (fun d j => d.write16 (addr + UInt32.ofNat j) (v >>> (UInt32.ofNat j * 8)).toUInt16) d =
      d.writeParts addr v (js.map (·, 2)) := by
  induction js generalizing d with
  | nil => rfl
  | cons j js ih =>
    obtain ⟨hj, hjs⟩ := List.forall_mem_cons.mp hjs
    rw [List.foldl_cons, write16_half haddr h v hj, ih (by rwa [layout_write32]) hjs]
    rfl

theorem foldl_write8 {js : List Nat} (hjs : ∀ j ∈ js, j < 4) :
    js.foldl (fun d j => d.write8 (addr + UInt32.ofNat j) (Word.lane v (UInt32.ofNat j))) d =
      d.writeParts addr v (js.map (·, 1)) := by
  induction js generalizing d with
  | nil => rfl
  | cons j js ih =>
    obtain ⟨hj, hjs⟩ := List.forall_mem_cons.mp hjs
    rw [List.foldl_cons, write8_lane haddr h v hj, ih (by rwa [layout_write32]) hjs]
    rfl

theorem write32Halves_eq : d.write32Halves addr v = d.writeParts addr v [(0, 2), (2, 2)] :=
  foldl_write16 haddr h v (by decide)

theorem write32Bytes_eq :
    d.write32Bytes addr v = d.writeParts addr v [(0, 1), (1, 1), (2, 1), (3, 1)] :=
  foldl_write8 haddr h v (by decide)

end Parts

end PumaBoard.Coprocessor
