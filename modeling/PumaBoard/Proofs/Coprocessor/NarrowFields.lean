import PumaBoard.Proofs.Coprocessor.Banks
import PumaBoard.Proofs.Coprocessor.NarrowAccess

/-!
Narrow writes to the integer bank. A narrow write puts its bytes into the word that the register
window shows, and a block of the bank shows the low 24 bits of its registers, sign-extended. The
colours in the block have fields of 24 bits, which do not tell. The depth stands among them with
fields of a whole word, and there a narrow write replaces the top byte by the sign.
-/

namespace PumaBoard

/-! ### What the registers of the bank show -/

section Registers

variable (f : Triangle.Field)

theorem Register.read_register :
    f.register.descriptor.source = .stored ∧
      f.register.descriptor.signExtended = f.register.readsSigned :=
  Triangle.Field.of_index (by decide) f

/-- The field is a start value or a gradient of the depth. -/
def Triangle.Field.isDepth : Triangle.Field → Bool
  | .start q | .gradient q _ => q = .z
  | .vertex .. => false

/-- The fields of the block that reads back sign-extended are those of the depth and fields of 24
bits. -/
theorem Triangle.Field.format_of_readsSigned (h : f.register.readsSigned = true) :
    f.isDepth = true ∨ f.format = .signed24 ∨ f.format = .unsigned24 := by
  revert h f
  exact of_index (by decide)

theorem Triangle.Field.readsSigned_of_isDepth (h : f.isDepth = true) :
    f.register.readsSigned = true := by
  revert h f
  exact of_index (by decide)

end Registers

/-- A field of 24 bits depends on the low 24 bits of what is written to it. -/
theorem Triangle.Format.store_congr {format : Triangle.Format}
    (hformat : format = .signed24 ∨ format = .unsigned24) {v w : UInt32}
    (h : v.toNat % 2 ^ 24 = w.toNat % 2 ^ 24) : format.store v = format.store w := by
  rcases hformat with rfl | rfl
  · exact Word.signExtend24_congr h
  · exact Word.low24_congr h

namespace Coprocessor

/-! ### Words written to the bank -/

section Bank

variable {d : Coprocessor} {f : Triangle.Field}

theorem triangle_writeRegister (d : Coprocessor) (f g : Triangle.Field) (v : UInt32) :
    (d.writeRegister f.register v).triangle.get g =
      if f = g then f.format.store v else d.triangle.get g := by
  refine (congrArg (·.triangle.get g) (banks_writeRegister d f.register v)).trans ?_
  rw [Banks.write, Banks.triangle_affect, (Register.descriptor_register f).1]
  simp only [Effect.triangle.injEq]
  split
  · next h => rw [h]
  · rfl

/-- The word that the register window shows for a field. -/
theorem peek_field (he : d.enabled = true) {addr : UInt32}
    (haddr : d.layout.decode addr = .register f.register) :
    d.peek addr =
      if f.register.readsSigned then Word.signExtend24 (d.regs.get f.register)
      else d.regs.get f.register := by
  obtain ⟨hsource, hsigned⟩ := Register.read_register f
  rw [peek, if_pos he, haddr, regionValue, hsigned, readRegister, hsource]

theorem write32_field (he : d.enabled = true) {addr : UInt32}
    (haddr : d.layout.decode addr = .register f.register) (v : UInt32) :
    d.write32 addr v = d.writeRegister f.register v := by
  rw [write32, if_pos he, haddr]
  rfl

end Bank

/-- The word into which a narrow write of the register of a field puts its bytes: the stored one,
but the low 24 bits of it, sign-extended, for a field of the depth. -/
def narrowBase (d : Coprocessor) (f : Triangle.Field) : UInt32 :=
  if f.isDepth then Word.signExtend24 (d.regs.get f.register) else d.regs.get f.register

/-- The integer bank of the second coprocessor is that of the first one with `v` written to the
register of a field, and the other fields are as they were. -/
structure SetsField (d : Coprocessor) (f : Triangle.Field) (v : UInt32) (e : Coprocessor) :
    Prop where
  field : e.triangle.get f = (d.writeRegister f.register v).triangle.get f
  others : ∀ g, g ≠ f → e.triangle.get g = d.triangle.get g

section Narrow

variable {d : Coprocessor} {f : Triangle.Field} {addr : UInt32}

/-- Lanes put into the word that the register window shows come to the same as lanes put into the
stored word, but for the depth. -/
theorem store_splice (he : d.enabled = true)
    (haddr : d.layout.decode addr = .register f.register) (v : UInt32) (j n : Nat) :
    f.format.store (Word.splice (d.peek addr) v j n) =
      f.format.store (Word.splice (d.narrowBase f) v j n) := by
  rw [peek_field he haddr, narrowBase]
  by_cases hdepth : f.isDepth = true
  · rw [if_pos hdepth, if_pos (f.readsSigned_of_isDepth hdepth)]
  · rw [if_neg hdepth]
    split
    · next hsigned =>
      have hformat := (f.format_of_readsSigned hsigned).resolve_left hdepth
      exact Triangle.Format.store_congr hformat
        (Word.splice_mod (Word.toNat_signExtend24_mod _) v j n)
    · rfl

theorem setsField_splice (he : d.enabled = true)
    (haddr : d.layout.decode addr = .register f.register) (v : UInt32) (j n : Nat) :
    d.SetsField f (Word.splice (d.narrowBase f) v j n)
      (d.write32 addr (Word.splice (d.peek addr) v j n)) := by
  rw [write32_field he haddr]
  refine ⟨?_, fun g hg => ?_⟩
  · rw [triangle_writeRegister, triangle_writeRegister, if_pos rfl, if_pos rfl,
      store_splice he haddr]
  · rw [triangle_writeRegister, if_neg hg.symm]

/-- **Narrow writes keep the other bytes of a field.** A byte or a halfword written to the dword of
a register of the integer bank sets its field as a write of the stored word with these lanes
replaced does, and no other field. For the depth it is the word that the register window shows,
which has only the low 24 bits of the stored one. -/
theorem narrow_write_field (he : d.enabled = true) (halign : addr.toNat % 4 = 0)
    (haddr : d.layout.decode addr = .register f.register) :
    (∀ j < 4, ∀ b : UInt8,
      d.SetsField f (Word.replaceByte (d.narrowBase f) j b)
        (d.write8 (addr + UInt32.ofNat j) b)) ∧
    ∀ j, j = 0 ∨ j = 2 → ∀ h : UInt16,
      d.SetsField f (Word.replaceHalf (d.narrowBase f) j h)
        (d.write16 (addr + UInt32.ofNat j) h) := by
  have hvalid : d.layout.decode addr ≠ .invalid := by
    rw [haddr]
    exact Aperture.Region.noConfusion
  refine ⟨fun j hj b => ?_, fun j hj h => ?_⟩
  · rw [write8_eq halign hvalid hj]
    exact setsField_splice he haddr _ j 1
  · rw [write16_eq halign hvalid hj]
    exact setsField_splice he haddr _ j 2

end Narrow

/-- A start value of the depth that needs all of its 32 bits. -/
def deepStart : Coprocessor := (create .mb8).writeIndex 0x11 0x12345678

theorem narrow_write_field_depth :
    deepStart.enabled = true ∧ (0x411000 : UInt32).toNat % 4 = 0 ∧
      deepStart.layout.decode 0x411000 = .register (Triangle.Field.start .z).register ∧
      (deepStart.write16 0x411002 0xBEEF).triangle.get (.start .z) = 0xBEEF5678 := by
  have he : deepStart.enabled = true := by decide
  have haddr : deepStart.layout.decode 0x411000 = .register (Triangle.Field.start .z).register := by
    decide
  refine ⟨he, by decide, haddr, ?_⟩
  have hset := ((narrow_write_field he (by decide) haddr).2 2 (.inr rfl) 0xBEEF).field
  refine hset.trans ?_
  decide

/-- The top byte of a start value of the depth is lost when its lowest byte is written. -/
theorem narrow_write_loses_depth :
    deepStart.Reachable ∧ deepStart.enabled = true ∧
      deepStart.layout.decode 0x411000 = .register 0x11 ∧
      (deepStart.write8 0x411000 0xAB).triangle.get (.start .z) = 0x003456AB ∧
      (deepStart.writeIndex 0x11
        (Word.replaceByte (deepStart.storedIndex 0x11) 0 0xAB)).triangle.get (.start .z) =
          0x123456AB := by
  refine ⟨.perform (.writeIndex 0x11 0x12345678) rfl (.create .mb8), ?_⟩
  decide

end Coprocessor

end PumaBoard
