import PumaBoard.Proofs.Coprocessor.Frame
import PumaBoard.Proofs.Coprocessor.Invariant
import PumaBoard.Proofs.Coprocessor.Restore
import PumaBoard.Proofs.Triangle.Places

/-!
The setup banks and the fog table repeat what the register file holds. A write changes both sides
at once; nothing else but a reset and a restore changes either of them, and these replace all four
together.
-/

namespace PumaBoard

/-! ### The registers of the banks -/

/-- The register that sets a field of the integer bank. -/
def Triangle.Field.register (f : Triangle.Field) : Register := ⟨0x02 + f.index, by omega⟩

/-- The register that sets a field of the floating point bank. -/
def Triangle.Field.floatRegister (f : Triangle.Field) : Register := ⟨0x22 + f.index, by omega⟩

/-- The register that sets a pair of fog table entries. -/
def Fog.pairRegister (n : Fin 32) : Register := ⟨0x70 + n, by omega⟩

namespace Register

theorem descriptor_register (f : Triangle.Field) :
    f.register.descriptor.effect = .triangle f ∧ f.register.descriptor.mask = 0xFFFFFFFF :=
  Triangle.Field.of_index (by decide) f

theorem descriptor_floatRegister (f : Triangle.Field) :
    f.floatRegister.descriptor.effect = .floatTriangle f ∧
      f.floatRegister.descriptor.mask = 0xFFFFFFFF :=
  Triangle.Field.of_index (by decide) f

theorem descriptor_pairRegister (n : Fin 32) :
    (Fog.pairRegister n).descriptor.effect = .fog n ∧
      (Fog.pairRegister n).descriptor.mask = 0xFFFFFFFF := by
  revert n; decide

end Register

/-- The register that sets what an effect sets in the banks, if it sets anything there. -/
def Effect.register? : Effect → Option Register
  | .triangle f => some f.register
  | .floatTriangle f => some f.floatRegister
  | .fog n => some (Fog.pairRegister n)
  | _ => Option.none

/-- No two registers set the same place of the banks. -/
theorem Register.eq_of_register? {r s : Register}
    (h : r.descriptor.effect.register? = some s) : r = s := by
  have all : ∀ r : Register, r.descriptor.effect.register? = none ∨
      r.descriptor.effect.register? = some r := by decide +kernel
  -- each register sets its own place or none
  rcases all r with hn | hr
  · rw [hn] at h; cases h
  · rw [hr] at h; exact Option.some.inj h

/-! ### The banks -/

/-- The register file and what repeats it. -/
structure Banks where
  regs : RegisterFile
  triangle : Triangle.Setup
  floatTriangle : Triangle.FloatSetup
  fog : Fog.Table

namespace Banks

/-- The part of an effect that changes the banks. -/
def affect (b : Banks) (e : Effect) (v : UInt32) : Banks :=
  match e with
  | .triangle f => { b with triangle := b.triangle.set f v }
  | .floatTriangle f => { b with floatTriangle := b.floatTriangle.set f v }
  | .fog n => { b with fog := b.fog.setPair n v }
  | _ => b

/-- A write of a register, as far as the banks are concerned. -/
def write (b : Banks) (r : Register) (v : UInt32) : Banks :=
  { b with regs := b.regs.set r (v &&& r.descriptor.mask) }.affect r.descriptor.effect v

/-- The setup banks and the fog table repeat what the register file holds. -/
structure Agree (b : Banks) : Prop where
  triangle : ∀ f, b.triangle.get f = f.format.store (b.regs.get f.register)
  floatTriangle : ∀ f, b.floatTriangle.get f = b.regs.get f.floatRegister
  fog : ∀ n : Fin 32,
    b.fog[2 * n.val]? = some (.ofHalf (b.regs.get (Fog.pairRegister n))) ∧
      b.fog[2 * n.val + 1]? = some (.ofHalf (b.regs.get (Fog.pairRegister n) >>> 16))

end Banks

/-! ### Places of the banks -/

theorem Fog.Table.getElem?_setPair (t : Fog.Table) (m n : Fin 32) (w : UInt32) :
    (t.setPair m w)[2 * n.val]? = (if m = n then some (.ofHalf w) else t[2 * n.val]?) ∧
      (t.setPair m w)[2 * n.val + 1]? =
        if m = n then some (.ofHalf (w >>> 16)) else t[2 * n.val + 1]? := by
  simp only [setPair, Vector.getElem?_set, Fin.ext_iff]
  constructor <;> grind

/-! ### Writes keep the agreement -/

theorem Word.and_full (w : UInt32) : w &&& 0xFFFFFFFF = w := UInt32.and_neg_one

namespace Register

variable {r : Register}

theorem effect_eq_triangle {f : Triangle.Field} :
    r.descriptor.effect = .triangle f ↔ r = f.register :=
  ⟨fun h => eq_of_register? (by rw [h]; rfl), fun h => h ▸ (descriptor_register f).1⟩

theorem effect_eq_floatTriangle {f : Triangle.Field} :
    r.descriptor.effect = .floatTriangle f ↔ r = f.floatRegister :=
  ⟨fun h => eq_of_register? (by rw [h]; rfl), fun h => h ▸ (descriptor_floatRegister f).1⟩

theorem effect_eq_fog {n : Fin 32} : r.descriptor.effect = .fog n ↔ r = Fog.pairRegister n :=
  ⟨fun h => eq_of_register? (by rw [h]; rfl), fun h => h ▸ (descriptor_pairRegister n).1⟩

end Register

namespace Banks

section Affect

variable (b : Banks) (e : Effect) (v : UInt32)

theorem regs_affect : (b.affect e v).regs = b.regs := by
  cases e <;> rfl

theorem triangle_affect (f : Triangle.Field) :
    (b.affect e v).triangle.get f =
      if e = .triangle f then f.format.store v else b.triangle.get f := by
  cases e with
  | triangle g =>
    simp only [affect, Triangle.Setup.get_set, Effect.triangle.injEq]
    split
    · next h => rw [h]
    · rfl
  | _ => simp [affect]

theorem floatTriangle_affect (f : Triangle.Field) :
    (b.affect e v).floatTriangle.get f =
      if e = .floatTriangle f then v else b.floatTriangle.get f := by
  cases e with
  | floatTriangle g => simp only [affect, Triangle.FloatSetup.get_set, Effect.floatTriangle.injEq]
  | _ => simp [affect]

theorem fog_affect (n : Fin 32) :
    (b.affect e v).fog[2 * n.val]? =
        (if e = .fog n then some (.ofHalf v) else b.fog[2 * n.val]?) ∧
      (b.affect e v).fog[2 * n.val + 1]? =
        if e = .fog n then some (.ofHalf (v >>> 16)) else b.fog[2 * n.val + 1]? := by
  cases e with
  | fog m => simp only [affect, Fog.Table.getElem?_setPair, Effect.fog.injEq, and_self]
  | _ => simp [affect]

end Affect

variable {b : Banks}

theorem regs_write (b : Banks) (r s : Register) (v : UInt32) :
    (b.write r v).regs.get s = if r = s then v &&& r.descriptor.mask else b.regs.get s := by
  rw [write, regs_affect, RegisterFile.get_set]

/-- **A write changes the register file and what repeats it together.** -/
theorem Agree.write (h : b.Agree) (r : Register) (v : UInt32) : (b.write r v).Agree where
  triangle f := by
    rw [regs_write, Banks.write, triangle_affect]
    simp only [Register.effect_eq_triangle]
    split
    · next hr => rw [hr, (Register.descriptor_register f).2, Word.and_full]
    · exact h.triangle f
  floatTriangle f := by
    rw [regs_write, Banks.write, floatTriangle_affect]
    simp only [Register.effect_eq_floatTriangle]
    split
    · next hr => rw [hr, (Register.descriptor_floatRegister f).2, Word.and_full]
    · exact h.floatTriangle f
  fog n := by
    rw [regs_write, Banks.write, (fog_affect ..).1, (fog_affect ..).2]
    simp only [Register.effect_eq_fog]
    split
    · next hr => rw [hr, (Register.descriptor_pairRegister n).2, Word.and_full]; exact ⟨rfl, rfl⟩
    · exact h.fog n

end Banks

/-! ### The banks of the coprocessor -/

namespace Coprocessor

/-- The register file of the coprocessor and what repeats it. -/
def banks (d : Coprocessor) : Banks := ⟨d.regs, d.triangle, d.floatTriangle, d.fog⟩

theorem frame_banks (Q : Banks → Prop) : Frame fun d => Q d.banks where
  note _ h := h
  swap _ h := h
  ring _ h := h
  submit :=
    submit_of (fun d => Q d.banks) (fun _ h => h) (fun _ h => h) (fun _ h => h) fun h => h

theorem banks_fastFill (d : Coprocessor) : d.fastFill.banks = d.banks := by
  rw [fastFill_eq]; split <;> rfl

theorem banks_writeRegister (d : Coprocessor) (r : Register) (v : UInt32) :
    (d.writeRegister r v).banks = d.banks.write r v := by
  have F := frame_banks (· = (d.store r v).banks)
  rw [writeRegister_eq, Banks.write]
  cases r.descriptor.effect with
  | none | triangle | floatTriangle | fog => rfl
  | init n => exact F.writeInit n v rfl
  | ring c => exact F.writeRingControl c v rfl
  | command c => exact F.execute (.inr fun d h => (banks_fastFill d).trans h) rfl

/-! ### Every reachable state -/

theorem agree_powerOn : (Banks.mk powerOnRegisters .zero .zero .zero).Agree where
  triangle := Triangle.Field.of_index (by decide)
  floatTriangle := Triangle.Field.of_index (by decide)
  fog := by decide

theorem agree_invariant : Invariant fun d => d.banks.Agree where
  note _ h := h
  call _ h := h
  memory _ h := h
  switch _ h := h
  window _ h := h
  backend _ h := h
  request _ h := h
  grant _ h := h
  advance _ h := h
  retire h := h
  countEntry h := by rw [countEntry_eq]; split <;> exact h
  updateThreshold h := by rw [updateThreshold_eq]; split <;> exact h
  submit := (frame_banks Banks.Agree).submit
  swapBuffers := (frame_banks Banks.Agree).swapBuffers
  vsync := (frame_banks Banks.Agree).vsync
  write _ _ h := by rw [banks_writeRegister]; exact h.write _ _
  reset _ := agree_powerOn

theorem agree_reachable {d : Coprocessor} (hd : d.Reachable) : d.banks.Agree := by
  refine agree_invariant.reachable (fun _ => agree_powerOn) ?_ hd
  intro d e r _ he hr
  rw [eq_of_restore hr]
  exact he

theorem storedIndex_ofNat (d : Coprocessor) {n : Nat} (h : n < 256) :
    d.storedIndex (.ofNat n) = d.regs.get ⟨n, h⟩ := by
  have hn : (UInt32.ofNat n).toNat = n := UInt32.toNat_ofNat_of_lt (Nat.lt_trans h (by decide))
  simp only [storedIndex, register?, hn, h, dite_true]

/-- **The banks follow the stored registers.** In every reachable state each field of the integer
bank is what its format leaves of its stored register, each field of the floating point bank is
its stored register, and each pair of fog table entries is the two halves of its stored
register. -/
theorem banks_follow_storage {d : Coprocessor} (hd : d.Reachable) :
    (∀ (i : Fin 30) (t : Triangle.Setup),
      d.triangle.get (.ofIndex i) =
        (t.set (.ofIndex i) (d.storedIndex (.ofNat (0x02 + i)))).get (.ofIndex i)) ∧
    (∀ i : Fin 30, d.floatTriangle.get (.ofIndex i) = d.storedIndex (.ofNat (0x22 + i))) ∧
    ∀ n : Fin 32,
      d.fog[2 * n.val]? = some (.ofHalf (d.storedIndex (.ofNat (0x70 + n)))) ∧
      d.fog[2 * n.val + 1]? = some (.ofHalf (d.storedIndex (.ofNat (0x70 + n)) >>> 16)) := by
  have h := agree_reachable hd
  refine ⟨fun i t => ?_, fun i => ?_, fun n => ?_⟩
  · have hi := h.triangle (.ofIndex i)
    simp only [Triangle.Field.register, Triangle.Field.index_ofIndex] at hi
    rw [Triangle.Setup.get_set, if_pos rfl, storedIndex_ofNat _ (by omega)]
    exact hi
  · have hi := h.floatTriangle (.ofIndex i)
    simp only [Triangle.Field.floatRegister, Triangle.Field.index_ofIndex] at hi
    rw [storedIndex_ofNat _ (by omega)]
    exact hi
  · rw [storedIndex_ofNat _ (by omega)]
    exact h.fog n

theorem banks_follow_storage_red :
    ((create .mb8).perform (.writeIndex 0x08 0x12345678)).2.Reachable ∧
      ((create .mb8).perform (.writeIndex 0x08 0x12345678)).2.triangle.get (.ofIndex 6) =
        0x345678 := by
  have hd : ((create .mb8).perform (.writeIndex 0x08 0x12345678)).2.Reachable :=
    .perform _ rfl (.create .mb8)
  refine ⟨hd, ?_⟩
  rw [(banks_follow_storage hd).1 6 .zero]
  decide +kernel

end Coprocessor

end PumaBoard
