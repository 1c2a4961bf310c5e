import Mathlib.Data.Nat.Bitwise
import PumaBoard.Word

/-!
Words as numbers: a group of bits is a quotient and a remainder, the low bits in two's complement
are a balanced remainder, and an arithmetic shift is a division rounded down.
-/

namespace PumaBoard.Word

/-- The number in the `width` bits of a word from bit `low` on. -/
def bitsAt (w : UInt32) (low width : Nat) : Nat := w.toNat / 2 ^ low % 2 ^ width

/-- The low `width` bits of a word as a two's complement number. -/
def signedLow (w : UInt32) (width : Nat) : Int := Int.bmod w.toNat (2 ^ width)

theorem bitsAt_lt (w : UInt32) (low width : Nat) : bitsAt w low width < 2 ^ width :=
  Nat.mod_lt _ (Nat.two_pow_pos width)

section Bits

variable (w : UInt32)

/-! ### Unsigned fields -/

theorem toNat_low24 : (low24 w).toNat = bitsAt w 0 24 := by
  rw [low24, UInt32.toNat_and, bitsAt, Nat.pow_zero, Nat.div_one]
  exact Nat.and_two_pow_sub_one_eq_mod _ 24

/-- Masking the low bits after a shift takes out a field. -/
theorem toNat_shift_and (k mask : UInt32) (low width : Nat) (hk : k.toNat = low) (hlow : low < 32)
    (hmask : mask.toNat = 2 ^ width - 1) : ((w >>> k) &&& mask).toNat = bitsAt w low width := by
  rw [UInt32.toNat_and, UInt32.toNat_shiftRight, hk, hmask, Nat.and_two_pow_sub_one_eq_mod,
    Nat.mod_eq_of_lt hlow, Nat.shiftRight_eq_div_pow, bitsAt]

theorem toNat_and_mask (mask : UInt32) (width : Nat) (hmask : mask.toNat = 2 ^ width - 1) :
    (w &&& mask).toNat = bitsAt w 0 width := by
  have h := toNat_shift_and w 0 mask 0 width rfl (by decide) hmask
  rwa [UInt32.shiftRight_zero] at h

theorem shift_and_eq (k mask : UInt32) (low width : Nat) (hk : k.toNat = low) (hlow : low < 32)
    (hmask : mask.toNat = 2 ^ width - 1) :
    (w >>> k) &&& mask = UInt32.ofNat (bitsAt w low width) := by
  rw [← toNat_shift_and w k mask low width hk hlow hmask, UInt32.ofNat_toNat]

theorem and_eq (mask : UInt32) (width : Nat) (hmask : mask.toNat = 2 ^ width - 1) :
    w &&& mask = UInt32.ofNat (bitsAt w 0 width) := by
  rw [← toNat_and_mask w mask width hmask, UInt32.ofNat_toNat]

/-- The byte of a word after a shift is a field of eight bits. -/
theorem shift_toUInt8 (k : UInt32) (low : Nat) (hk : k.toNat = low) (hlow : low < 32) :
    (w >>> k).toUInt8 = UInt8.ofNat (bitsAt w low 8) := by
  have hn : (w >>> k).toUInt8.toNat = bitsAt w low 8 := by
    rw [UInt32.toNat_toUInt8, UInt32.toNat_shiftRight, hk, Nat.mod_eq_of_lt hlow,
      Nat.shiftRight_eq_div_pow, bitsAt]
  rw [← hn, UInt8.ofNat_toNat]

theorem toUInt8_eq : w.toUInt8 = UInt8.ofNat (bitsAt w 0 8) := by
  have h := shift_toUInt8 w 0 0 rfl (by decide)
  rwa [UInt32.shiftRight_zero] at h

/-! ### Signed fields -/

theorem toInt_toInt32 : w.toInt32.toInt = signedLow w 32 :=
  BitVec.toInt_eq_toNat_bmod w.toBitVec

theorem toInt_signExtend16 : (signExtend16 w).toInt32.toInt = signedLow w 16 := by
  have h : (signExtend16 w).toInt32.toInt = w.toUInt16.toBitVec.toInt := Int16.toInt_toInt32 _
  have hn : w.toUInt16.toBitVec.toNat = w.toNat % 2 ^ 16 := UInt32.toNat_toUInt16 w
  rw [h, BitVec.toInt_eq_toNat_bmod, hn, Int.natCast_emod, Int.emod_bmod, signedLow]

theorem and_sign24_eq_zero : w &&& 0x800000 = 0 ↔ w.toNat / 2 ^ 23 % 2 = 0 := by
  rw [← UInt32.toNat_inj, UInt32.toNat_and]
  show w.toNat &&& 2 ^ 23 = 0 ↔ _
  rw [Nat.and_two_pow, Nat.testBit_eq_decide_div_mod_eq]
  have := Nat.mod_two_eq_zero_or_one (w.toNat / 2 ^ 23)
  simp

/-- Setting the high eight bits leaves the low 24 bits of a word. -/
theorem toNat_or_high8 : (w ||| 0xFF000000).toNat = 2 ^ 24 * 255 + w.toNat % 2 ^ 24 := by
  have hlow : w.toNat &&& 2 ^ 24 - 1 = w.toNat % 2 ^ 24 := Nat.and_two_pow_sub_one_eq_mod _ 24
  have hlt : 2 ^ 24 * 255 ||| w.toNat < 2 ^ 32 := Nat.or_lt_two_pow (by decide) w.toNat_lt
  rw [UInt32.toNat_or, Nat.two_pow_add_eq_or_of_lt (Nat.mod_lt _ (by decide)), ← hlow,
    Nat.or_and_distrib_left, show 2 ^ 24 * 255 ||| 2 ^ 24 - 1 = 2 ^ 32 - 1 by decide,
    Nat.and_two_pow_sub_one_eq_mod, Nat.mod_eq_of_lt hlt]
  exact Nat.or_comm ..

theorem toInt_signExtend24 : (signExtend24 w).toInt32.toInt = signedLow w 24 := by
  have hlt := w.toNat_lt
  have hlow : (w &&& 0x00FFFFFF).toNat = w.toNat % 2 ^ 24 :=
    Nat.and_two_pow_sub_one_eq_mod _ 24
  rw [toInt_toInt32, signedLow, signedLow, signExtend24]
  split
  · next h =>
    rw [ne_eq, and_sign24_eq_zero] at h
    rw [toNat_or_high8]
    simp only [Int.bmod]
    split <;> split <;> omega
  · next h =>
    rw [ne_eq, and_sign24_eq_zero] at h
    rw [hlow]
    simp only [Int.bmod]
    split <;> split <;> omega

theorem low24_congr {v w : UInt32} (h : v.toNat % 2 ^ 24 = w.toNat % 2 ^ 24) :
    low24 v = low24 w := by
  rw [← UInt32.toNat_inj, toNat_low24, toNat_low24, bitsAt, bitsAt, Nat.pow_zero, Nat.div_one,
    Nat.div_one, h]

/-- Sign extension depends on the low 24 bits. -/
theorem signExtend24_congr {v w : UInt32} (h : v.toNat % 2 ^ 24 = w.toNat % 2 ^ 24) :
    signExtend24 v = signExtend24 w := by
  have hsign : v &&& 0x800000 = 0 ↔ w &&& 0x800000 = 0 := by
    rw [and_sign24_eq_zero, and_sign24_eq_zero]
    omega
  have hhigh : v ||| 0xFF000000 = w ||| 0xFF000000 := by
    rw [← UInt32.toNat_inj, toNat_or_high8, toNat_or_high8, h]
  rw [signExtend24, signExtend24, hhigh]
  simp only [ne_eq, hsign]
  exact congrArg (ite _ _) (low24_congr h)

/-- Sign extension keeps the low 24 bits. -/
theorem toNat_signExtend24_mod : (signExtend24 w).toNat % 2 ^ 24 = w.toNat % 2 ^ 24 := by
  rw [signExtend24]
  split
  · rw [toNat_or_high8]
    omega
  · have hlow : (w &&& 0x00FFFFFF).toNat = w.toNat % 2 ^ 24 := Nat.and_two_pow_sub_one_eq_mod _ 24
    rw [hlow, Nat.mod_mod]

/-- A two's complement number lies in the range of its width. -/
theorem signedLow_bounds {width : Nat} (hw : 0 < width) :
    -2 ^ (width - 1) ≤ signedLow w width ∧ signedLow w width < 2 ^ (width - 1) := by
  obtain ⟨n, rfl⟩ : ∃ n, width = n + 1 := ⟨width - 1, by omega⟩
  have hpos := Nat.two_pow_pos (n + 1)
  have hle := Int.le_bmod (x := w.toNat) hpos
  have hlt := Int.bmod_lt (x := w.toNat) hpos
  rw [Nat.add_sub_cancel, signedLow]
  have hpow : ((2 ^ (n + 1) : Nat) : Int) = 2 * 2 ^ n := by
    rw [Nat.pow_succ, Nat.mul_comm]
    push_cast
    rfl
  rw [hpow] at hle hlt
  omega

/-! ### Words as signed words -/

theorem toInt32_eq : w.toInt32 = Int32.ofInt w.toNat := by
  rw [← Int32.toInt_inj, toInt_toInt32, Int32.toInt_ofInt]; rfl

/-- A logical shift by twelve bits divides by 4096. -/
theorem toNat_shiftRight12 : (w >>> 12).toNat = w.toNat / 4096 := by
  rw [UInt32.toNat_shiftRight]
  exact Nat.shiftRight_eq_div_pow ..

/-! ### Addresses -/

/-- The address of the page of 4 KB around an address. -/
theorem toNat_alignPage : ((w >>> 12) <<< 12).toNat = w.toNat / 4096 * 4096 := by
  have hlt := w.toNat_lt
  rw [UInt32.toNat_shiftLeft, toNat_shiftRight12]
  show (w.toNat / 4096) <<< 12 % 2 ^ 32 = _
  rw [Nat.shiftLeft_eq]
  omega

/-- The address of the word around an address. -/
theorem toNat_alignWord : (w &&& ~~~3).toNat = w.toNat / 4 * 4 := by
  have hbits : w.toNat &&& (2 ^ 32 - (3 + 1)) = w.toNat >>> 2 <<< 2 := by
    apply Nat.eq_of_testBit_eq
    intro i
    have hthree : (3 : Nat).testBit i = decide (i < 2) := Nat.testBit_two_pow_sub_one 2 i
    rw [Nat.testBit_and, Nat.testBit_two_pow_sub_succ (by decide), hthree, Nat.testBit_shiftLeft,
      Nat.testBit_shiftRight]
    by_cases hlow : i < 2
    · simp [hlow]
    · by_cases hhigh : i < 32
      · simp [hlow, hhigh, show 2 ≤ i by omega]
      · have hzero : w.toNat.testBit i = false :=
          Nat.testBit_lt_two_pow
            (Nat.lt_of_lt_of_le w.toNat_lt (Nat.pow_le_pow_right (by decide) (by omega)))
        simp [hzero, show 2 ≤ i by omega]
  rw [UInt32.toNat_and, ← Nat.shiftRight_eq_div_pow _ 2, ← Nat.shiftLeft_eq _ 2, ← hbits]
  rfl

end Bits

/-- An arithmetic shift by twelve bits divides by 4096 and rounds down. -/
theorem toInt_shiftRight12 (v : Int32) : (v >>> 12).toInt = v.toInt / 4096 := by
  have h : (v >>> 12).toBitVec = v.toBitVec.sshiftRight 12 := Int32.toBitVec_shiftRight ..
  show (v >>> 12).toBitVec.toInt = _
  rw [h, BitVec.toInt_sshiftRight]
  exact Int.shiftRight_eq_div_pow ..

end PumaBoard.Word
