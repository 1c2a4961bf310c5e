import PumaBoard.Coprocessor.Bus
import PumaBoard.Proofs.Memory.Words
import PumaBoard.Proofs.Word.Number

/-!
The lanes of a word bit by bit: what inserting a byte or a halfword into a word does to each of
its lanes, and the lanes that a narrow read takes out.
-/

namespace PumaBoard.Word

/-! ### Single bits -/

theorem testBit_shiftLeft (w : UInt32) {s : UInt32} (hs : s.toNat < 32) (n : Nat) :
    (w <<< s).toNat.testBit n =
      (decide (n < 32) && (decide (s.toNat ≤ n) && w.toNat.testBit (n - s.toNat))) := by
  rw [UInt32.toNat_shiftLeft, Nat.mod_eq_of_lt hs, Nat.testBit_mod_two_pow, Nat.testBit_shiftLeft]

theorem testBit_not (w : UInt32) (n : Nat) :
    (~~~w).toNat.testBit n = (decide (n < 32) && !w.toNat.testBit n) := by
  show (~~~w.toBitVec).getLsbD n = _
  rw [BitVec.getLsbD_not]
  rfl

theorem byte_ext {a b : UInt8} (h : ∀ i < 8, a.toNat.testBit i = b.toNat.testBit i) : a = b :=
  UInt8.toBitVec_inj.mp (BitVec.eq_of_getLsbD_eq h)

theorem toNat_mul8 {k : Nat} (hk : k < 4) : (UInt32.ofNat k * 8).toNat = 8 * k := by
  rw [UInt32.toNat_mul, UInt32.toNat_ofNat']
  show k % 2 ^ 32 * 8 % 2 ^ 32 = _
  omega

theorem testBit_lane (w : UInt32) {k i : Nat} (hk : k < 4) (hi : i < 8) :
    (lane w (UInt32.ofNat k)).toNat.testBit i = w.toNat.testBit (8 * k + i) := by
  rw [lane, UInt32.mul_comm, UInt32.toNat_toUInt8, UInt32.toNat_shiftRight, toNat_mul8 hk,
    Nat.mod_eq_of_lt (show 8 * k < 32 by omega), Nat.testBit_mod_two_pow, Nat.testBit_shiftRight]
  simp [hi]

/-- Bits inserted into a word stand in place of the old ones; the others stay. -/
theorem testBit_insertBits (w : UInt32) {mask s v : UInt32} (width : Nat)
    (hmask : mask.toNat = 2 ^ width - 1) (hv : v.toNat < 2 ^ width) (hwidth : 0 < width)
    (hs : s.toNat + width ≤ 32) (n : Nat) :
    (Coprocessor.insertBits w mask s v).toNat.testBit n =
      if s.toNat ≤ n ∧ n < s.toNat + width then v.toNat.testBit (n - s.toNat)
      else w.toNat.testBit n := by
  have hlt : s.toNat < 32 := by omega
  rw [Coprocessor.insertBits, UInt32.toNat_or, Nat.testBit_or, UInt32.toNat_and, Nat.testBit_and,
    testBit_not, testBit_shiftLeft mask hlt, testBit_shiftLeft v hlt, hmask,
    Nat.testBit_two_pow_sub_one]
  by_cases hn : n < 32
  · by_cases hlow : s.toNat ≤ n
    · by_cases hhigh : n - s.toNat < width
      · rw [if_pos (by omega)]
        simp [hn, hlow, hhigh]
      · have hzero : v.toNat.testBit (n - s.toNat) = false :=
          Nat.testBit_lt_two_pow
            (Nat.lt_of_lt_of_le hv (Nat.pow_le_pow_right (by decide) (by omega)))
        rw [if_neg (by omega), hzero]
        simp [hn, hlow, hhigh]
    · rw [if_neg (by omega)]
      simp [hn, hlow]
  · have hzero : w.toNat.testBit n = false :=
      Nat.testBit_lt_two_pow
        (Nat.lt_of_lt_of_le w.toNat_lt (Nat.pow_le_pow_right (by decide) (by omega)))
    rw [if_neg (by omega), hzero]
    simp [hn]

/-! ### Lanes -/

theorem lane_insertByte (w : UInt32) (v : UInt8) {j k : Nat} (hj : j < 4) (hk : k < 4) :
    lane (Coprocessor.insertBits w 0xFF (UInt32.ofNat j * 8) v.toUInt32) (UInt32.ofNat k) =
      if k = j then v else lane w (UInt32.ofNat k) := by
  have hs := toNat_mul8 hj
  apply byte_ext
  intro i hi
  rw [testBit_lane _ hk hi, testBit_insertBits w 8 rfl (by simpa using v.toNat_lt)
    (by decide) (by omega), hs]
  by_cases hkj : k = j
  · rw [if_pos (by omega), if_pos hkj, hkj, Nat.add_sub_cancel_left, UInt8.toNat_toUInt32]
  · rw [if_neg (by omega), if_neg hkj, testBit_lane w hk hi]

theorem lane_insertHalf (w : UInt32) (v : UInt16) {j k : Nat} (hj : j = 0 ∨ j = 2) (hk : k < 4) :
    lane (Coprocessor.insertBits w 0xFFFF (UInt32.ofNat j * 8) v.toUInt32) (UInt32.ofNat k) =
      if k = j then v.toUInt8
      else if k = j + 1 then (v >>> 8).toUInt8 else lane w (UInt32.ofNat k) := by
  have hs := toNat_mul8 (show j < 4 by omega)
  apply byte_ext
  intro i hi
  rw [testBit_lane _ hk hi, testBit_insertBits w 16 rfl (by simpa using v.toNat_lt)
    (by decide) (by omega), hs]
  by_cases hlow : k = j
  · rw [if_pos (by omega), if_pos hlow, hlow, Nat.add_sub_cancel_left, UInt16.toNat_toUInt32,
      UInt16.toNat_toUInt8, Nat.testBit_mod_two_pow]
    simp [hi]
  · by_cases hhigh : k = j + 1
    · rw [if_pos (by omega), if_neg hlow, if_pos hhigh, UInt16.toNat_toUInt32,
        UInt16.toNat_toUInt8, UInt16.toNat_shiftRight, Nat.testBit_mod_two_pow,
        show 8 * k + i - 8 * j = 8 + i by omega]
      simp [hi]
    · rw [if_neg (by omega), if_neg hlow, if_neg hhigh, testBit_lane w hk hi]

theorem ofHalfLanes_halfLanes (h : UInt16) : ofHalfLanes h.toUInt8 (h >>> 8).toUInt8 = h := by
  apply UInt16.toBitVec_inj.mp
  unfold ofHalfLanes
  ext i hi
  simp only [UInt16.toBitVec_or, UInt16.toBitVec_shiftLeft, UInt8.toBitVec_toUInt16,
    UInt16.toBitVec_toUInt8, UInt16.toBitVec_shiftRight]
  simp [BitVec.getElem_setWidth, -BitVec.setWidth_setWidth_of_le]
  grind

/-- The two bytes of the halfword of a word from an even lane on. -/
theorem bytes_shift_toUInt16 (w : UInt32) {j : Nat} (hj : j = 0 ∨ j = 2) :
    (w >>> (UInt32.ofNat j * 8)).toUInt16.toUInt8 = lane w (UInt32.ofNat j) ∧
      ((w >>> (UInt32.ofNat j * 8)).toUInt16 >>> 8).toUInt8 = lane w (UInt32.ofNat (j + 1)) := by
  have hs := toNat_mul8 (show j < 4 by omega)
  constructor
  · rw [UInt32.mul_comm, UInt32.toUInt8_toUInt16]
    rfl
  · apply byte_ext
    intro i hi
    rw [testBit_lane w (by omega) hi, UInt16.toNat_toUInt8, UInt16.toNat_shiftRight,
      UInt32.toNat_toUInt16, UInt32.toNat_shiftRight, hs,
      Nat.mod_eq_of_lt (show 8 * j < 32 by omega), Nat.testBit_mod_two_pow]
    show (decide (i < 8) && ((w.toNat >>> (8 * j) % 2 ^ 16) >>> 8).testBit i) = _
    rw [Nat.testBit_shiftRight, Nat.testBit_mod_two_pow, Nat.testBit_shiftRight,
      show 8 * j + (8 + i) = 8 * (j + 1) + i by omega]
    simp [hi, show 8 + i < 16 by omega]

theorem shift_toUInt16 (w : UInt32) {j : Nat} (hj : j = 0 ∨ j = 2) :
    (w >>> (UInt32.ofNat j * 8)).toUInt16 =
      ofHalfLanes (lane w (UInt32.ofNat j)) (lane w (UInt32.ofNat (j + 1))) := by
  obtain ⟨hlow, hhigh⟩ := bytes_shift_toUInt16 w hj
  rw [← hlow, ← hhigh, ofHalfLanes_halfLanes]

theorem lanes_ofLanes (b₀ b₁ b₂ b₃ : UInt8) : lanes (ofLanes b₀ b₁ b₂ b₃) = [b₀, b₁, b₂, b₃] := by
  unfold lanes lane ofLanes
  simp only [List.cons.injEq, and_true]
  refine ⟨?_, ?_, ?_, ?_⟩ <;>
  · apply UInt8.toBitVec_inj.mp
    ext i hi
    simp only [UInt32.toBitVec_or, UInt32.toBitVec_shiftLeft, UInt8.toBitVec_toUInt32,
      UInt32.toBitVec_toUInt8, UInt32.toBitVec_shiftRight]
    simp [BitVec.getElem_setWidth, -BitVec.setWidth_setWidth_of_le] <;> grind

theorem lane_ofLanes (f : Nat → UInt8) {k : Nat} (hk : k < 4) :
    lane (ofLanes (f 0) (f 1) (f 2) (f 3)) (UInt32.ofNat k) = f k := by
  have h := lanes_ofLanes (f 0) (f 1) (f 2) (f 3)
  simp only [lanes, List.cons.injEq, and_true] at h
  match k, hk with
  | 0, _ => exact h.1
  | 1, _ => exact h.2.1
  | 2, _ => exact h.2.2.1
  | 3, _ => exact h.2.2.2

/-- A word of two equal halfwords has that halfword at both even lanes. -/
theorem shift_ofLanes (h : UInt16) {j : Nat} (hj : j = 0 ∨ j = 2) :
    (ofLanes h.toUInt8 (h >>> 8).toUInt8 h.toUInt8 (h >>> 8).toUInt8 >>>
      (UInt32.ofNat j * 8)).toUInt16 = h := by
  have hlane {k : Nat} (hk : k < 4) :=
    lane_ofLanes (fun k => if k % 2 = 0 then h.toUInt8 else (h >>> 8).toUInt8) hk
  rw [shift_toUInt16 _ hj]
  rcases hj with rfl | rfl
  · exact (congrArg₂ ofHalfLanes (hlane (k := 0) (by decide)) (hlane (k := 1) (by decide))).trans
      (ofHalfLanes_halfLanes h)
  · exact (congrArg₂ ofHalfLanes (hlane (k := 2) (by decide)) (hlane (k := 3) (by decide))).trans
      (ofHalfLanes_halfLanes h)

theorem eq_of_lanes {v w : UInt32}
    (h : ∀ k < 4, lane v (UInt32.ofNat k) = lane w (UInt32.ofNat k)) : v = w := by
  rw [← ofLanes_lanes v, ← ofLanes_lanes w]
  rw [show lane v 0 = _ from h 0 (by decide), show lane v 1 = _ from h 1 (by decide),
    show lane v 2 = _ from h 2 (by decide), show lane v 3 = _ from h 3 (by decide)]
  rfl

/-! ### Lanes as numbers -/

theorem lane_eq (w : UInt32) {k : Nat} (hk : k < 4) :
    lane w (UInt32.ofNat k) = UInt8.ofNat (w.toNat / 2 ^ (8 * k)) := by
  rw [← UInt8.toNat_inj, lane, UInt32.mul_comm, UInt32.toNat_toUInt8, UInt32.toNat_shiftRight,
    toNat_mul8 hk, Nat.mod_eq_of_lt (show 8 * k < 32 by omega), Nat.shiftRight_eq_div_pow,
    UInt8.toNat_ofNat']

theorem lanes_eq (w : UInt32) :
    lanes w = [UInt8.ofNat w.toNat, UInt8.ofNat (w.toNat / 2 ^ 8), UInt8.ofNat (w.toNat / 2 ^ 16),
      UInt8.ofNat (w.toNat / 2 ^ 24)] := by
  have h0 := lane_eq w (show 0 < 4 by decide)
  rw [Nat.mul_zero, Nat.pow_zero, Nat.div_one] at h0
  rw [lanes, show lane w 0 = _ from h0, show lane w 1 = _ from lane_eq w (show 1 < 4 by decide),
    show lane w 2 = _ from lane_eq w (show 2 < 4 by decide),
    show lane w 3 = _ from lane_eq w (show 3 < 4 by decide)]

/-- Words with the same low 24 bits are those with the same three first lanes. -/
theorem mod_eq_iff_lanes {v w : UInt32} :
    v.toNat % 2 ^ 24 = w.toNat % 2 ^ 24 ↔
      ∀ k < 3, lane v (UInt32.ofNat k) = lane w (UInt32.ofNat k) := by
  have hlane (k : Nat) (hk : k < 3) :
      lane v (UInt32.ofNat k) = lane w (UInt32.ofNat k) ↔
        v.toNat / 2 ^ (8 * k) % 2 ^ 8 = w.toNat / 2 ^ (8 * k) % 2 ^ 8 := by
    rw [lane_eq v (by omega), lane_eq w (by omega), ← UInt8.toNat_inj, UInt8.toNat_ofNat',
      UInt8.toNat_ofNat']
  constructor
  · intro h k hk
    rw [hlane k hk]
    match k, hk with
    | 0, _ | 1, _ | 2, _ => omega
  · intro h
    have h0 := (hlane 0 (by decide)).mp (h 0 (by decide))
    have h1 := (hlane 1 (by decide)).mp (h 1 (by decide))
    have h2 := (hlane 2 (by decide)).mp (h 2 (by decide))
    omega

theorem halfLanes_eq (h : UInt16) :
    halfLanes h = [UInt8.ofNat h.toNat, UInt8.ofNat (h.toNat / 2 ^ 8)] := by
  have hlow : h.toUInt8 = UInt8.ofNat h.toNat := by
    rw [← UInt8.toNat_inj, UInt16.toNat_toUInt8, UInt8.toNat_ofNat']
  have hhigh : (h >>> 8).toUInt8 = UInt8.ofNat (h.toNat / 2 ^ 8) := by
    rw [← UInt8.toNat_inj, UInt16.toNat_toUInt8, UInt16.toNat_shiftRight, UInt8.toNat_ofNat',
      ← Nat.shiftRight_eq_div_pow]
    rfl
  rw [halfLanes, hlow, hhigh]

/-! ### Words from their lanes -/

theorem toNat_ofHalfLanes (b₀ b₁ : UInt8) :
    (ofHalfLanes b₀ b₁).toNat = b₀.toNat + 256 * b₁.toNat := by
  have h₀ := b₀.toNat_lt
  have h₁ := b₁.toNat_lt
  have hshift : (b₁.toUInt16 <<< 8).toNat = 2 ^ 8 * b₁.toNat := by
    rw [UInt16.toNat_shiftLeft, UInt8.toNat_toUInt16]
    show b₁.toNat <<< 8 % 2 ^ 16 = _
    rw [Nat.shiftLeft_eq]
    omega
  rw [ofHalfLanes, UInt16.toNat_or, UInt8.toNat_toUInt16, hshift, Nat.or_comm,
    ← Nat.two_pow_add_eq_or_of_lt h₀]
  omega

theorem toNat_ofLanes (b₀ b₁ b₂ b₃ : UInt8) :
    (ofLanes b₀ b₁ b₂ b₃).toNat =
      b₀.toNat + 256 * (b₁.toNat + 256 * (b₂.toNat + 256 * b₃.toNat)) := by
  have hlanes := (lanes_eq (ofLanes b₀ b₁ b₂ b₃)).symm.trans (lanes_ofLanes b₀ b₁ b₂ b₃)
  simp only [List.cons.injEq, and_true, ← UInt8.toNat_inj, UInt8.toNat_ofNat'] at hlanes
  have hlt := (ofLanes b₀ b₁ b₂ b₃).toNat_lt
  omega

/-! ### The top bit -/

theorem lane_and (v w : UInt32) (k : UInt32) : lane (v &&& w) k = lane v k &&& lane w k := by
  rw [← UInt8.toNat_inj]
  unfold lane
  rw [UInt8.toNat_and]
  simp only [UInt32.toNat_toUInt8, UInt32.toNat_shiftRight, UInt32.toNat_and,
    Nat.shiftRight_and_distrib, Nat.and_mod_two_pow]

theorem byte_and_low7 (b : UInt8) : (b &&& 0x7F).toNat = b.toNat % 128 := by
  rw [UInt8.toNat_and]
  exact Nat.and_two_pow_sub_one_eq_mod _ 7

theorem byte_and_top (b : UInt8) : b &&& 0x80 = 0 ↔ b.toNat < 128 := by
  have hlt := b.toNat_lt
  rw [← UInt8.toNat_inj, UInt8.toNat_and]
  show b.toNat &&& 2 ^ 7 = 0 ↔ _
  rw [Nat.and_two_pow, Nat.testBit_eq_decide_div_mod_eq]
  simp
  omega

theorem byte_low7_eq {b : UInt8} (h : b.toNat < 128) : b &&& 0x7F = b := by
  rw [← UInt8.toNat_inj, byte_and_low7, Nat.mod_eq_of_lt h]

/-- The top bit of a word is that of its last byte. -/
theorem and_top_eq_zero (b₀ b₁ b₂ b₃ : UInt8) :
    ofLanes b₀ b₁ b₂ b₃ &&& 0x80000000 = 0 ↔ b₃.toNat < 128 := by
  have hlanes := lanes_ofLanes b₀ b₁ b₂ b₃
  simp only [lanes, List.cons.injEq, and_true] at hlanes
  obtain ⟨h0, h1, h2, h3⟩ := hlanes
  have hmask : lanes 0x80000000 = [0, 0, 0, 0x80] := by decide
  simp only [lanes, List.cons.injEq, and_true] at hmask
  obtain ⟨m0, m1, m2, m3⟩ := hmask
  rw [← byte_and_top]
  constructor
  · intro h
    have htop := congrArg (lane · 3) h
    simp only [lane_and, h3, m3] at htop
    exact htop
  · intro h
    rw [← ofLanes_lanes (ofLanes b₀ b₁ b₂ b₃ &&& 0x80000000)]
    simp only [lane_and, m0, m1, m2, m3, h3, h, UInt8.and_zero]
    rfl

/-- Clearing the top bit of a word clears that of its last byte. -/
theorem lanes_clear_top (b₀ b₁ b₂ b₃ : UInt8) :
    lanes (ofLanes b₀ b₁ b₂ b₃ &&& ~~~0x80000000) = [b₀, b₁, b₂, b₃ &&& 0x7F] := by
  have hlanes := lanes_ofLanes b₀ b₁ b₂ b₃
  simp only [lanes, List.cons.injEq, and_true] at hlanes
  obtain ⟨h0, h1, h2, h3⟩ := hlanes
  have hmask : lanes (~~~0x80000000) = [0xFF, 0xFF, 0xFF, 0x7F] := by decide
  simp only [lanes, List.cons.injEq, and_true] at hmask
  obtain ⟨m0, m1, m2, m3⟩ := hmask
  have hfull (b : UInt8) : b &&& 0xFF = b := UInt8.and_neg_one
  simp only [lanes, lane_and, h0, h1, h2, h3, m0, m1, m2, m3, hfull]

/-! ### Words in parts -/

/-- The first word with `n` of its lanes, from lane `j` on, taken from the second one. -/
def splice (w v : UInt32) (j n : Nat) : UInt32 :=
  let pick (k : Nat) : UInt8 :=
    if j ≤ k ∧ k < j + n then lane v (UInt32.ofNat k) else lane w (UInt32.ofNat k)
  ofLanes (pick 0) (pick 1) (pick 2) (pick 3)

variable (w v : UInt32)

theorem lane_splice (j n : Nat) {k : Nat} (hk : k < 4) :
    lane (splice w v j n) (UInt32.ofNat k) =
      if j ≤ k ∧ k < j + n then lane v (UInt32.ofNat k) else lane w (UInt32.ofNat k) :=
  lane_ofLanes (fun k => if j ≤ k ∧ k < j + n then lane v (UInt32.ofNat k)
    else lane w (UInt32.ofNat k)) hk

/-- Neighbouring parts of a word put in place one after the other are one part. -/
theorem splice_splice (j n m : Nat) :
    splice (splice w v j n) v (j + n) m = splice w v j (n + m) := by
  apply eq_of_lanes
  intro k hk
  rw [lane_splice _ _ _ _ hk, lane_splice _ _ _ _ hk, lane_splice _ _ _ _ hk]
  by_cases hfirst : j ≤ k ∧ k < j + n
  · rw [if_neg (by omega), if_pos hfirst, if_pos (by omega)]
  · by_cases hsecond : j + n ≤ k ∧ k < j + n + m
    · rw [if_pos hsecond, if_pos (by omega)]
    · rw [if_neg hsecond, if_neg hfirst, if_neg (by omega)]

theorem splice_all : splice w v 0 4 = v := by
  apply eq_of_lanes
  intro k hk
  rw [lane_splice _ _ _ _ hk, if_pos (by omega)]

/-- Lanes below the third one are spliced alike into words with the same low 24 bits. -/
theorem splice_mod {w w' : UInt32} (h : w.toNat % 2 ^ 24 = w'.toNat % 2 ^ 24) (v : UInt32)
    (j n : Nat) : (splice w v j n).toNat % 2 ^ 24 = (splice w' v j n).toNat % 2 ^ 24 := by
  rw [mod_eq_iff_lanes] at h ⊢
  intro k hk
  rw [lane_splice _ _ _ _ (by omega), lane_splice _ _ _ _ (by omega), h k hk]

theorem insertBits_byte {j : Nat} (hj : j < 4) :
    Coprocessor.insertBits w 0xFF (UInt32.ofNat j * 8) (lane v (UInt32.ofNat j)).toUInt32 =
      splice w v j 1 := by
  apply eq_of_lanes
  intro k hk
  rw [lane_insertByte _ _ hj hk, lane_splice _ _ _ _ hk]
  by_cases hkj : k = j
  · rw [if_pos hkj, if_pos (by omega), hkj]
  · rw [if_neg hkj, if_neg (by omega)]

theorem insertBits_half {j : Nat} (hj : j = 0 ∨ j = 2) :
    Coprocessor.insertBits w 0xFFFF (UInt32.ofNat j * 8)
        (v >>> (UInt32.ofNat j * 8)).toUInt16.toUInt32 =
      splice w v j 2 := by
  obtain ⟨hlow, hhigh⟩ := bytes_shift_toUInt16 v hj
  apply eq_of_lanes
  intro k hk
  rw [lane_insertHalf _ _ hj hk, lane_splice _ _ _ _ hk, hlow, hhigh]
  by_cases hkj : k = j
  · rw [if_pos hkj, if_pos (by omega), hkj]
  · by_cases hkj' : k = j + 1
    · rw [if_neg hkj, if_pos hkj', if_pos (by omega), hkj']
    · rw [if_neg hkj, if_neg hkj', if_neg (by omega)]

/-! ### Replaced lanes -/

/-- The word with a byte in place of lane `j`. -/
def replaceByte (j : Nat) (b : UInt8) : UInt32 := splice w (ofLanes b b b b) j 1

/-- The word with a halfword in place of the lanes `j` and `j + 1`, for an even `j`. -/
def replaceHalf (j : Nat) (h : UInt16) : UInt32 :=
  splice w (ofLanes h.toUInt8 (h >>> 8).toUInt8 h.toUInt8 (h >>> 8).toUInt8) j 2

end PumaBoard.Word
