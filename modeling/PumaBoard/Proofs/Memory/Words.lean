import PumaBoard.Bytes

/-!
Bytes and words of a memory: a word read back from where it was written, and what a write leaves
alone. Memories are compared byte by byte through `byteD`.
-/

namespace PumaBoard

/-! ### Lanes -/

theorem Word.ofLanes_lanes (v : UInt32) :
    Word.ofLanes (Word.lane v 0) (Word.lane v 1) (Word.lane v 2) (Word.lane v 3) = v := by
  apply UInt32.toBitVec_inj.mp
  unfold Word.ofLanes Word.lane
  ext i hi
  simp only [UInt32.toBitVec_or, UInt32.toBitVec_shiftLeft, UInt8.toBitVec_toUInt32,
    UInt32.toBitVec_toUInt8, UInt32.toBitVec_shiftRight]
  simp [BitVec.getElem_setWidth, -BitVec.setWidth_setWidth_of_le]
  grind

/-! ### Set bits -/

theorem Word.bit_ofNat (w : UInt32) {n : Nat} (h : n < 32) :
    Word.bit w (UInt32.ofNat n) = w.toNat.testBit n := by
  have hn : (UInt32.ofNat n).toNat % 32 = n := by
    rw [UInt32.toNat_ofNat_of_lt' (Nat.lt_trans h (by decide)), Nat.mod_eq_of_lt h]
  have hw : ((w >>> UInt32.ofNat n) &&& 1).toNat = w.toNat >>> n % 2 := by
    rw [UInt32.toNat_and, UInt32.toNat_shiftRight, hn]
    exact Nat.and_one_is_mod _
  have hone : ((w >>> UInt32.ofNat n) &&& 1 = 1) = (w.toNat >>> n % 2 = 1) := by
    rw [← UInt32.toNat_inj, hw]; rfl
  rw [Nat.testBit, Nat.one_and_eq_mod_two]
  simp only [Word.bit, hone]
  rcases Nat.mod_two_eq_zero_or_one (w.toNat >>> n) with h | h <;> simp [h]

/-- A word with a set bit has a position in its list of set bits. -/
theorem Word.setBits_ne_nil {w : UInt32} (h : w ≠ 0) : Word.setBits w ≠ [] := by
  intro hnil
  apply h
  apply UInt32.toNat_inj.mp
  apply Nat.eq_of_testBit_eq
  intro n
  rw [UInt32.toNat_zero, Nat.zero_testBit]
  by_cases hn : n < 32
  · have hmem := (List.filter_eq_nil_iff.mp hnil) (UInt32.ofNat n)
      (List.mem_map_of_mem (List.mem_range.mpr hn))
    rw [Word.bit_ofNat w hn] at hmem
    simpa using hmem
  · have hpow : 2 ^ 32 ≤ 2 ^ n := Nat.pow_le_pow_right (by decide) (by omega)
    exact Nat.testBit_lt_two_pow (Nat.lt_of_lt_of_le w.toNat_lt hpow)

theorem Word.length_setBits_le (w : UInt32) : (Word.setBits w).length ≤ 32 :=
  Nat.le_trans (List.length_filter_le ..) (by simp)

theorem Word.lt_of_mem_setBits {w n : UInt32} (h : n ∈ Word.setBits w) : n.toNat < 32 := by
  obtain ⟨k, hk, rfl⟩ := List.mem_map.mp (List.mem_filter.mp h).1
  have hlt := List.mem_range.mp hk
  rwa [UInt32.toNat_ofNat_of_lt' (Nat.lt_trans hlt (by decide))]

theorem Word.toNat_population (w : UInt32) : (Word.population w).toNat = (Word.setBits w).length :=
  UInt32.toNat_ofNat_of_lt' (Nat.lt_of_le_of_lt (Word.length_setBits_le w) (by decide))

namespace Bytes

/-! ### Single bytes -/

theorem byteD_put (m : ByteArray) (i : Nat) (v : UInt8) (j : Nat) :
    byteD (put m i v) j = if i = j ∧ j < m.size then v else byteD m j := by
  unfold byteD put
  by_cases hi : i < m.size
  · by_cases hj : j < m.size
    · simp only [hi, hj, dite_true, size_set, and_true]
      exact Array.getElem_set ..
    · have hij : ¬ (i = j ∧ j < m.size) := by omega
      simp [hi, hj]
  · have hij : ¬ (i = j ∧ j < m.size) := by omega
    simp [hi, hij]

theorem byteD_put_of_ne {m : ByteArray} {i j : Nat} {v : UInt8} (h : i ≠ j) :
    byteD (put m i v) j = byteD m j := by
  rw [byteD_put, if_neg (by simp [h])]

/-! ### Zeros and ranges -/

theorem byteD_eq_getD (m : ByteArray) (i : Nat) : byteD m i = m.data[i]?.getD 0 := by
  unfold byteD
  split
  · next h => rw [Array.getElem?_eq_getElem (by simpa using h)]; rfl
  · next h => rw [Array.getElem?_eq_none (by simpa using h)]; rfl

theorem byteD_append (a b : ByteArray) (i : Nat) :
    byteD (a ++ b) i = if i < a.size then byteD a i else byteD b (i - a.size) := by
  simp only [byteD_eq_getD, ByteArray.data_append, Array.getElem?_append, ByteArray.size_data]
  split <;> rfl

theorem byteD_push (m : ByteArray) (v : UInt8) (i : Nat) :
    byteD (m.push v) i = if i = m.size then v else byteD m i := by
  simp only [byteD_eq_getD, ByteArray.data_push, Array.getElem?_push, ByteArray.size_data]
  split <;> rfl

theorem byteD_zeros (n i : Nat) : byteD (zeros n) i = 0 := by
  induction n using Nat.strongRecOn generalizing i with
  | ind n ih =>
    unfold zeros
    split
    · rfl
    · have half := ih (n / 2) (by omega)
      split
      · simp [byteD_push, byteD_append, half]
      · simp [byteD_append, half]

theorem size_slice (m : ByteArray) (o n : Nat) :
    (slice m o n).size = min (o + n) m.size - o := ByteArray.size_extract

/-- A range that goes past the end stops there. -/
theorem slice_eq_min (m : ByteArray) (o n : Nat) : slice m o n = slice m o (min n (m.size - o)) := by
  have hsize : m.size = m.data.size := rfl
  apply ByteArray.ext
  unfold slice
  rw [ByteArray.data_extract, ByteArray.data_extract, Array.extract_eq_extract_right]
  omega

theorem byteD_slice {m : ByteArray} {o n i : Nat} (h : i < n) :
    byteD (slice m o n) i = byteD m (o + i) := by
  unfold byteD
  by_cases hi : o + i < m.size
  · have hs : i < (slice m o n).size := by rw [size_slice]; omega
    rw [dif_pos hs, dif_pos hi]
    exact ByteArray.getElem_extract hs
  · have hs : ¬ i < (slice m o n).size := by rw [size_slice]; omega
    rw [dif_neg hs, dif_neg hi]

/-! ### Halfwords and words -/

theorem byteD_write32_of_ne {m : ByteArray} {o j : Nat} {v : UInt32} (h : j < o ∨ o + 4 ≤ j) :
    byteD (write32 m o v) j = byteD m j := by
  unfold write32
  split
  · rw [byteD_put_of_ne (by omega), byteD_put_of_ne (by omega), byteD_put_of_ne (by omega),
      byteD_put_of_ne (by omega)]
  · rfl

theorem byteD_write32 {m : ByteArray} {o : Nat} {v : UInt32} (h : o + 4 ≤ m.size) :
    byteD (write32 m o v) o = Word.lane v 0 ∧ byteD (write32 m o v) (o + 1) = Word.lane v 1 ∧
      byteD (write32 m o v) (o + 2) = Word.lane v 2 ∧
      byteD (write32 m o v) (o + 3) = Word.lane v 3 := by
  rw [write32, if_pos h]
  simp only [byteD_put, size_put]
  refine ⟨?_, ?_, ?_, ?_⟩ <;> grind

theorem read32?_eq (m : ByteArray) (o : Nat) :
    read32? m o =
      if o + 4 ≤ m.size then
        some (Word.ofLanes (byteD m o) (byteD m (o + 1)) (byteD m (o + 2)) (byteD m (o + 3)))
      else none := by
  unfold read32?
  split
  · simp only [byteD, show o < m.size by omega, show o + 1 < m.size by omega,
      show o + 2 < m.size by omega, show o + 3 < m.size by omega, dite_true]
  · rfl

theorem read32?_write32_same {m : ByteArray} {o : Nat} {v : UInt32} (h : o + 4 ≤ m.size) :
    read32? (write32 m o v) o = some v := by
  obtain ⟨h0, h1, h2, h3⟩ := byteD_write32 (v := v) h
  rw [read32?_eq, size_write32, if_pos h, h0, h1, h2, h3, Word.ofLanes_lanes]

theorem read32?_write32_of_disjoint {m : ByteArray} {o p : Nat} {v : UInt32}
    (h : o + 4 ≤ p ∨ p + 4 ≤ o) : read32? (write32 m o v) p = read32? m p := by
  rw [read32?_eq, read32?_eq, size_write32, byteD_write32_of_ne (by omega),
    byteD_write32_of_ne (by omega), byteD_write32_of_ne (by omega), byteD_write32_of_ne (by omega)]

/-! ### Memories that agree outside a range -/

/-- Two memories of one size hold the same bytes but for those from `lo` up to `hi`. -/
structure EqOutside (lo hi : Nat) (a b : ByteArray) : Prop where
  size : a.size = b.size
  byte : ∀ i, i < lo ∨ hi ≤ i → byteD a i = byteD b i

namespace EqOutside

variable {lo hi : Nat} {a b c : ByteArray}

theorem refl (a : ByteArray) : EqOutside lo hi a a := ⟨rfl, fun _ _ => rfl⟩

theorem trans (h : EqOutside lo hi a b) (h' : EqOutside lo hi b c) : EqOutside lo hi a c :=
  ⟨h.size.trans h'.size, fun i hi => (h.byte i hi).trans (h'.byte i hi)⟩

theorem put (h : EqOutside lo hi a b) (o : Nat) (v : UInt8) :
    EqOutside lo hi (Bytes.put a o v) (Bytes.put b o v) := by
  refine ⟨by simp [h.size], fun i hi => ?_⟩
  rw [byteD_put, byteD_put, h.size, h.byte i hi]

theorem write16 (h : EqOutside lo hi a b) (o : Nat) (v : UInt16) :
    EqOutside lo hi (Bytes.write16 a o v) (Bytes.write16 b o v) := by
  unfold Bytes.write16
  rw [h.size]
  split
  · exact (h.put _ _).put _ _
  · exact h

/-- A word written inside the range is not seen outside. -/
theorem write32_inside {o : Nat} (v : UInt32) (hlo : lo ≤ o) (hhi : o + 4 ≤ hi) :
    EqOutside lo hi (write32 a o v) a :=
  ⟨size_write32 .., fun _ hi => byteD_write32_of_ne (by omega)⟩

end EqOutside

end Bytes

end PumaBoard
