import PumaBoard.Proofs.Memory.Words
import PumaBoard.Proofs.Word.Lanes

/-!
The memory of the aperture as one row of bytes: the frame buffer and, behind it, the texture
memory. Words of either are four neighbouring bytes of the row, and a narrow write into a word
replaces just its own bytes.
-/

namespace PumaBoard

/-! ### Rows of bytes -/

namespace Row

/-- The row with the bytes from position `p` on replaced. -/
def stored (p : Nat) (bs : List UInt8) (σ : Nat → UInt8) : Nat → UInt8 :=
  fun i => if p ≤ i ∧ i < p + bs.length then bs.getD (i - p) 0 else σ i

/-- The halfword at a position. -/
def half (σ : Nat → UInt8) (p : Nat) : UInt16 := Word.ofHalfLanes (σ p) (σ (p + 1))

/-- The word at a position. -/
def word (σ : Nat → UInt8) (p : Nat) : UInt32 :=
  Word.ofLanes (σ p) (σ (p + 1)) (σ (p + 2)) (σ (p + 3))

variable (σ : Nat → UInt8) (p : Nat)

theorem stored_outside {bs : List UInt8} {i : Nat} (h : i < p ∨ p + bs.length ≤ i) :
    stored p bs σ i = σ i := if_neg (by omega)

/-- Bytes stored over as many others leave nothing of them. -/
theorem stored_stored {bs cs : List UInt8} (h : cs.length = bs.length) :
    stored p bs (stored p cs σ) = stored p bs σ := by
  funext i
  unfold stored
  by_cases hi : p ≤ i ∧ i < p + bs.length
  · rw [if_pos hi, if_pos hi]
  · rw [if_neg hi, if_neg hi, if_neg (by rwa [h])]

theorem lane_word {k : Nat} (hk : k < 4) : Word.lane (word σ p) (UInt32.ofNat k) = σ (p + k) :=
  Word.lane_ofLanes (fun k => σ (p + k)) hk

/-- The bytes of a stored word are its lanes. -/
theorem stored_lanes (w : UInt32) {k : Nat} (hk : k < 4) :
    stored p (Word.lanes w) σ (p + k) = Word.lane w (UInt32.ofNat k) := by
  rw [stored, if_pos ⟨by omega, by simp [Word.lanes]; omega⟩, Nat.add_sub_cancel_left]
  obtain rfl | rfl | rfl | rfl : k = 0 ∨ k = 1 ∨ k = 2 ∨ k = 3 := by omega
  all_goals rfl

/-- Rows are the same after a word is stored in each if the lanes of the word are. -/
theorem stored_lanes_eq {w : UInt32} {τ : Nat → UInt8} (hout : ∀ i, i < p ∨ p + 4 ≤ i → τ i = σ i)
    (hin : ∀ k < 4, τ (p + k) = Word.lane w (UInt32.ofNat k)) :
    stored p (Word.lanes w) σ = τ := by
  funext i
  by_cases h : p ≤ i ∧ i < p + 4
  · obtain ⟨k, rfl⟩ := Nat.exists_eq_add_of_le h.1
    rw [stored_lanes σ p w (by omega), hin k (by omega)]
  · rw [hout i (by omega)]
    exact stored_outside σ p (by simp [Word.lanes]; omega)

theorem stored_insertByte (v : UInt8) {j : Nat} (hj : j < 4) :
    stored p (Word.lanes
        (Coprocessor.insertBits (word σ p) 0xFF (UInt32.ofNat j * 8) v.toUInt32)) σ =
      stored (p + j) [v] σ := by
  apply stored_lanes_eq
  · intro i hi
    exact stored_outside σ _ (by simp; omega)
  · intro k hk
    rw [Word.lane_insertByte _ _ hj hk, lane_word σ p hk, stored]
    simp only [List.length_singleton]
    by_cases hkj : k = j
    · rw [if_pos (by omega), if_pos hkj, hkj, Nat.sub_self]
      rfl
    · rw [if_neg (by omega), if_neg hkj]

theorem stored_insertHalf (v : UInt16) {j : Nat} (hj : j = 0 ∨ j = 2) :
    stored p (Word.lanes
        (Coprocessor.insertBits (word σ p) 0xFFFF (UInt32.ofNat j * 8) v.toUInt32)) σ =
      stored (p + j) (Word.halfLanes v) σ := by
  apply stored_lanes_eq
  · intro i hi
    exact stored_outside σ _ (by simp [Word.halfLanes]; omega)
  · intro k hk
    have hlen : (Word.halfLanes v).length = 2 := rfl
    rw [Word.lane_insertHalf _ _ hj hk, lane_word σ p hk, stored, hlen]
    by_cases hlow : k = j
    · rw [if_pos (by omega), if_pos hlow, hlow, Nat.sub_self]
      rfl
    · by_cases hhigh : k = j + 1
      · rw [if_pos (by omega), if_neg hlow, if_pos hhigh, show p + k - (p + j) = 1 by omega]
        rfl
      · rw [if_neg (by omega), if_neg hlow, if_neg hhigh]

end Row

/-! ### The memory as a row -/

namespace Bytes

theorem ext_byteD {a b : ByteArray} (hsize : a.size = b.size) (h : byteD a = byteD b) : a = b := by
  apply ByteArray.ext_getElem hsize
  intro i hi hi'
  have hbyte := congrFun h i
  rwa [byteD, byteD, dif_pos hi, dif_pos hi'] at hbyte

theorem byteD_write32_eq {m : ByteArray} {o : Nat} (v : UInt32) (h : o + 4 ≤ m.size) :
    byteD (write32 m o v) = Row.stored o (Word.lanes v) (byteD m) := by
  obtain ⟨h0, h1, h2, h3⟩ := byteD_write32 (v := v) h
  refine (Row.stored_lanes_eq _ o (fun i hi => byteD_write32_of_ne hi) fun k hk => ?_).symm
  match k, hk with
  | 0, _ => exact h0
  | 1, _ => exact h1
  | 2, _ => exact h2
  | 3, _ => exact h3

theorem write32_write32 (m : ByteArray) (o : Nat) (v w : UInt32) :
    write32 (write32 m o v) o w = write32 m o w := by
  have hlen : (Word.lanes v).length = (Word.lanes w).length := rfl
  apply ext_byteD (by simp)
  by_cases h : o + 4 ≤ m.size
  · rw [byteD_write32_eq w (by rwa [size_write32]), byteD_write32_eq v h, byteD_write32_eq w h,
      Row.stored_stored _ _ hlen]
  · rw [write32, size_write32, if_neg h, write32, if_neg h, write32, if_neg h]

end Bytes

namespace Aperture

namespace Memory

/-- The bytes of the frame buffer and, behind them, those of the texture memory. -/
def row (m : Memory) (i : Nat) : UInt8 :=
  if i < m.frame.size then Bytes.byteD m.frame i else Bytes.byteD m.texture (i - m.frame.size)

variable (m : Memory) {o : UInt32}

theorem readFrame32?_eq (h : o.toNat + 4 ≤ m.frame.size) :
    m.readFrame32? o = some (Row.word m.row o.toNat) := by
  rw [readFrame32?, Bytes.read32?_eq, if_pos h, Row.word]
  simp only [row]
  rw [if_pos (by omega), if_pos (by omega), if_pos (by omega), if_pos (by omega)]

theorem readTexture32?_eq (h : o.toNat + 4 ≤ m.texture.size) :
    m.readTexture32? o = some (Row.word m.row (m.frame.size + o.toNat)) := by
  rw [readTexture32?, Bytes.read32?_eq, if_pos h, Row.word]
  simp only [row, Nat.add_assoc]
  rw [if_neg (by omega), if_neg (by omega), if_neg (by omega), if_neg (by omega)]
  simp only [Nat.add_sub_cancel_left]

theorem row_writeFrame32 (v : UInt32) (h : o.toNat + 4 ≤ m.frame.size) :
    (m.writeFrame32 o v).row = Row.stored o.toNat (Word.lanes v) m.row := by
  funext i
  have hsize : (m.writeFrame32 o v).frame.size = m.frame.size := Bytes.size_write32 ..
  have hlen : (Word.lanes v).length = 4 := rfl
  rw [row, hsize]
  show (if i < m.frame.size then Bytes.byteD (Bytes.write32 m.frame o.toNat v) i
    else Bytes.byteD m.texture (i - m.frame.size)) = _
  rw [Bytes.byteD_write32_eq v h]
  by_cases hi : i < m.frame.size
  · simp only [Row.stored, row, hi, if_true]
  · rw [if_neg hi, Row.stored_outside _ _ (by omega), row, if_neg hi]

theorem row_writeTexture32 (v : UInt32) (h : o.toNat + 4 ≤ m.texture.size) :
    (m.writeTexture32 o v).row = Row.stored (m.frame.size + o.toNat) (Word.lanes v) m.row := by
  funext i
  have hlen : (Word.lanes v).length = 4 := rfl
  rw [row]
  show (if i < m.frame.size then Bytes.byteD m.frame i
    else Bytes.byteD (Bytes.write32 m.texture o.toNat v) (i - m.frame.size)) = _
  rw [Bytes.byteD_write32_eq v h]
  by_cases hi : i < m.frame.size
  · rw [if_pos hi, Row.stored_outside _ _ (by omega), row, if_pos hi]
  · rw [if_neg hi]
    simp only [Row.stored, row, hi, if_false, hlen]
    by_cases hin : m.frame.size + o.toNat ≤ i ∧ i < m.frame.size + o.toNat + 4
    · rw [if_pos (by omega), if_pos hin, Nat.sub_sub]
    · rw [if_neg (by omega), if_neg hin]

theorem row_zeroed (mode : Mode) : (zeroed mode).row = fun _ => 0 := by
  funext i
  rw [row, zeroed, Bytes.byteD_zeros, Bytes.byteD_zeros, ite_self]

theorem eq_of_parts {m n : Memory} (hmode : m.mode = n.mode) (hframe : m.frame = n.frame)
    (htexture : m.texture = n.texture) : m = n := by
  cases m
  cases n
  simp only at hmode hframe htexture
  subst hmode hframe htexture
  rfl

end Memory

end Aperture

end PumaBoard
