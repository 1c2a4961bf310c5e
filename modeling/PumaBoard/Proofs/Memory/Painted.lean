import PumaBoard.Proofs.Memory.Flat

/-!
Painting: writes of which only the places and the values count, and not the order. A relation says
which values are put at which places; after the writes a byte is one of the values put there, or as
before if there is none.
-/

namespace PumaBoard.Bytes

/-- The second memory is the first one painted: each byte is one of the values that `P` puts at its
place, and the byte of the first memory where `P` puts none. -/
structure Painted (P : Nat → UInt8 → Prop) (a b : ByteArray) : Prop where
  size : b.size = a.size
  byte : ∀ o, P o (byteD b o) ∨ (∀ v, ¬ P o v) ∧ byteD b o = byteD a o

/-- The bytes that a halfword at `i` puts into a memory of `size` bytes: both or none. -/
def PutsHalf (size i : Nat) (w : UInt16) (o : Nat) (v : UInt8) : Prop :=
  i + 2 ≤ size ∧ (o = i ∧ v = w.toUInt8 ∨ o = i + 1 ∧ v = (w >>> 8).toUInt8)

namespace Painted

variable {P Q : Nat → UInt8 → Prop} {a b c : ByteArray}

/-! ### What a painted memory holds -/

theorem byte_of_not (h : Painted P a b) {o : Nat} (hP : ∀ v, ¬ P o v) :
    byteD b o = byteD a o := by
  rcases h.byte o with hput | ⟨-, hold⟩
  · exact absurd hput (hP _)
  · exact hold

theorem byte_of (h : Painted P a b) {o : Nat} {v : UInt8} (hv : P o v) : P o (byteD b o) := by
  rcases h.byte o with hput | ⟨hP, -⟩
  · exact hput
  · exact absurd hv (hP v)

/-- Where no place gets two values, what is painted and on what decides the outcome. -/
theorem eq (h : Painted P a b) (h' : Painted P a c) (hP : ∀ {o v w}, P o v → P o w → v = w) :
    b = c := by
  apply ext_byteD (h.size.trans h'.size.symm)
  funext o
  rcases h.byte o with hput | ⟨hnone, hold⟩
  · exact hP hput (h'.byte_of hput)
  · rw [hold, h'.byte_of_not hnone]

/-! ### One painting after the other -/

theorem congr (h : Painted P a b) (hPQ : ∀ o v, P o v ↔ Q o v) : Painted Q a b := by
  have hPQ' : P = Q := funext fun o => funext fun v => propext (hPQ o v)
  exact hPQ' ▸ h

/-- Painting nothing leaves the memory as it is. -/
theorem nothing (hP : ∀ o v, ¬ P o v) : Painted P a a := ⟨rfl, fun o => .inr ⟨hP o, rfl⟩⟩

theorem trans (h : Painted P a b) (h' : Painted Q b c) :
    Painted (fun o v => P o v ∨ Q o v) a c where
  size := h'.size.trans h.size
  byte o := by
    rcases h'.byte o with hput | ⟨hQ, hold'⟩
    · exact .inl (.inr hput)
    · rw [hold']
      rcases h.byte o with hput | ⟨hP, hold⟩
      · exact .inl (.inl hput)
      · exact .inr ⟨fun v hv => hv.elim (hP v) (hQ v), hold⟩

/-- The paintings of a loop: that of the first turn, and those of the others after it. -/
theorem cons {R : Nat → Nat → UInt8 → Prop} {k n : Nat} (h : Painted (R k) a b)
    (h' : Painted (fun o v => ∃ i, k + 1 ≤ i ∧ i < k + 1 + n ∧ R i o v) b c) :
    Painted (fun o v => ∃ i, k ≤ i ∧ i < k + (n + 1) ∧ R i o v) a c := by
  refine (h.trans h').congr fun o v => ⟨?_, ?_⟩
  · rintro (hk | ⟨i, hlo, hhi, hi⟩)
    · exact ⟨k, by omega, by omega, hk⟩
    · exact ⟨i, by omega, by omega, hi⟩
  · rintro ⟨i, hlo, hhi, hi⟩
    by_cases hik : i = k
    · exact .inl (hik ▸ hi)
    · exact .inr ⟨i, by omega, by omega, hi⟩

/-! ### Writes -/

theorem put (a : ByteArray) (i : Nat) (w : UInt8) :
    Painted (fun o v => o = i ∧ o < a.size ∧ v = w) a (Bytes.put a i w) where
  size := size_put ..
  byte o := by
    rw [byteD_put]
    by_cases h : i = o ∧ o < a.size
    · rw [if_pos h]
      exact .inl ⟨h.1.symm, h.2, rfl⟩
    · rw [if_neg h]
      exact .inr ⟨fun v hv => h ⟨hv.1.symm, hv.2.1⟩, rfl⟩

/-- A halfword puts its two bytes, if both lie in the memory. -/
theorem write16 (a : ByteArray) (i : Nat) (w : UInt16) :
    Painted (PutsHalf a.size i w) a (Bytes.write16 a i w) := by
  unfold Bytes.write16
  split
  · next h =>
    refine ((put a i _).trans (put _ (i + 1) _)).congr fun o v => ?_
    rw [size_put]
    constructor
    · rintro (⟨ho, -, hv⟩ | ⟨ho, -, hv⟩)
      · exact ⟨h, .inl ⟨ho, hv⟩⟩
      · exact ⟨h, .inr ⟨ho, hv⟩⟩
    · rintro ⟨-, ⟨ho, hv⟩ | ⟨ho, hv⟩⟩
      · exact .inl ⟨ho, by omega, hv⟩
      · exact .inr ⟨ho, by omega, hv⟩
  · next h => exact nothing fun o v hv => h hv.1

theorem fill (a : ByteArray) (i n : Nat) (w : UInt8) :
    Painted (fun o v => i ≤ o ∧ o < i + n ∧ o < a.size ∧ v = w) a (Bytes.fill a i w n) := by
  have hloop : Painted (fun o v => ∃ j, i ≤ j ∧ j < i + n ∧ o = j ∧ o < a.size ∧ v = w) a
      (Bytes.fill a i w n) := by
    induction n generalizing a i with
    | zero => exact nothing fun o v ⟨j, hlo, hhi, _⟩ => by omega
    | succ n ih =>
      have hrest := ih (Bytes.put a i w) (i + 1)
      rw [size_put] at hrest
      exact (put a i w).cons hrest
  refine hloop.congr fun o v => ⟨?_, ?_⟩
  · rintro ⟨j, hlo, hhi, rfl, h⟩
    exact ⟨hlo, hhi, h⟩
  · rintro ⟨hlo, hhi, h⟩
    exact ⟨o, hlo, hhi, rfl, h⟩

end Painted

end PumaBoard.Bytes
