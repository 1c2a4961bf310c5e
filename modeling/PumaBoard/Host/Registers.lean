import PumaBoard.Bytes

/-!
The stored bytes of the host chip's register window. Offsets wrap at 64 KB, also within a word.
-/

namespace PumaBoard.Host

/-- The size of the register window. -/
def windowSize : Nat := 0x10000

/-- The bytes behind the register window. -/
structure Registers where
  bytes : ByteArray
  size_eq : bytes.size = windowSize

namespace Registers

/-- All bytes zero. -/
def zeroed : Registers := ⟨Bytes.zeros windowSize, Bytes.size_zeros _⟩

/-- The place of an offset in the window. -/
def place (offset : UInt32) : Nat := (offset &&& 0xFFFF).toNat

theorem place_lt (offset : UInt32) : place offset < windowSize := by
  have : place offset = offset.toNat % 2 ^ 16 := by
    simpa [place, UInt32.toNat_and] using Nat.and_two_pow_sub_one_eq_mod offset.toNat 16
  rw [this]
  exact Nat.mod_lt _ (by decide)

/-- The byte at an offset. -/
def byte (r : Registers) (offset : UInt32) : UInt8 :=
  r.bytes.get (place offset) (by rw [r.size_eq]; exact place_lt offset)

/-- The halfword at an offset. -/
def half (r : Registers) (offset : UInt32) : UInt16 :=
  Word.ofHalfLanes (r.byte offset) (r.byte (offset + 1))

/-- The word at an offset. -/
def word (r : Registers) (offset : UInt32) : UInt32 :=
  Word.ofLanes (r.byte offset) (r.byte (offset + 1)) (r.byte (offset + 2)) (r.byte (offset + 3))

/-- Writes the byte at an offset. -/
def setByte (r : Registers) (offset : UInt32) (v : UInt8) : Registers where
  bytes := Bytes.put r.bytes (place offset) v
  size_eq := by rw [Bytes.size_put]; exact r.size_eq

/-- Writes the word at an offset. -/
def setWord (r : Registers) (offset : UInt32) (v : UInt32) : Registers :=
  (((r.setByte offset (Word.lane v 0)).setByte (offset + 1) (Word.lane v 1)).setByte
    (offset + 2) (Word.lane v 2)).setByte (offset + 3) (Word.lane v 3)

end Registers

end PumaBoard.Host
