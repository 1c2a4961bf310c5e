import PumaBoard.Word

/-!
Byte memories: little-endian reads and writes of halfwords and words, fills and comparisons over
a `ByteArray`. An access that does not lie wholly inside the memory reads nothing and writes
nothing, and no write changes the size.
-/

namespace PumaBoard.Bytes

/-! ### Zeroed memory -/

/-- A memory of `n` zero bytes. -/
def zeros (n : Nat) : ByteArray :=
  if n = 0 then ByteArray.empty
  else
    let half := zeros (n / 2)
    if n % 2 = 1 then (half ++ half).push 0 else half ++ half

theorem size_zeros (n : Nat) : (zeros n).size = n := by
  induction n using Nat.strongRecOn with
  | ind n ih =>
    unfold zeros
    split
    · next h => simp [h]
    · next h =>
      have half := ih (n / 2) (by omega)
      split
      · simp only [ByteArray.size_push, ByteArray.size_append, half]; omega
      · simp only [ByteArray.size_append, half]; omega

/-! ### Single bytes -/

@[simp] theorem size_set (m : ByteArray) (i : Nat) (v : UInt8) (h : i < m.size) :
    (m.set i v h).size = m.size := by
  rw [← ByteArray.size_data, ByteArray.data_set, Array.size_set, ByteArray.size_data]

/-- The byte at `i`, or `0` past the end. -/
def byteD (m : ByteArray) (i : Nat) : UInt8 := if h : i < m.size then m[i] else 0

/-- Writes the byte at `i`; a write past the end is dropped. -/
def put (m : ByteArray) (i : Nat) (v : UInt8) : ByteArray :=
  if h : i < m.size then m.set i v h else m

@[simp] theorem size_put (m : ByteArray) (i : Nat) (v : UInt8) : (put m i v).size = m.size := by
  unfold put; split <;> simp

/-! ### Halfwords and words -/

/-- Whether the `n` bytes from `o` on all lie inside the memory. -/
def holds (m : ByteArray) (o n : Nat) : Bool := o + n ≤ m.size

/-- The halfword at `o`, or nothing if it does not lie inside the memory. -/
def read16? (m : ByteArray) (o : Nat) : Option UInt16 :=
  if h : o + 2 ≤ m.size then some (Word.ofHalfLanes m[o] m[o + 1]) else none

/-- The word at `o`, or nothing if it does not lie inside the memory. -/
def read32? (m : ByteArray) (o : Nat) : Option UInt32 :=
  if h : o + 4 ≤ m.size then some (Word.ofLanes m[o] m[o + 1] m[o + 2] m[o + 3]) else none

/-- Writes the halfword at `o`, if it lies inside the memory. -/
def write16 (m : ByteArray) (o : Nat) (v : UInt16) : ByteArray :=
  if o + 2 ≤ m.size then put (put m o v.toUInt8) (o + 1) (v >>> 8).toUInt8 else m

/-- Writes the word at `o`, if it lies inside the memory. -/
def write32 (m : ByteArray) (o : Nat) (v : UInt32) : ByteArray :=
  if o + 4 ≤ m.size then
    put (put (put (put m o (Word.lane v 0)) (o + 1) (Word.lane v 1)) (o + 2) (Word.lane v 2))
      (o + 3) (Word.lane v 3)
  else m

@[simp] theorem size_write16 (m : ByteArray) (o : Nat) (v : UInt16) :
    (write16 m o v).size = m.size := by
  unfold write16; split <;> simp

@[simp] theorem size_write32 (m : ByteArray) (o : Nat) (v : UInt32) :
    (write32 m o v).size = m.size := by
  unfold write32; split <;> simp

/-! ### Ranges -/

/-- Writes `v` to the `n` bytes from `o` on; what lies past the end is dropped. -/
def fill (m : ByteArray) (o : Nat) (v : UInt8) : Nat → ByteArray
  | 0 => m
  | n + 1 => fill (put m o v) (o + 1) v n

@[simp] theorem size_fill (m : ByteArray) (o : Nat) (v : UInt8) (n : Nat) :
    (fill m o v n).size = m.size := by
  induction n generalizing m o with
  | zero => rfl
  | succ n ih => simp [fill, ih]

/-- The `n` bytes from `o` on, cut at the end of the memory. -/
def slice (m : ByteArray) (o n : Nat) : ByteArray := m.extract o (o + n)

/-- The memory cut or extended with zeros to `n` bytes. -/
def resize (m : ByteArray) (n : Nat) : ByteArray :=
  if n ≤ m.size then m.extract 0 n else m ++ zeros (n - m.size)

/-- Whether the first `n` bytes of two memories are the same. -/
def samePrefix (a b : ByteArray) : Nat → Bool
  | 0 => true
  | n + 1 => if byteD a n = byteD b n then samePrefix a b n else false

/-- Whether two memories hold the same bytes. -/
def same (a b : ByteArray) : Bool := a.size = b.size && samePrefix a b a.size

end PumaBoard.Bytes
