import PumaBoard.Bytes

/-!
The video memory of the host chip: 1, 2 or 4 MB of bytes seen through the linear aperture, where
addresses wrap at the size.
-/

namespace PumaBoard

/-- A size of video memory that the chip supports. -/
inductive VideoSize where
  | mb1
  | mb2
  | mb4
deriving DecidableEq, Repr, Inhabited

namespace VideoSize

/-- The size in megabytes. -/
def megabytes : VideoSize → UInt32
  | mb1 => 1
  | mb2 => 2
  | mb4 => 4

/-- The supported size of some megabytes. -/
def ofMegabytes? (n : UInt32) : Option VideoSize :=
  if n = 1 then some mb1 else if n = 2 then some mb2 else if n = 4 then some mb4 else none

/-- The size in bytes. -/
def bytes (s : VideoSize) : Nat := s.megabytes.toNat <<< 20

theorem bytes_pos (s : VideoSize) : 0 < s.bytes := by cases s <;> decide

end VideoSize

/-- The video memory. -/
structure VideoMemory where
  size : VideoSize
  bytes : ByteArray
  size_eq : bytes.size = size.bytes

namespace VideoMemory

/-- Zeroed video memory. -/
def zeroed (size : VideoSize) : VideoMemory := ⟨size, Bytes.zeros size.bytes, Bytes.size_zeros _⟩

/-- The mask that cuts an address to the memory, whose size is a power of two. -/
def mask (m : VideoMemory) : UInt32 := UInt32.ofNat (m.size.bytes - 1)

/-- The place of an address: what the mask leaves of it. -/
def place (m : VideoMemory) (addr : UInt32) : Nat := (addr &&& m.mask).toNat

/-- The mask cuts addresses to places around the memory. -/
theorem place_eq (m : VideoMemory) (addr : UInt32) :
    m.place addr = addr.toNat % m.size.bytes := by
  unfold place mask
  rw [UInt32.toNat_and]
  cases m.size with
  | mb1 => exact Nat.and_two_pow_sub_one_eq_mod _ 20
  | mb2 => exact Nat.and_two_pow_sub_one_eq_mod _ 21
  | mb4 => exact Nat.and_two_pow_sub_one_eq_mod _ 22

theorem place_lt (m : VideoMemory) (addr : UInt32) : m.place addr < m.bytes.size := by
  rw [place_eq, m.size_eq]; exact Nat.mod_lt _ m.size.bytes_pos

/-! ### Bytes -/

/-- The byte at an address. -/
def read8 (m : VideoMemory) (addr : UInt32) : UInt8 :=
  m.bytes.get (m.place addr) (m.place_lt addr)

/-- Writes the byte at an address. -/
def write8 (m : VideoMemory) (addr : UInt32) (v : UInt8) : VideoMemory :=
  { m with
    bytes := Bytes.put m.bytes (m.place addr) v
    size_eq := by rw [Bytes.size_put]; exact m.size_eq }

/-- Writes `v` to `n` bytes from `start` on. -/
def fill (m : VideoMemory) (start n : Nat) (v : UInt8) : VideoMemory :=
  { m with
    bytes := Bytes.fill m.bytes start v n
    size_eq := by rw [Bytes.size_fill]; exact m.size_eq }

/-! ### Halfwords and words -/

/-- The halfword at an address, each of its bytes around the memory. -/
def read16 (m : VideoMemory) (addr : UInt32) : UInt16 :=
  Word.ofHalfLanes (m.read8 addr) (m.read8 (addr + 1))

/-- The word at an address, each of its bytes around the memory. -/
def read32 (m : VideoMemory) (addr : UInt32) : UInt32 :=
  Word.ofLanes (m.read8 addr) (m.read8 (addr + 1)) (m.read8 (addr + 2)) (m.read8 (addr + 3))

/-- Writes bytes from an address on, each around the memory. -/
def writeBytes (m : VideoMemory) (addr : UInt32) : List UInt8 → VideoMemory
  | [] => m
  | b :: bs => writeBytes (m.write8 addr b) (addr + 1) bs

/-- Writes the halfword at an address. -/
def write16 (m : VideoMemory) (addr : UInt32) (v : UInt16) : VideoMemory :=
  m.writeBytes addr (Word.halfLanes v)

/-- Writes the word at an address. -/
def write32 (m : VideoMemory) (addr : UInt32) (v : UInt32) : VideoMemory :=
  m.writeBytes addr (Word.lanes v)

end VideoMemory

end PumaBoard
