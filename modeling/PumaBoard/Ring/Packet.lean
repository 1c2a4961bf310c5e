import PumaBoard.Word

/-!
The packets of the command ring. A packet starts with a header word and a data word; bits 2 to 22
of the header number a register page. Two zero words are a packet that does nothing, a header
with the top bit clear writes its data word to one register, and a header with the top bit set
is followed by one word for every set bit of its mask.
-/

namespace PumaBoard.Ring

/-- A packet, as its first two words give it. -/
inductive Packet where
  | nop
  | single (page value : UInt32)
  | group (base mask : UInt32)
deriving DecidableEq, Repr

namespace Packet

/-- The register page in a header. -/
def page (header : UInt32) : UInt32 := (header >>> 2) &&& 0x1FFFFF

/-- The packet that starts with the given words. -/
def decode (header data : UInt32) : Packet :=
  if header = 0 ∧ data = 0 then .nop
  else if header &&& 0x80000000 ≠ 0 then .group (page header) data
  else .single (page header) data

/-- The number of words the read pointer moves past the packet. A group without writes counts as
two words. -/
def length : Packet → UInt32
  | nop | single _ _ => 2
  | group _ mask => if Word.population mask = 0 then 2 else 1 + Word.population mask

end Packet

end PumaBoard.Ring
