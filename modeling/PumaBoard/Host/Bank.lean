/-!
The functional banks of the host chip's register window of 64 KB. A bank only names what an
offset belongs to; every byte of the window has storage of its own.
-/

namespace PumaBoard.Host

/-- A functional bank. -/
inductive Bank where
  | extSetup
  | engine2d
  | motionVideo
  | cursor
  | tileBuffer
  | engine3d
  | thp
  | vmiHost
  | vmiVideo
  /-- Not assigned; plain storage. -/
  | raw
deriving DecidableEq, Repr

namespace Bank

/-- The bank of an offset, taken modulo the size of the window. -/
def ofOffset (offset : UInt32) : Bank :=
  let o := (offset &&& 0xFFFF).toNat
  if o ≤ 0x01F then extSetup
  else if 0x030 ≤ o ∧ o ≤ 0x06F then engine2d
  else if 0x080 ≤ o ∧ o ≤ 0x09F then motionVideo
  else if 0x140 ≤ o ∧ o ≤ 0x15F then cursor
  else if 0x200 ≤ o ∧ o ≤ 0x2FF then tileBuffer
  else if 0x300 ≤ o ∧ o ≤ 0x3FF then engine3d
  else if 0x400 ≤ o ∧ o ≤ 0x4FF then thp
  else if 0x500 ≤ o ∧ o ≤ 0x5FF then vmiHost
  else if 0x600 ≤ o ∧ o ≤ 0x6FF then vmiVideo
  else raw

/-- The name of the bank in notices. -/
def name : Bank → String
  | extSetup => "ext-setup"
  | engine2d => "2d"
  | motionVideo => "video"
  | cursor => "cursor"
  | tileBuffer => "tile"
  | engine3d => "3d"
  | thp => "thp"
  | vmiHost => "vmi-host"
  | vmiVideo => "vmi-video"
  | raw => "raw"

end Bank

end PumaBoard.Host
