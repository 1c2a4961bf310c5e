import PumaBoard.Register.Map
import PumaBoard.Triangle.Field

/-!
What each register does: the mask of what it stores, the effect of a write, where a read takes
its value from, and whether a read through the aperture sign-extends the low 24 bits.
-/

namespace PumaBoard

/-- A command started by writing its register. -/
inductive Command where
  | triangle
  | floatTriangle
  | nop
  | fastFill
  | swapBuffer
  | swapPend
deriving DecidableEq, Repr

/-- A control register of the command ring. -/
inductive RingControl where
  | base
  | top
  | bottom
  | readPtr
  | threshold
  | enable
deriving DecidableEq, Repr

/-- A statistics counter of the pixel pipeline. -/
inductive PixelCounter where
  | pixelsIn
  | chromaFail
  | depthFail
  | alphaFail
  | pixelsOut
deriving DecidableEq, Repr

/-- What a write does besides storing the masked value. -/
inductive Effect where
  | none
  | triangle (field : Triangle.Field)
  | floatTriangle (field : Triangle.Field)
  /-- Two fog table entries, of the pair with this number. -/
  | fog (pair : Fin 32)
  /-- The init register with this number. -/
  | init (n : Fin 6)
  | ring (control : RingControl)
  | command (command : Command)
deriving DecidableEq, Repr

/-- Where a read takes its value from. -/
inductive Source where
  | stored
  | status
  | version
  | pixels (counter : PixelCounter)
  | ringCount
  | ringReadPtr
  | ring (control : RingControl)
deriving DecidableEq, Repr

/-- The behaviour of one register. -/
structure Descriptor where
  mask : UInt32 := 0xFFFFFFFF
  effect : Effect := .none
  source : Source := .stored
  /-- Reads through the aperture sign-extend the low 24 bits. -/
  signExtended : Bool := false
deriving DecidableEq, Repr, Inhabited

/-! ### The table -/

/-- A register of the command ring. -/
def Descriptor.ring (control : RingControl) (mask : UInt32) : Descriptor :=
  { mask := mask, effect := .ring control, source := .ring control }

/-- The behaviour of a register that starts a command. -/
def Descriptor.starts (command : Command) : Descriptor := { effect := .command command }

namespace Register

/-- The field of the integer bank that a register sets. -/
def triangleField? (r : Register) : Option Triangle.Field :=
  if h : 0x02 ≤ r.val ∧ r.val ≤ 0x1F then some (.ofIndex ⟨r.val - 0x02, by omega⟩) else none

/-- The field of the floating point bank that a register sets. -/
def floatField? (r : Register) : Option Triangle.Field :=
  if h : 0x22 ≤ r.val ∧ r.val ≤ 0x3F then some (.ofIndex ⟨r.val - 0x22, by omega⟩) else none

/-- The pair of fog table entries that a register sets. -/
def fogPair? (r : Register) : Option (Fin 32) :=
  if h : 0x70 ≤ r.val ∧ r.val ≤ 0x8F then some ⟨r.val - 0x70, by omega⟩ else none

/-- The number of an init register. -/
def initNumber? (r : Register) : Option (Fin 6) :=
  if h : 0x90 ≤ r.val ∧ r.val ≤ 0x95 then some ⟨r.val - 0x90, by omega⟩ else none

/-- Whether a register of the integer bank reads back sign-extended: the block from the first
gradient of red to the last gradient of alpha does. -/
def readsSigned (r : Register) : Bool := 0x09 ≤ r.val && r.val ≤ 0x16

/-- The source of an init register: 4 and 5 show the live count and read pointer of the ring. -/
def initSource (n : Fin 6) : Source :=
  match n.val with
  | 4 => .ringCount
  | 5 => .ringReadPtr
  | _ => .stored

/-- The behaviour of the registers outside the banks and the fog table. -/
def controlDescriptor (r : Register) : Descriptor :=
  match r.val with
  | 0x00 => { source := .status }
  | 0x20 => .starts .triangle
  | 0x40 => .starts .floatTriangle
  | 0x42 => .starts .nop
  | 0x44 => .starts .fastFill
  | 0x46 => .starts .swapBuffer
  | 0x48 => .starts .swapPend
  | 0x50 => { mask := 0x0FFFFFFF }
  | 0x51 => { mask := 0x3F }
  | 0x54 => { mask := 0x000FFFFF }
  | 0x58 => { mask := 0x00FFFFFF }
  | 0x5A => { mask := 0x00FFFFFF }
  | 0x5B => { mask := 0x1FFFFFFF }
  | 0x61 => { mask := 0x7FFFFFFF }
  | 0xA0 => { source := .version }
  | 0xA1 => { source := .pixels .pixelsIn }
  | 0xA2 => { source := .pixels .chromaFail }
  | 0xA3 => { source := .pixels .depthFail }
  | 0xA4 => { source := .pixels .alphaFail }
  | 0xA5 => { source := .pixels .pixelsOut }
  | 0xC1 => { mask := 0x7FFFFFFF }
  | 0xC2 => { mask := 0x7FFFFFFF }
  | 0xC3 => { mask := 0xFFFF }
  | 0xC4 => { mask := 0x7FFFF }
  | 0xC5 => { mask := 0x7FFFF }
  | 0xC6 => { mask := 0x7FFFF }
  | 0xC7 => { mask := 0x7FFFF }
  | 0xE8 => .ring .base 0xFFFF
  | 0xE9 => .ring .top 0xFFFF
  | 0xEA => .ring .bottom 0xFFFF
  | 0xEB => .ring .readPtr 0xFFFF
  | 0xEC => .ring .threshold 0xFFFF
  | 0xED => .ring .enable 0x1
  | _ => {}

/-- The behaviour of a register. -/
def descriptor (r : Register) : Descriptor :=
  match r.triangleField?, r.floatField?, r.fogPair?, r.initNumber? with
  | some f, _, _, _ => { effect := .triangle f, signExtended := r.readsSigned }
  | _, some f, _, _ => { effect := .floatTriangle f }
  | _, _, some n, _ => { effect := .fog n }
  | _, _, _, some n => { effect := .init n, source := initSource n }
  | _, _, _, _ => r.controlDescriptor

end Register

end PumaBoard
