import PumaBoard.Register.Map

/-!
The PUMA aperture: three consecutive regions (frame buffer, register window, texture memory)
whose sizes depend on the mode, and the decoding of an aperture address into its region. Every
register owns a page of 4 KB, so its index is in bits 12 to 19 of the offset into the window.
-/

namespace PumaBoard.Aperture

/-! ### Modes -/

/-- The size of the aperture, fixed when the board is built. -/
inductive Mode where
  | mb8
  | mb4
deriving DecidableEq, Repr, Inhabited

namespace Mode

/-- The aperture size in megabytes. -/
def megabytes : Mode → Nat
  | mb8 => 8
  | mb4 => 4

/-- The name of the mode in configurations and reports. -/
def name : Mode → String
  | mb8 => "8mb"
  | mb4 => "4mb"

/-- The mode with the given name. -/
def ofName? (s : String) : Option Mode :=
  if s = "8mb" then some mb8 else if s = "4mb" then some mb4 else none

end Mode

/-! ### Layout -/

/-- Start and size of each region, in bytes. -/
structure Layout where
  frameStart : UInt32
  frameSize : UInt32
  registerStart : UInt32
  registerSize : UInt32
  textureStart : UInt32
  textureSize : UInt32
deriving DecidableEq, Repr

/-- The layout of a mode: half the aperture is frame buffer, a quarter registers and a quarter
texture memory. -/
def Mode.layout : Mode → Layout
  | .mb8 => ⟨0x000000, 0x400000, 0x400000, 0x200000, 0x600000, 0x200000⟩
  | .mb4 => ⟨0x000000, 0x200000, 0x200000, 0x100000, 0x300000, 0x100000⟩

namespace Layout

/-- The size of the whole aperture. -/
def size (l : Layout) : UInt32 := l.textureStart + l.textureSize

/-- Whether an address lies in the frame buffer. -/
def inFrame (l : Layout) (addr : UInt32) : Bool :=
  l.frameStart ≤ addr && addr < l.frameStart + l.frameSize

/-- Whether an address lies in the texture memory. -/
def inTexture (l : Layout) (addr : UInt32) : Bool :=
  l.textureStart ≤ addr && addr < l.textureStart + l.textureSize

/-- The register whose page holds an address of the register window. -/
def register? (l : Layout) (addr : UInt32) : Option Register :=
  if l.registerStart ≤ addr && addr < l.registerStart + l.registerSize then
    some (.ofWord ((addr - l.registerStart) >>> 12))
  else none

/-- The number of register pages in the window. -/
def pages (l : Layout) : UInt32 := l.registerSize >>> 12

/-- The register that owns page `n` of the register window, counted from its start. -/
def page? (l : Layout) (n : UInt32) : Option Register :=
  if n < l.pages then some (.ofWord n) else none

end Layout

/-! ### Regions -/

/-- What an aperture address stands for. Offsets count from the start of the region. -/
inductive Region where
  | frame (offset : UInt32)
  | register (index : Register)
  | texture (offset : UInt32)
  | invalid
deriving DecidableEq, Repr

/-- The region of an address. -/
def Layout.decode (l : Layout) (addr : UInt32) : Region :=
  if l.inFrame addr then .frame (addr - l.frameStart)
  else
    match l.register? addr with
    | some r => .register r
    | none => if l.inTexture addr then .texture (addr - l.textureStart) else .invalid

end PumaBoard.Aperture
