import PumaBoard.Coprocessor.Drain

/-!
The ways into the coprocessor: words of the PUMA aperture, the bridge of the host chip, and
narrow accesses, which read and write the word around them.
-/

namespace PumaBoard.Coprocessor

/-! ### The aperture -/

/-- The name of the device on the bus. -/
def deviceName : String := "voodoo-rush"

/-- The size of the aperture. -/
def apertureSize (d : Coprocessor) : UInt32 := d.layout.size

/-- The word of a region: a register of the signed block reads sign-extended. -/
def regionValue (d : Coprocessor) : Aperture.Region → UInt32
  | .frame offset => (d.memory.readFrame32? (offset &&& ~~~3)).getD 0
  | .register r =>
    if r.descriptor.signExtended then Word.signExtend24 (d.readRegister r) else d.readRegister r
  | .texture offset => (d.memory.readTexture32? (offset &&& ~~~3)).getD 0
  | .invalid => 0

/-- The word at an aperture address; a disabled coprocessor shows zeros. -/
def peek (d : Coprocessor) (addr : UInt32) : UInt32 :=
  if d.enabled then d.regionValue (d.layout.decode addr) else 0

/-- Reads a word of the aperture. An address outside every region is worth a notice. -/
def read32 (d : Coprocessor) (addr : UInt32) : UInt32 × Coprocessor :=
  let value := d.peek addr
  (value, if d.enabled && d.layout.decode addr = .invalid then d.note (.invalidRead addr) else d)

/-- Tells the texture units of the engine to forget a page. -/
def flushPage (d : Coprocessor) (page : UInt32) : Coprocessor :=
  match d.backend with
  | none => d
  | some b => b.units.foldl (fun d tmu => d.call (.flush page tmu)) d

/-- Writes a word of a region. The frame buffer words of an enabled ring go to the ring. -/
def writeRegion (d : Coprocessor) (addr v : UInt32) : Aperture.Region → Coprocessor
  | .frame offset =>
    if d.ring.enabled && d.ring.contains offset then d.writeRing offset v
    else d.storeFrame (offset &&& ~~~3) v
  | .register r => d.writeRegister r v
  | .texture offset =>
    { d with memory := d.memory.writeTexture32 (offset &&& ~~~3) v }.flushPage
      ((offset >>> 12) <<< 12)
  | .invalid => d.note (.invalidWrite addr v)

/-- Writes a word of the aperture; a disabled coprocessor takes no notice. -/
def write32 (d : Coprocessor) (addr v : UInt32) : Coprocessor :=
  if d.enabled then d.writeRegion addr v (d.layout.decode addr) else d

/-! ### The bridge -/

/-- Writes a word through the bridge; one to the frame buffer raises the request flag. -/
def bridgeWrite (d : Coprocessor) (addr v : UInt32) : Coprocessor :=
  if d.enabled then
    let d := d.write32 addr v
    if d.layout.inFrame addr then { d with pumaRequest := true } else d
  else d

/-- Reads a word through the bridge; one of the frame buffer raises the grant flag. -/
def bridgeRead (d : Coprocessor) (addr : UInt32) : UInt32 × Coprocessor :=
  if d.enabled then
    let (value, d) := d.read32 addr
    (value, if d.layout.inFrame addr then { d with pumaGrant := true } else d)
  else (0, d)

/-! ### Narrow accesses -/

/-- The address of the word around an address. -/
def aligned (addr : UInt32) : UInt32 := addr &&& ~~~3

/-- How far the halfword at an address is shifted within its word. -/
def halfShift (addr : UInt32) : UInt32 := (addr &&& 2) * 8

/-- How far the byte at an address is shifted within its word. -/
def byteShift (addr : UInt32) : UInt32 := (addr &&& 3) * 8

/-- The word with the bits of `mask`, shifted, replaced by a value. -/
def insertBits (word mask shift v : UInt32) : UInt32 :=
  (word &&& ~~~(mask <<< shift)) ||| (v <<< shift)

/-- Reads a halfword of the aperture. -/
def read16 (d : Coprocessor) (addr : UInt32) : UInt16 × Coprocessor :=
  let (word, d) := d.read32 (aligned addr)
  ((word >>> halfShift addr).toUInt16, d)

/-- Reads a byte of the aperture. -/
def read8 (d : Coprocessor) (addr : UInt32) : UInt8 × Coprocessor :=
  let (word, d) := d.read32 (aligned addr)
  ((word >>> byteShift addr).toUInt8, d)

/-- Writes a halfword by reading its word and writing it back. -/
def write16 (d : Coprocessor) (addr : UInt32) (v : UInt16) : Coprocessor :=
  let (word, d) := d.read32 (aligned addr)
  d.write32 (aligned addr) (insertBits word 0xFFFF (halfShift addr) v.toUInt32)

/-- Writes a byte by reading its word and writing it back. -/
def write8 (d : Coprocessor) (addr : UInt32) (v : UInt8) : Coprocessor :=
  let (word, d) := d.read32 (aligned addr)
  d.write32 (aligned addr) (insertBits word 0xFF (byteShift addr) v.toUInt32)

end PumaBoard.Coprocessor
