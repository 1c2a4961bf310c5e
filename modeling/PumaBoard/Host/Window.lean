import PumaBoard.Host.Basic

/-!
The register window of the host chip. Every access is a sequence of byte accesses in ascending
order, and the effect of a register fires on the access to its top byte: it starts a drawing
command, acknowledges a 3D command, switches the coprocessor, or sends a word over the bridge.
-/

namespace PumaBoard.HostChip

/-! ### Registers with effects -/

/-- The 3D command register. -/
def commandSet : UInt32 := 0x300

/-- The bit that starts a 3D command. -/
def commandStart : UInt32 := 0x80000000

/-- The bridge control register; bit 0 enables the coprocessor. -/
def bridgeControl : UInt32 := 0x400

/-- The bridge status register. -/
def bridgeStatusOffset : UInt32 := 0x404

/-- The aperture address of bridge accesses. -/
def bridgeAddress : UInt32 := 0x408

/-- The word of bridge accesses. -/
def bridgeData : UInt32 := 0x40C

/-! ### Effects of writes -/

/-- Carries out the drawing command in the control register. -/
def runDraw (h : HostChip) : HostChip :=
  match Host.DrawCommand.ofControl (h.regs.word Host.Draw.control) with
  | .rectFill =>
    let fill := Host.RectFill.ofRegisters h.regs
    let (written, video) := h.video.rectFill fill
    { h with video := video }.note (.rectFilled fill written)
  | .unsupported code => h.note (.drawUnsupported code)

/-- Starts a drawing command if its start bit is set, and clears the bit when it is done. -/
def startDraw (h : HostChip) : HostChip :=
  let control := h.regs.word Host.Draw.control
  if control &&& Host.Draw.start ≠ 0 then
    let h := { h with busy := { h.busy with draw2d := true } }.runDraw
    { h with
      regs := h.regs.setWord Host.Draw.control (control &&& ~~~Host.Draw.start)
      busy := { h.busy with draw2d := false } }
  else h

/-- Acknowledges a 3D command if its start bit is set, and clears the bit. -/
def startRender (h : HostChip) : HostChip :=
  let word := h.regs.word commandSet
  if word &&& commandStart ≠ 0 then
    let h := { h with busy := { h.busy with render3d := true } }.note (.command3d word)
    { h with
      regs := h.regs.setWord commandSet (word &&& ~~~commandStart)
      busy := { h.busy with render3d := false } }
  else h

/-- Switches the coprocessor as bit 0 of the bridge control register says. -/
def updateBridge (h : HostChip) : HostChip :=
  let on := h.regs.word bridgeControl &&& 1 ≠ 0
  match h.coprocessor with
  | some _ => (h.withCoprocessor (·.setEnabled on)).note (.bridgeSwitched on)
  | none => if on then h.note .bridgeUnattached else h

/-- Sends the data word of the bridge to the coprocessor. -/
def sendBridge (h : HostChip) : HostChip :=
  let addr := h.regs.word bridgeAddress
  let data := h.regs.word bridgeData
  h.withEnabled (·.bridgeWrite addr data)

/-- The effect of a byte write besides storing the byte. -/
def affect (h : HostChip) (offset : UInt32) : HostChip :=
  if offset = 0x043 then h.startDraw
  else if offset = 0x303 then h.startRender
  else if offset = 0x403 then h.updateBridge
  else if offset = 0x40F then h.sendBridge
  else if Host.Cursor.dependsOn offset then
    { h with cursor := .ofRegisters h.regs h.video.mask }
  else h

/-! ### Byte accesses -/

/-- Writes a byte of the window. -/
def windowWrite8 (h : HostChip) (offset : UInt32) (v : UInt8) : HostChip :=
  let offset := offset &&& 0xFFFF
  let h := h.note (.windowWrite offset v)
  { h with regs := h.regs.setByte offset v }.affect offset

/-- The byte of the bridge status register that shows the coprocessor: with an enabled one the
low byte of its status is mixed in. -/
def statusByte (h : HostChip) (stored : UInt8) : UInt8 :=
  match h.coprocessor with
  | some d => if d.enabled then stored ||| d.statusValue.toUInt8 else stored
  | none => stored

/-- The value of a byte read. A byte of the bridge data register is fetched from an enabled
coprocessor. -/
def fetch8 (h : HostChip) (offset : UInt32) : UInt8 × HostChip :=
  let stored := h.regs.byte offset
  if offset = 0x405 then (h.statusByte stored, h)
  else if bridgeData ≤ offset && offset ≤ 0x40F then
    let addr := h.regs.word bridgeAddress
    let (word, h) := h.askEnabled (·.bridgeRead addr)
    match word with
    | some w => (Word.lane w (offset - bridgeData), h)
    | none => (stored, h)
  else (stored, h)

/-- Reads a byte of the window. -/
def windowRead8 (h : HostChip) (offset : UInt32) : UInt8 × HostChip :=
  let offset := offset &&& 0xFFFF
  let (value, h) := h.fetch8 offset
  (value, h.note (.windowRead offset value))

/-! ### Wider accesses -/

/-- Writes bytes of the window in ascending order; offsets wrap. -/
def windowWrite (h : HostChip) (offset : UInt32) : List UInt8 → HostChip
  | [] => h
  | b :: bs => windowWrite (h.windowWrite8 offset b) (offset + 1) bs

/-- Writes a halfword of the window. -/
def windowWrite16 (h : HostChip) (offset : UInt32) (v : UInt16) : HostChip :=
  h.windowWrite offset (Word.halfLanes v)

/-- Writes a word of the window. -/
def windowWrite32 (h : HostChip) (offset : UInt32) (v : UInt32) : HostChip :=
  h.windowWrite offset (Word.lanes v)

/-- Reads a halfword of the window. -/
def windowRead16 (h : HostChip) (offset : UInt32) : UInt16 × HostChip :=
  let (b₀, h) := h.windowRead8 offset
  let (b₁, h) := h.windowRead8 (offset + 1)
  (Word.ofHalfLanes b₀ b₁, h)

/-- Reads a word of the window. -/
def windowRead32 (h : HostChip) (offset : UInt32) : UInt32 × HostChip :=
  let (b₀, h) := h.windowRead8 offset
  let (b₁, h) := h.windowRead8 (offset + 1)
  let (b₂, h) := h.windowRead8 (offset + 2)
  let (b₃, h) := h.windowRead8 (offset + 3)
  (Word.ofLanes b₀ b₁ b₂ b₃, h)

/-- Reads the bridge status register. -/
def bridgeStatus (h : HostChip) : UInt32 × HostChip := h.windowRead32 bridgeStatusOffset

/-! ### Other entries -/

/-- The name of the device on the bus. -/
def deviceName : String := "at3d-mmio"

/-- Reads a word of the aperture of an enabled coprocessor, and zero without one. -/
def apertureRead (h : HostChip) (addr : UInt32) : UInt32 × HostChip :=
  let (word, h) := h.askEnabled (·.read32 addr)
  (word.getD 0, h)

/-- Writes a word of the aperture of an enabled coprocessor. -/
def apertureWrite (h : HostChip) (addr v : UInt32) : HostChip := h.withEnabled (·.write32 addr v)

/-- Passes a vertical sync on to an enabled coprocessor. -/
def vsync (h : HostChip) : HostChip := h.withEnabled Coprocessor.vsync

/-- Changes the video memory. -/
def withVideo (h : HostChip) (f : VideoMemory → VideoMemory) : HostChip :=
  { h with video := f h.video }

end PumaBoard.HostChip
