import PumaBoard.Aperture.Layout
import PumaBoard.Host.Bank
import PumaBoard.Host.RectFill
import PumaBoard.Ring.Basic
import PumaBoard.Surface
import PumaBoard.Text.Hex
import PumaBoard.Window

/-!
The notices that the board gives while it works, each with its level and its wording.
-/

namespace PumaBoard

/-! ### Levels -/

/-- How important a notice is. -/
inductive Level where
  | warn
  | info
  | debug
  | trace
deriving DecidableEq, Repr

namespace Level

/-- The place of a level, the most important first. -/
def rank : Level → Nat
  | warn => 0
  | info => 1
  | debug => 2
  | trace => 3

/-- The name of the level. -/
def name : Level → String
  | warn => "warn"
  | info => "info"
  | debug => "debug"
  | trace => "trace"

end Level

/-! ### Notices -/

/-- Something worth telling about the board. -/
inductive Notice where
  -- the coprocessor
  | coprocessorCreated (mode : Aperture.Mode)
  | coprocessorReset
  | coprocessorClosed
  | coprocessorSwitched (on : Bool)
  | stateRestored (mode : Aperture.Mode)
  | invalidRead (addr : UInt32)
  | invalidWrite (addr value : UInt32)
  -- the command ring
  | ringInit (ring : Ring)
  | ringSwitched (ring : Ring)
  | ringBase (page : UInt32)
  | ringBottom (page : UInt32)
  | ringTop (page : UInt32)
  | ringWriteOutside (offset : UInt32) (ring : Ring)
  | ringWriteUnaligned (offset : UInt32)
  | ringPointerOutside (ring : Ring)
  | ringOutsideFrame
  | groupEmpty (header : UInt32)
  | pageInvalid (page : UInt32)
  -- commands
  | triangleCommand
  | floatTriangleCommand
  | nopCommand
  | fastFillCommand
  | swapRequested (pending : UInt8)
  | swapAppended (pending : UInt8)
  | swapCompleted (colour : Surface.Buffer) (window : Window)
  | noBackend
  | textureOutside (offset : UInt32)
  | fastFilled (clip : Surface.Clip) (colour : UInt16)
  /-- A sum has left its type. Where sums are checked this is the last notice of the program. -/
  | overflow
  -- the host chip
  | hostCreated (megabytes : UInt32) (withCoprocessor : Bool)
  | hostReset
  | windowRead (offset : UInt32) (value : UInt8)
  | windowWrite (offset : UInt32) (value : UInt8)
  | command3d (word : UInt32)
  | bridgeSwitched (on : Bool)
  | bridgeUnattached
  | rectFilled (fill : Host.RectFill) (written : Nat)
  | drawUnsupported (code : UInt8)
  -- traces
  | traceRead (line : Nat) (mnemonic : String) (addr value : UInt32)

namespace Notice

/-- The level of a notice. -/
def level : Notice → Level
  | invalidRead _ | invalidWrite _ _ | ringWriteOutside _ _ | ringWriteUnaligned _
  | ringPointerOutside _ | ringOutsideFrame | groupEmpty _ | pageInvalid _ | noBackend
  | overflow | bridgeUnattached => .warn
  | coprocessorCreated _ | stateRestored _ | hostCreated _ _ => .info
  | windowRead _ _ | windowWrite _ _ => .trace
  | _ => .debug

/-- The word for a switch position. -/
def switchName (on : Bool) : String := if on then "enabled" else "disabled"

/-- A byte access to the register window: what is done, where, and the byte. -/
def windowAccess (verb : String) (offset : UInt32) (value : UInt8) : String :=
  let bank := (Host.Bank.ofOffset offset).name
  let place := Text.hexPad 4 offset.toNat
  let byte := Text.hexPad 2 value.toNat
  s!"AT3D MMIO {verb} [{bank}] {place} = {byte}"

/-- The wording of the notices on the coprocessor, its ring and its commands. -/
def coprocessorMessage : Notice → String
  | coprocessorCreated mode =>
    s!"Voodoo Rush initialized (PUMA mode: {mode.megabytes} MB)"
  | coprocessorReset => "Voodoo Rush reset"
  | coprocessorClosed => "Voodoo Rush closed"
  | coprocessorSwitched on => "Voodoo Rush " ++ switchName on
  | stateRestored mode => s!"Voodoo Rush state restored ({mode.megabytes} MB PUMA)"
  | invalidRead addr =>
    "PUMA read from invalid address: 0x" ++ Text.hexUpperPad 8 addr.toNat
  | invalidWrite addr value =>
    "PUMA write to invalid address: 0x" ++ Text.hexUpperPad 8 addr.toNat ++ " = 0x" ++
      Text.hexUpperPad 8 value.toNat
  | ringInit ring =>
    "CMDFIFO " ++ switchName ring.enabled ++ ": bottom=0x" ++ Text.hex ring.bottomPage.toNat ++
      " top=0x" ++ Text.hex ring.topPage.toNat ++ s!" threshold={ring.threshold}"
  | ringSwitched ring =>
    "CMDFIFO " ++ switchName ring.enabled ++ ": bottom=0x" ++
      Text.hexPad 4 ring.bottomPage.toNat ++ " top=0x" ++ Text.hexPad 4 ring.topPage.toNat
  | ringBase page => "CMDFIFO base page set to 0x" ++ Text.hexPad 4 page.toNat
  | ringBottom page => "CMDFIFO bottom page set to 0x" ++ Text.hexPad 4 page.toNat
  | ringTop page => "CMDFIFO top page set to 0x" ++ Text.hexPad 4 page.toNat
  | ringWriteOutside offset ring =>
    "CMDFIFO write out of bounds: offset=0x" ++ Text.hexUpperPad 8 offset.toNat ++
      " window=[0x" ++ Text.hexUpperPad 8 ring.start.toNat ++ ", 0x" ++
      Text.hexUpperPad 8 ring.stop.toNat ++ ")"
  | ringWriteUnaligned offset =>
    "CMDFIFO unaligned write: offset=0x" ++ Text.hexUpperPad 8 offset.toNat
  | ringPointerOutside ring =>
    s!"CMDFIFO read pointer out of bounds: {ring.readPtr} (ring holds {ring.words} words)"
  | ringOutsideFrame => "CMDFIFO ring lies outside the frame buffer"
  | groupEmpty header =>
    "CMDFIFO grouped packet with empty mask: header=0x" ++ Text.hexUpperPad 8 header.toNat
  | pageInvalid page =>
    "CMDFIFO invalid register address: 0x" ++ Text.hexUpperPad 6 page.toNat
  | triangleCommand => "Triangle command"
  | floatTriangleCommand => "Float triangle command"
  | nopCommand => "NOP command"
  | fastFillCommand => "FastFill command"
  | swapRequested pending => s!"SwapBuffer command (pending {pending})"
  | swapAppended pending => s!"SwapPending increment: {pending}"
  | swapCompleted colour window =>
    "Buffer swap completed: color base=0x" ++ Text.hexUpperPad 6 colour.base.toNat ++
      s!" window={window.width}x{window.height}"
  | noBackend => "Cannot render triangle: no rendering backend attached"
  | textureOutside offset =>
    "Texture base 0x" ++ Text.hexUpperPad 8 offset.toNat ++ " outside texture memory"
  | fastFilled clip colour =>
    s!"FastFill: [{clip.left}, {clip.top}] to [{clip.right}, {clip.bottom}], color=" ++
      Text.hexPad 4 colour.toNat
  | overflow => "attempt to add with overflow"
  | _ => ""

/-- The wording of a notice. -/
def message : Notice → String
  | hostCreated megabytes withCoprocessor =>
    s!"AT3D initialized with {megabytes} MB VRAM" ++
      (if withCoprocessor then " and Voodoo Rush" else "")
  | hostReset => "AT3D reset"
  | windowRead offset value => windowAccess "read" offset value
  | windowWrite offset value => windowAccess "write" offset value
  | command3d word => "AT3D 3D command " ++ Text.hexPad 8 word.toNat ++ " acknowledged"
  | bridgeSwitched on => "Voodoo Rush " ++ switchName on ++ " via THP"
  | bridgeUnattached => "THP requests Voodoo Rush but none is attached"
  | rectFilled f written =>
    s!"2D rect fill: ({f.x}, {f.y}) {f.width}x{f.height} pitch={f.pitch} color=" ++
      Text.hexPad 2 f.colour.toNat ++ s!" ({written} bytes)"
  | drawUnsupported code => "2D engine command 0x" ++ Text.hex code.toNat ++ " not emulated"
  | traceRead line mnemonic addr value =>
    s!"line {line}: {mnemonic} 0x" ++ Text.hexUpper addr.toNat ++ " -> 0x" ++
      Text.hexUpperPad 8 value.toNat
  | n => n.coprocessorMessage

/-- Where sums are checked the program stops at the notice. -/
def stops : Notice → Bool
  | overflow => true
  | _ => false

end Notice

end PumaBoard
