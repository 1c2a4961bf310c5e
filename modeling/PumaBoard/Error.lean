import PumaBoard.Aperture.Layout
import PumaBoard.Text.Number
import PumaBoard.Text.Quoted

/-!
What can go wrong outside the emulated hardware, by cause, and how it is worded. Faults of the
guest are not errors: the devices give a notice and go on.
-/

namespace PumaBoard

/-! ### Causes -/

/-- A part of a snapshot that has a fixed size. -/
inductive SnapshotPart where
  | registers
  | fog
  | frame
  | texture
deriving DecidableEq, Repr

/-- What an environment variable that overrides a setting should hold. -/
inductive OverrideFault where
  | videoSize (value : String)
  | coprocessor (value : String)
  | mode (value : String)
deriving DecidableEq, Repr

/-- Why a line of a trace script is malformed. -/
inductive LineFault where
  /-- The access without operands has some. -/
  | operands
  /-- The number of operands does not suit an access. -/
  | count (command : String)
  | number (text : String) (fault : Text.NumberFault)
  /-- The value is wider than the access. -/
  | width (value : Nat) (command : String)
  | unknown (command : String)
deriving DecidableEq, Repr

/-- An error. -/
inductive Error where
  /-- A file cannot be read or written. -/
  | file
  /-- A configuration is malformed. -/
  | malformedConfig
  /-- A saved state is malformed. -/
  | malformedState
  | videoSize (megabytes : UInt32)
  | windowSize (width height : UInt32)
  | override (fault : OverrideFault)
  | stateVersion (expected got : UInt32)
  | line (number : Nat) (fault : LineFault)
  | modeMismatch (device snapshot : Aperture.Mode)
  | sizeMismatch (part : SnapshotPart) (expected got : Nat)
  | notAttached
deriving DecidableEq, Repr

/-! ### Wording -/

/-- The name of a part of a snapshot. -/
def SnapshotPart.name : SnapshotPart → String
  | .registers => "register file"
  | .fog => "fog table"
  | .frame => "frame buffer"
  | .texture => "texture memory"

/-- The wording of a bad override. -/
def OverrideFault.message : OverrideFault → String
  | .videoSize value => "AT3D_VRAM_MB: not a number: " ++ Text.quote value
  | .coprocessor value => "AT3D_VOODOO_RUSH: not a boolean: " ++ Text.quote value
  | .mode value => "AT3D_PUMA_MODE: expected \"8mb\" or \"4mb\", got " ++ Text.quote value

/-- The wording of a malformed line. -/
def LineFault.message : LineFault → String
  | .operands => "vsync takes no arguments"
  | .count command => command ++ " expects an address and an optional value"
  | .number text fault => "invalid number '" ++ text ++ "': " ++ fault.message
  | .width value command => "value 0x" ++ Text.hexUpper value ++ " does not fit " ++ command
  | .unknown command => "unknown command '" ++ command ++ "'"

namespace Error

/-- The wording of an error on the coprocessor or its settings. -/
def detail : Error → String
  | modeMismatch device snapshot =>
    s!"PUMA mode mismatch: device aperture is {device.megabytes} MB, " ++
      s!"snapshot is {snapshot.megabytes} MB"
  | sizeMismatch part expected got =>
    s!"Snapshot {part.name} size mismatch: expected {expected} bytes, got {got}"
  | notAttached => "Voodoo Rush coprocessor is not attached"
  | videoSize megabytes => s!"Unsupported VRAM size: {megabytes} MB (expected 1, 2 or 4)"
  | _ => ""

/-- The wording of an error. -/
def message : Error → String
  | file => "I/O error"
  | malformedConfig => "Config parse error"
  | malformedState => "Save state decode error"
  | windowSize width height =>
    s!"Invalid configuration: window size must be non-zero, got {width}x{height}"
  | override fault => "Invalid configuration: " ++ fault.message
  | stateVersion expected got =>
    s!"Incompatible save state version: expected {expected}, got {got}"
  | line number fault => s!"Parse error at line {number}: " ++ fault.message
  | e => "Voodoo Rush error: " ++ e.detail

end Error

end PumaBoard
