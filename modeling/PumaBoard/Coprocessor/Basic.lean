import PumaBoard.Aperture.Memory
import PumaBoard.Counters
import PumaBoard.Notice
import PumaBoard.Register.Flags
import PumaBoard.Render.Call
import PumaBoard.Swap

/-!
The state of the coprocessor. What it does to the rendering engine and what it has to tell is
kept in the state as the calls made and the notices given since they were last taken.
-/

namespace PumaBoard

/-- The coprocessor. -/
structure Coprocessor where
  memory : Aperture.Memory
  /-- The masked value last written to every register. -/
  regs : RegisterFile
  triangle : Triangle.Setup
  floatTriangle : Triangle.FloatSetup
  fog : Fog.Table
  status : Status
  ring : Ring
  swap : Swap
  counters : Counters
  /-- A triangle is being drawn. -/
  busy : Bool
  window : Window
  /-- Accesses have no effect on a disabled coprocessor. -/
  enabled : Bool
  /-- A frame buffer write came through the bridge. -/
  pumaRequest : Bool
  /-- A frame buffer read came through the bridge. -/
  pumaGrant : Bool
  backend : Option Render.Backend
  /-- The calls to the rendering engine, the first one first. -/
  calls : Array Render.Call
  /-- The notices, the first one first. -/
  notices : Array Notice

namespace Coprocessor

/-! ### Effects -/

/-- Gives a notice. -/
def note (d : Coprocessor) (n : Notice) : Coprocessor := { d with notices := d.notices.push n }

/-- Makes a call to the rendering engine. -/
def call (d : Coprocessor) (c : Render.Call) : Coprocessor := { d with calls := d.calls.push c }

/-- Where sums are checked the program has stopped. -/
def stopped (d : Coprocessor) : Bool := d.notices.any Notice.stops

/-- Forgets the calls and notices that have been taken. -/
def settle (d : Coprocessor) : Coprocessor := { d with calls := #[], notices := #[] }

/-! ### Power-on and reset -/

/-- The register file after power-on. -/
def powerOnRegisters : RegisterFile :=
  Register.powerOn.foldl (fun regs p => regs.set p.1 p.2) .zero

/-- A coprocessor after power-on: memory zeroed, enabled, no rendering engine. -/
def create (mode : Aperture.Mode) : Coprocessor where
  memory := .zeroed mode
  regs := powerOnRegisters
  triangle := .zero
  floatTriangle := .zero
  fog := .zero
  status := {}
  ring := {}
  swap := {}
  counters := {}
  busy := false
  window := {}
  enabled := true
  pumaRequest := false
  pumaGrant := false
  backend := none
  calls := #[]
  notices := #[.coprocessorCreated mode]

/-- Resets everything but the memory, the window, the enable switch and the rendering engine. -/
def reset (d : Coprocessor) : Coprocessor :=
  { d with
    regs := powerOnRegisters
    triangle := .zero
    floatTriangle := .zero
    fog := .zero
    status := {}
    ring := {}
    swap := {}
    counters := {}
    busy := false
    pumaRequest := false
    pumaGrant := false
    notices := d.notices.push .coprocessorReset }

/-! ### Switches -/

/-- The mode of the aperture. -/
def mode (d : Coprocessor) : Aperture.Mode := d.memory.mode

/-- The layout of the aperture. -/
def layout (d : Coprocessor) : Aperture.Layout := d.memory.mode.layout

/-- Attaches a rendering engine in place of any other. -/
def attach (d : Coprocessor) (b : Render.Backend) : Coprocessor := { d with backend := some b }

/-- Detaches the rendering engine. -/
def detach (d : Coprocessor) : Coprocessor := { d with backend := none }

/-- Switches the coprocessor on or off; a change is worth a notice. -/
def setEnabled (d : Coprocessor) (on : Bool) : Coprocessor :=
  if d.enabled = on then d else { d with enabled := on }.note (.coprocessorSwitched on)

/-- Sets the window. -/
def setWindow (d : Coprocessor) (w : Window) : Coprocessor := { d with window := w }

end Coprocessor

end PumaBoard
