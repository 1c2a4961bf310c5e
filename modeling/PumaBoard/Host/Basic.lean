import PumaBoard.Coprocessor.Bus
import PumaBoard.Host.Cursor
import PumaBoard.Host.VideoMemory

/-!
The state of the host chip: the stored register window, the video memory, the derived cursor, the
engines that are busy, and the coprocessor behind the bridge, if the board has one. Notices of
the coprocessor join those of the host chip in the order in which they were given.
-/

namespace PumaBoard

/-- The drawing engines with a command in flight. -/
structure EngineBusy where
  draw2d : Bool := false
  render3d : Bool := false
deriving DecidableEq, Repr, Inhabited

/-- The busy engines as bits. -/
def EngineBusy.bits (b : EngineBusy) : Nat :=
  (if b.draw2d then 1 else 0) + if b.render3d then 2 else 0

/-- The host chip. -/
structure HostChip where
  regs : Host.Registers
  video : VideoMemory
  cursor : Host.Cursor
  busy : EngineBusy
  coprocessor : Option Coprocessor
  /-- The notices of host chip and coprocessor, the first one first. -/
  notices : Array Notice

namespace HostChip

/-! ### Power-on and reset -/

/-- A host chip after power-on, with a coprocessor of the given mode and window if the board has
one. -/
def create (size : VideoSize) (coprocessor : Option (Aperture.Mode × Window)) : HostChip where
  regs := .zeroed
  video := .zeroed size
  cursor := {}
  busy := {}
  coprocessor := coprocessor.map fun c => (Coprocessor.create c.1).setWindow c.2 |>.settle
  notices :=
    (match coprocessor with
      | some c => #[Notice.coprocessorCreated c.1]
      | none => #[]).push (.hostCreated size.megabytes coprocessor.isSome)

/-- Gives a notice. -/
def note (h : HostChip) (n : Notice) : HostChip := { h with notices := h.notices.push n }

/-! ### The coprocessor -/

/-- The coprocessor is attached and enabled. -/
def coprocessorEnabled (h : HostChip) : Bool :=
  match h.coprocessor with
  | some d => d.enabled
  | none => false

/-- Lets the coprocessor work, if there is one. -/
def withCoprocessor (h : HostChip) (f : Coprocessor → Coprocessor) : HostChip :=
  match h.coprocessor with
  | some d =>
    let d := f d
    let given := d.notices
    { h with coprocessor := some { d with notices := #[] }, notices := h.notices ++ given }
  | none => h

/-- Lets the coprocessor answer, if there is one. -/
def askCoprocessor {α : Type} (h : HostChip) (f : Coprocessor → α × Coprocessor) :
    Option α × HostChip :=
  match h.coprocessor with
  | some d =>
    let (answer, d) := f d
    let given := d.notices
    (some answer,
      { h with coprocessor := some { d with notices := #[] }, notices := h.notices ++ given })
  | none => (none, h)

/-- Lets the coprocessor work, if there is an enabled one. -/
def withEnabled (h : HostChip) (f : Coprocessor → Coprocessor) : HostChip :=
  if h.coprocessorEnabled then h.withCoprocessor f else h

/-- Lets the coprocessor answer, if there is an enabled one. -/
def askEnabled {α : Type} (h : HostChip) (f : Coprocessor → α × Coprocessor) :
    Option α × HostChip :=
  if h.coprocessorEnabled then h.askCoprocessor f else (none, h)

/-- Resets the registers, the cursor and the coprocessor; the video memory stays. -/
def reset (h : HostChip) : HostChip :=
  ({ h with regs := .zeroed, cursor := {}, busy := {} }.withCoprocessor Coprocessor.reset).note
    .hostReset

/-- Forgets the calls and notices that have been taken. -/
def settle (h : HostChip) : HostChip :=
  { h with coprocessor := h.coprocessor.map Coprocessor.settle, notices := #[] }

end HostChip

end PumaBoard
