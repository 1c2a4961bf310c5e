import PumaBoard.Error
import PumaBoard.Host.Window
import PumaBoard.Trace.Script

/-!
Running a script on a board. Every read is recorded with the line it stands on. A run stops at an
access that needs a coprocessor on a board without one.
-/

namespace PumaBoard.Trace

/-! ### One access -/

/-- Lets the coprocessor answer; a board without one is an error. -/
def demand {α : Type} (h : HostChip) (f : Coprocessor → α × Coprocessor) :
    Except Error α × HostChip :=
  match h.askCoprocessor f with
  | (some x, h) => (.ok x, h)
  | (none, h) => (.error .notAttached, h)

/-- Reads through a route. -/
def Route.read (p : Route) (addr : UInt32) (h : HostChip) : Except Error UInt32 × HostChip :=
  match p with
  | window8 => let (v, h) := h.windowRead8 addr; (.ok v.toUInt32, h)
  | window16 => let (v, h) := h.windowRead16 addr; (.ok v.toUInt32, h)
  | window32 => let (v, h) := h.windowRead32 addr; (.ok v, h)
  | aperture => let (v, h) := h.apertureRead addr; (.ok v, h)
  | bridge => demand h (·.bridgeRead addr)
  | register => demand h fun d => (d.readIndex addr, d)

/-- Writes through a route. -/
def Route.write (p : Route) (addr v : UInt32) (h : HostChip) : Except Error Unit × HostChip :=
  match p with
  | window8 => (.ok (), h.windowWrite8 addr v.toUInt8)
  | window16 => (.ok (), h.windowWrite16 addr v.toUInt16)
  | window32 => (.ok (), h.windowWrite32 addr v)
  | aperture => (.ok (), h.apertureWrite addr v)
  | bridge => demand h fun d => ((), d.bridgeWrite addr v)
  | register => demand h fun d => ((), d.writeIndex addr v)

/-- Carries out an access; the answer is the address and the value of a read. -/
def Access.perform (a : Access) (h : HostChip) :
    Except Error (Option (Route × UInt32 × UInt32)) × HostChip :=
  match a with
  | .vsync => (.ok none, h.vsync)
  | .transfer p addr none =>
    let (v, h) := p.read addr h
    (v.map fun v => some (p, addr, v), h)
  | .transfer p addr (some v) =>
    let (done, h) := p.write addr v h
    (done.map fun _ => none, h)

/-! ### Runs -/

/-- The value of a read. -/
structure Reading where
  line : Nat
  route : Route
  addr : UInt32
  value : UInt32
deriving DecidableEq, Repr

/-- What a run has come to. -/
structure Run where
  board : HostChip
  readings : Array Reading := #[]
  /-- The triangles that the rendering engine received. -/
  triangles : Nat := 0
  /-- Why the run stopped early. -/
  error : Option Error := none

/-- The call draws a triangle. -/
def isTriangle : Render.Call → Bool
  | .triangle _ _ => true
  | _ => false

/-- Counts the triangles among the calls to the rendering engine, and forgets the calls. -/
def Run.countTriangles (r : Run) : Run :=
  match r.board.coprocessor with
  | none => r
  | some d =>
    let drawn := d.calls.countP isTriangle
    { r with
      board := { r.board with coprocessor := some { d with calls := #[] } }
      triangles := r.triangles + drawn }

/-- Records a read, which is worth a notice. -/
def Run.record (r : Run) (x : Reading) : Run :=
  { r with
    board := r.board.note (.traceRead x.line x.route.command x.addr x.value)
    readings := r.readings.push x }

/-- Runs a script from the state of a run on. -/
def Run.resume (r : Run) : Script → Run
  | [] => r
  | (line, a) :: script =>
    match r with
    | ⟨board, readings, triangles, error⟩ =>
      match a.perform board with
      | (.error e, board) => ⟨board, readings, triangles, some e⟩
      | (.ok answer, board) =>
        let r := (Run.mk board readings triangles error).countTriangles
        match answer with
        | none => r.resume script
        | some (route, addr, value) => (r.record ⟨line, route, addr, value⟩).resume script

/-- Runs a script on a board. -/
def Script.run (s : Script) (board : HostChip) : Run := Run.resume { board := board } s

end PumaBoard.Trace
