import PumaBoard.Word

/-!
The accesses of a trace: each takes one route into the board to an address, and either writes
a value or reads one. A vertical sync is an access without an address.
-/

namespace PumaBoard.Trace

/-- A way into the board. -/
inductive Route where
  /-- A byte of the host chip's register window. -/
  | window8
  /-- A halfword of the host chip's register window. -/
  | window16
  /-- A word of the host chip's register window. -/
  | window32
  /-- A word of the aperture. -/
  | aperture
  /-- A word of the aperture by way of the bridge. -/
  | bridge
  /-- A register of the coprocessor by its index. -/
  | register
deriving DecidableEq, Repr

namespace Route

/-- The routes. -/
def all : List Route := [window8, window16, window32, aperture, bridge, register]

/-- The command word of a route. -/
def command : Route → String
  | window8 => "mmio.b"
  | window16 => "mmio.w"
  | window32 => "mmio.l"
  | aperture => "puma"
  | bridge => "thp"
  | register => "reg"

/-- The route with the given command word. -/
def ofCommand? (s : String) : Option Route := all.find? (·.command = s)

/-- The number of values that a route takes. -/
def valueBound : Route → Nat
  | window8 => 0x100
  | window16 => 0x10000
  | window32 | aperture | bridge | register => 0x100000000

end Route

/-- The command word of a vertical sync. -/
def syncCommand : String := "vsync"

/-- An access. -/
inductive Access where
  /-- With a value the access writes, without one it reads. -/
  | transfer (route : Route) (addr : UInt32) (value : Option UInt32)
  | vsync
deriving DecidableEq, Repr

end PumaBoard.Trace
