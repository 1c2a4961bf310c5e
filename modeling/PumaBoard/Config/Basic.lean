import PumaBoard.Error
import PumaBoard.Host.Basic

/-!
The configuration of a board: how much video memory it has, whether it carries a coprocessor, the
mode of its aperture, and the window. A configuration may hold values that no board supports;
building a board from it finds them.
-/

namespace PumaBoard

/-- The configuration of a board. -/
structure Config where
  /-- The video memory in megabytes. -/
  videoMegabytes : UInt32 := 2
  coprocessor : Bool := true
  mode : Aperture.Mode := .mb8
  window : Window := {}
deriving DecidableEq, Repr, Inhabited

namespace Config

/-- The video memory in bytes, supported or not. -/
def videoBytes (c : Config) : Nat := c.videoMegabytes.toNat <<< 20

/-- The supported size of the video memory. The window must not be empty. -/
def videoSize (c : Config) : Except Error VideoSize :=
  match VideoSize.ofMegabytes? c.videoMegabytes with
  | none => .error (.videoSize c.videoMegabytes)
  | some size =>
    if c.window.width = 0 ∨ c.window.height = 0 then
      .error (.windowSize c.window.width c.window.height)
    else .ok size

/-- Fails if no board supports the configuration. -/
def validate (c : Config) : Except Error Unit := c.videoSize.map fun _ => ()

/-- The board of a configuration, after power-on. -/
def build (c : Config) : Except Error HostChip :=
  c.videoSize.map fun size =>
    HostChip.create size (if c.coprocessor then some (c.mode, c.window) else none)

end Config

end PumaBoard
