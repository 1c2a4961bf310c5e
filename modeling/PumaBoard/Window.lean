/-!
The window into which triangles are drawn: its place on the screen and its size in pixels.
-/

namespace PumaBoard

/-- Origin and size of the window. -/
structure Window where
  x : Int32 := 0
  y : Int32 := 0
  width : UInt32 := 640
  height : UInt32 := 480
deriving DecidableEq, Repr, Inhabited

/-- The window has its origin in the corner of the screen. -/
def Window.atOrigin (w : Window) : Bool := w.x = 0 && w.y = 0

end PumaBoard
