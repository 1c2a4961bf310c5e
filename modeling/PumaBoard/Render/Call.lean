import PumaBoard.Render.Block

/-!
The rendering engine outside the board. All that the board knows of it is whether it simulates a
second texture unit; all that it does to it is a sequence of calls.
-/

namespace PumaBoard.Render

/-- An attached rendering engine. -/
structure Backend where
  /-- It simulates a second texture unit. -/
  dual : Bool
deriving DecidableEq, Repr, Inhabited

/-- The texture units of an engine. -/
def Backend.units (b : Backend) : List Nat := if b.dual then [0, 1] else [0]

/-- A call to the rendering engine. -/
inductive Call where
  /-- Draw a triangle; the frame buffer is lent for the time of the call. -/
  | triangle (block : Block) (frame : ByteArray)
  /-- Forget cached texels of the page at an address. -/
  | flush (addr : UInt32) (tmu : Nat)
  /-- Take over texture memory from an address on. -/
  | load (tmu : Nat) (addr : UInt32) (texels : ByteArray)

end PumaBoard.Render
