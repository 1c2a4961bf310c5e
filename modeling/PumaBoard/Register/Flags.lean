import PumaBoard.Word

/-!
Registers that are collections of switches: the status flags, the fill mode and the colour path.
Only the switches named here exist; `ofBits` forgets all other bits.
-/

namespace PumaBoard

/-! ### Status -/

/-- The status flags, without the count of pending swaps. -/
structure Status where
  retrace : Bool := false
  interfaceBusy : Bool := false
  textureBusy : Bool := false
  chipBusy : Bool := false
  /-- The ring holds at least as many entries as its threshold. -/
  ringFull : Bool := false
deriving DecidableEq, Repr, Inhabited

namespace Status

/-- The flags that are set in a word. -/
def ofBits (w : UInt32) : Status where
  retrace := Word.bit w 6
  interfaceBusy := Word.bit w 7
  textureBusy := Word.bit w 8
  chipBusy := Word.bit w 9
  ringFull := Word.bit w 16

/-- The flags as a word. -/
def bits (s : Status) : UInt32 :=
  Word.ofBit s.retrace 6 ||| Word.ofBit s.interfaceBusy 7 ||| Word.ofBit s.textureBusy 8 |||
    Word.ofBit s.chipBusy 9 ||| Word.ofBit s.ringFull 16

end Status

/-! ### Fill mode -/

/-- The switches of the fill mode register. -/
structure FillMode where
  /-- The colour buffer is written. -/
  colour : Bool := false
  /-- The aux buffer is written. -/
  depth : Bool := false
  /-- Rows count upward from the bottom. -/
  flip : Bool := false
deriving DecidableEq, Repr, Inhabited

namespace FillMode

/-- The switches that are set in a word. -/
def ofBits (w : UInt32) : FillMode where
  colour := Word.bit w 9
  depth := Word.bit w 10
  flip := Word.bit w 17

/-- The switches as a word. -/
def bits (m : FillMode) : UInt32 :=
  Word.ofBit m.colour 9 ||| Word.ofBit m.depth 10 ||| Word.ofBit m.flip 17

end FillMode

/-! ### Colour path -/

/-- The switches of the colour path register. -/
structure ColourPath where
  /-- Triangles are textured. -/
  textured : Bool := false
deriving DecidableEq, Repr, Inhabited

namespace ColourPath

/-- The switches that are set in a word. -/
def ofBits (w : UInt32) : ColourPath := ⟨Word.bit w 27⟩

/-- The switches as a word. -/
def bits (p : ColourPath) : UInt32 := Word.ofBit p.textured 27

end ColourPath

end PumaBoard
