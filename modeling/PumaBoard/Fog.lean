/-!
Fog: the fog colour of a register, and the table of 64 fog factors with their differences, which
is filled two entries at a time.
-/

namespace PumaBoard.Fog

/-- A colour in three channels. -/
structure Colour where
  r : UInt8
  g : UInt8
  b : UInt8
deriving DecidableEq, Repr, Inhabited

/-- The colour of a register value, red in the low byte. -/
def Colour.ofRegister (w : UInt32) : Colour := ⟨w.toUInt8, (w >>> 8).toUInt8, (w >>> 16).toUInt8⟩

/-- A fog factor and its difference to the next. -/
structure Entry where
  fog : UInt8 := 0
  dfog : UInt8 := 0
deriving DecidableEq, Repr, Inhabited

/-- The entry in a halfword: the difference in the low byte, the factor in the high byte. -/
def Entry.ofHalf (w : UInt32) : Entry := ⟨(w >>> 8).toUInt8, w.toUInt8⟩

/-- The fog table. -/
abbrev Table := Vector Entry 64

/-- The table of zeros. -/
def Table.zero : Table := Vector.replicate 64 {}

/-- Writes the two entries of pair `n` from the halves of a word, the low half first. -/
def Table.setPair (t : Table) (n : Fin 32) (w : UInt32) : Table :=
  (t.set (2 * n.val) (.ofHalf w)).set (2 * n.val + 1) (.ofHalf (w >>> 16))

end PumaBoard.Fog
