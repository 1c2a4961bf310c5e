import PumaBoard.Numeric.Binary32
import PumaBoard.Triangle.Field

/-!
The two triangle setup banks. The integer bank holds each field as its format leaves it; the
floating point bank holds bit patterns, and its fixed-point image is an integer bank.
-/

namespace PumaBoard.Triangle

/-! ### The integer bank -/

/-- The triangle set up through the integer bank: one word per field, signed fields in two's
complement. -/
structure Setup where
  words : Vector UInt32 30
deriving DecidableEq, Repr

namespace Setup

/-- All fields zero. -/
def zero : Setup := ⟨Vector.replicate 30 0⟩

instance : Inhabited Setup := ⟨zero⟩

/-- The word of a field. -/
def get (t : Setup) (f : Field) : UInt32 := t.words.get f.index

/-- The word of a field as a signed number. -/
def signed (t : Setup) (f : Field) : Int32 := (t.get f).toInt32

/-- Puts a word into a field as it is. -/
def put (t : Setup) (f : Field) (v : UInt32) : Setup := ⟨t.words.set f.index.val v f.index.isLt⟩

/-- Writes a register value into a field, cut to the field's format. -/
def set (t : Setup) (f : Field) (v : UInt32) : Setup := t.put f (f.format.store v)

end Setup

/-! ### The floating point bank -/

/-- The triangle set up through the floating point bank: one bit pattern per field. -/
structure FloatSetup where
  patterns : Vector UInt32 30
deriving DecidableEq, Repr

namespace FloatSetup

/-- All fields zero. -/
def zero : FloatSetup := ⟨Vector.replicate 30 0⟩

instance : Inhabited FloatSetup := ⟨zero⟩

/-- The bit pattern of a field. -/
def get (t : FloatSetup) (f : Field) : UInt32 := t.patterns.get f.index

/-- Puts a bit pattern into a field. -/
def set (t : FloatSetup) (f : Field) (v : UInt32) : FloatSetup :=
  ⟨t.patterns.set f.index.val v f.index.isLt⟩

/-- Whether a field is converted to an unsigned word: depth and texture starts are. -/
def convertsUnsigned : Field → Bool
  | .start q => !q.isColour
  | _ => false

/-- The register value that a field stands for: its number scaled by the fraction bits, cut
toward zero and held within the range of a word. -/
def toWord (t : FloatSetup) (f : Field) : UInt32 :=
  if convertsUnsigned f then Binary32.toUnsigned (t.get f) f.fractionBits
  else Binary32.toSigned (t.get f) f.fractionBits

/-- The fixed-point image of the bank, with every field cut to its register format. -/
def toFixed (t : FloatSetup) : Setup :=
  Field.all.foldl (fun fixed f => fixed.set f (t.toWord f)) Setup.zero

/-- The banks hold equal numbers. -/
def equal (t u : FloatSetup) : Bool :=
  Field.all.all fun f => Binary32.equal (t.get f) (u.get f)

end FloatSetup

end PumaBoard.Triangle
