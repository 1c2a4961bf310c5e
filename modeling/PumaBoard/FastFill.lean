import PumaBoard.Aperture.Memory
import PumaBoard.Register.Flags
import PumaBoard.Render.Block

/-!
The fast fill: the pixels of the clip rectangle in the colour buffer, in the aux buffer, or in
both, pixel by pixel. Pixels that do not lie in the frame buffer are skipped.
-/

namespace PumaBoard

/-- A buffer to fill and the halfword that its pixels receive. -/
structure FillTarget where
  buffer : Surface.Buffer
  value : UInt16
deriving DecidableEq, Repr

/-- A fast fill. -/
structure FastFill where
  clip : Surface.Clip
  /-- The order of the rows is turned round within the rectangle. -/
  flip : Bool
  colour : Option FillTarget
  aux : Option FillTarget
deriving DecidableEq, Repr

namespace FastFill

/-- The fill that the registers describe: each buffer takes part if its write mask is set. -/
def ofRegisters (regs : RegisterFile) : FastFill :=
  let mode := FillMode.ofBits (regs.get Register.fillMode)
  { clip := .ofRegisters (regs.get Register.clipLeftRight) (regs.get Register.clipTopBottom)
    flip := mode.flip
    colour :=
      if mode.colour then
        some
          ⟨.ofRegister (regs.get Register.colourBuffer),
            Surface.fillColour (regs.get Register.colour0)⟩
      else none
    aux :=
      if mode.depth then
        some
          ⟨.ofRegister (regs.get Register.auxBuffer),
            (regs.get Register.depthColour).toUInt16⟩
      else none }

/-- Writes the pixel in column `x` of row `row` of a target. -/
def paint (target : Option FillTarget) (row x : UInt32) (m : Aperture.Memory) : Aperture.Memory :=
  match target with
  | none => m
  | some t => m.writeFrame16 (t.buffer.row row false + x * 2) t.value

/-- Fills `n` pixels of a row from column `x` on. -/
def paintRow (f : FastFill) (row x : UInt32) (m : Aperture.Memory) : Nat → Aperture.Memory
  | 0 => m
  | n + 1 => paintRow f row (x + 1) (paint f.aux row x (paint f.colour row x m)) n

/-- The row of the buffers that row `y` of the rectangle is drawn to. -/
def bufferRow (f : FastFill) (y : UInt32) : UInt32 := if f.flip then f.clip.bottom - 1 - y else y

/-- Fills `n` rows of the rectangle from `y` on. -/
def paintRows (f : FastFill) (y : UInt32) (m : Aperture.Memory) : Nat → Aperture.Memory
  | 0 => m
  | n + 1 =>
    paintRows f (y + 1)
      (paintRow f (f.bufferRow y) f.clip.left m (f.clip.right.toNat - f.clip.left.toNat)) n

/-- Carries out the fill. -/
def execute (f : FastFill) (m : Aperture.Memory) : Aperture.Memory :=
  if (f.colour.isSome || f.aux.isSome) && !f.clip.isEmpty then
    f.paintRows f.clip.top m (f.clip.bottom.toNat - f.clip.top.toNat)
  else m

end FastFill

end PumaBoard
