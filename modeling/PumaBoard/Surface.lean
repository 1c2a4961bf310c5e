import PumaBoard.Word

/-!
Drawing surfaces: where a buffer lies in the frame buffer, the clip rectangle, and the colour
that a fast fill writes.
-/

namespace PumaBoard.Surface

/-! ### Buffers -/

/-- A colour or aux buffer: its byte offset in the frame buffer and the bytes from row to row. -/
structure Buffer where
  base : UInt32
  stride : UInt32
deriving DecidableEq, Repr, Inhabited

/-- The buffer of a setup register: the base in bits 0 to 21, the stride in words above. -/
def Buffer.ofRegister (w : UInt32) : Buffer := ⟨w &&& 0x3FFFFF, ((w >>> 22) &&& 0x1FF) * 4⟩

/-- The byte offset of row `y`; with `flip` rows go up from the base. -/
def Buffer.row (b : Buffer) (y : UInt32) (flip : Bool) : UInt32 :=
  if flip then b.base - y * b.stride else b.base + y * b.stride

/-! ### Clip rectangle -/

/-- A rectangle of pixels; the right and bottom edges are not part of it. -/
structure Clip where
  left : UInt32
  right : UInt32
  top : UInt32
  bottom : UInt32
deriving DecidableEq, Repr, Inhabited

/-- The rectangle of a pair of clip registers, with edges of 11 bits. -/
def Clip.ofRegisters (leftRight topBottom : UInt32) : Clip where
  left := leftRight &&& 0x7FF
  right := (leftRight >>> 16) &&& 0x7FF
  top := topBottom &&& 0x7FF
  bottom := (topBottom >>> 16) &&& 0x7FF

/-- The rectangle holds no pixel. -/
def Clip.isEmpty (c : Clip) : Bool := c.left ≥ c.right || c.top ≥ c.bottom

/-! ### Fill colour -/

/-- The 16-bit colour of a fast fill: bits 19 to 23, 10 to 15 and 3 to 7 of the colour register,
packed low to high. -/
def fillColour (w : UInt32) : UInt16 :=
  let low : UInt32 := (w >>> 19) &&& 0x1F
  let middle : UInt32 := (w >>> 10) &&& 0x3F
  let high : UInt32 := (w >>> 3) &&& 0x1F
  (low ||| (middle <<< 5) ||| (high <<< 11)).toUInt16

end PumaBoard.Surface
