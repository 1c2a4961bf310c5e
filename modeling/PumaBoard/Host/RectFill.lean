import PumaBoard.Host.Registers
import PumaBoard.Host.VideoMemory

/-!
The 2D drawing engine: the commands of its control register and the filling of a rectangle. A
row of the rectangle is a span of bytes, cut to the clip rectangle and to the end of the video
memory.
-/

namespace PumaBoard.Host

/-! ### Commands -/

/-- A command of the drawing engine. -/
inductive DrawCommand where
  | rectFill
  /-- Known to the hardware, but without effect here. -/
  | unsupported (code : UInt8)
deriving DecidableEq, Repr

/-- The command in the low bits of the control register. -/
def DrawCommand.ofControl (control : UInt32) : DrawCommand :=
  let code := (control &&& 0x0F).toUInt8
  if code = 1 then rectFill else unsupported code

namespace Draw

def clipControl : UInt32 := 0x030
def clipLeft : UInt32 := 0x038
def clipTop : UInt32 := 0x03A
def clipRight : UInt32 := 0x03C
def clipBottom : UInt32 := 0x03E
def control : UInt32 := 0x040
def dstX : UInt32 := 0x054
def dstY : UInt32 := 0x056
def sizeX : UInt32 := 0x058
def sizeY : UInt32 := 0x05A
def dstPitch : UInt32 := 0x05C
def colour : UInt32 := 0x060

/-- The bit of the control register that starts a command. -/
def start : UInt32 := 0x80000000

end Draw

/-! ### Rectangles -/

/-- A clip rectangle; the right and bottom edges are not part of it. -/
structure DrawClip where
  left : UInt16
  top : UInt16
  right : UInt16
  bottom : UInt16
deriving DecidableEq, Repr

/-- The filling of a rectangle. -/
structure RectFill where
  x : UInt16
  y : UInt16
  width : UInt16
  height : UInt16
  /-- The bytes from row to row. -/
  pitch : UInt16
  colour : UInt8
  clip : Option DrawClip
deriving DecidableEq, Repr

namespace RectFill

/-- The fill that the registers describe; the clip rectangle counts if its control bit is set. -/
def ofRegisters (r : Registers) : RectFill where
  x := r.half Draw.dstX
  y := r.half Draw.dstY
  width := r.half Draw.sizeX
  height := r.half Draw.sizeY
  pitch := r.half Draw.dstPitch
  colour := r.byte Draw.colour
  clip :=
    if r.byte Draw.clipControl &&& 1 ≠ 0 then
      some ⟨r.half Draw.clipLeft, r.half Draw.clipTop, r.half Draw.clipRight,
        r.half Draw.clipBottom⟩
    else none

/-- Whether the clip rectangle lets a row through. -/
def admitsRow (f : RectFill) (row : Nat) : Bool :=
  match f.clip with
  | none => true
  | some c => c.top.toNat ≤ row && row < c.bottom.toNat

/-- The first column of every row. -/
def firstColumn (f : RectFill) : Nat :=
  match f.clip with
  | none => f.x.toNat
  | some c => max f.x.toNat c.left.toNat

/-- The column after the last column of every row. -/
def endColumn (f : RectFill) : Nat :=
  match f.clip with
  | none => f.x.toNat + f.width.toNat
  | some c => min (f.x.toNat + f.width.toNat) c.right.toNat

/-- The number of bytes of a row that lie within a memory of `size` bytes. -/
def spanLength (f : RectFill) (size row : Nat) : Nat :=
  if f.admitsRow row then
    min (row * f.pitch.toNat + f.endColumn) size - (row * f.pitch.toNat + f.firstColumn)
  else 0

/-- Fills `n` rows from `row` on and adds the bytes written to `count`. -/
def rows (f : RectFill) (row count : Nat) (vram : ByteArray) : Nat → Nat × ByteArray
  | 0 => (count, vram)
  | n + 1 =>
    let length := f.spanLength vram.size row
    rows f (row + 1) (count + length)
      (Bytes.fill vram (row * f.pitch.toNat + f.firstColumn) f.colour length) n

/-- Fills the rectangle and counts the bytes written, those written twice included. -/
def execute (f : RectFill) (vram : ByteArray) : Nat × ByteArray :=
  f.rows f.y.toNat 0 vram f.height.toNat

theorem size_rows (f : RectFill) (row count : Nat) (vram : ByteArray) (n : Nat) :
    (f.rows row count vram n).2.size = vram.size := by
  induction n generalizing row count vram with
  | zero => rfl
  | succ n ih => simp only [rows, ih, Bytes.size_fill]

theorem size_execute (f : RectFill) (vram : ByteArray) :
    (f.execute vram).2.size = vram.size :=
  f.size_rows _ _ _ _

end RectFill

end PumaBoard.Host

namespace PumaBoard.VideoMemory

/-- Fills a rectangle of the video memory and counts the bytes written. -/
def rectFill (m : VideoMemory) (f : Host.RectFill) : Nat × VideoMemory :=
  let filled := f.execute m.bytes
  (filled.1,
    { m with bytes := filled.2, size_eq := (f.size_execute m.bytes).trans m.size_eq })

end PumaBoard.VideoMemory
