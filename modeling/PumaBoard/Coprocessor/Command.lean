import PumaBoard.Coprocessor.Basic
import PumaBoard.FastFill

/-!
The commands of the coprocessor: triangles for the rendering engine, fast fills of the frame
buffer, and buffer swaps.
-/

namespace PumaBoard.Coprocessor

/-! ### Textures -/

/-- The most texture memory that one upload takes: 256 by 256 texels of two bytes. -/
def maxTextureBytes : Nat := 256 * 256 * 2

/-- Where the current texture starts in the texture memory. -/
def textureOffset (d : Coprocessor) : UInt32 :=
  (d.regs.get Register.textureBase &&& 0x7FFFF) <<< 12

/-- Hands the current texture to a texture unit of the rendering engine. -/
def upload (d : Coprocessor) (tmu : Nat) : Coprocessor :=
  let offset := d.textureOffset
  if offset.toNat < d.memory.texture.size then
    let texels := Bytes.slice d.memory.texture offset.toNat maxTextureBytes
    (d.call (.load tmu offset texels)).call (.flush offset tmu)
  else d.note (.textureOutside offset)

/-- Hands the current texture to a texture unit, if a rendering engine is attached. -/
def loadTexture (d : Coprocessor) (tmu : Nat) : Coprocessor :=
  match d.backend with
  | none => d
  | some _ => d.upload tmu

/-! ### Triangles -/

/-- The parameters of a triangle under the current state. -/
def block (d : Coprocessor) (t : Triangle.Setup) : Render.Block :=
  .ofState t d.regs d.fog d.window

/-- Uploads the texture to every unit of the engine, if triangles are textured. -/
def uploadAll (d : Coprocessor) (b : Render.Backend) : Coprocessor :=
  let path := ColourPath.ofBits (d.regs.get Register.colourPath)
  if path.textured then b.units.foldl upload d else d

/-- Counts one triangle. -/
def countTriangle (d : Coprocessor) : Coprocessor :=
  { d with counters := { d.counters with pixelsIn := d.counters.pixelsIn + 1 } }

/-- Hands a triangle to the rendering engine, after its texture. -/
def submit (d : Coprocessor) (t : Triangle.Setup) : Coprocessor :=
  if d.enabled then
    match d.backend with
    | none => d.note .noBackend
    | some b =>
      let d := { d with busy := true }.uploadAll b
      let d := (d.call (.triangle (d.block t) d.memory.frame)).countTriangle
      { d with busy := false }
  else d

/-- Draws the triangle of the integer bank. -/
def renderTriangle (d : Coprocessor) : Coprocessor := d.submit d.triangle

/-- Draws the triangle of the floating point bank. -/
def renderFloatTriangle (d : Coprocessor) : Coprocessor := d.submit d.floatTriangle.toFixed

/-! ### Fast fill -/

/-- Fills the clip rectangle. -/
def fastFill (d : Coprocessor) : Coprocessor :=
  if d.enabled then
    let fill := FastFill.ofRegisters d.regs
    let colour := Surface.fillColour (d.regs.get Register.colour0)
    { d with memory := fill.execute d.memory }.note (.fastFilled fill.clip colour)
  else d

/-! ### Buffer swaps -/

/-- Tells of a sum that does not fit its type. Where sums are checked the program stops there, and
what follows never happens; where they are not, they wrap and it goes on. -/
def checkSum (d : Coprocessor) (fits : Bool) : Coprocessor :=
  { d with notices := if fits then d.notices else d.notices.push .overflow }

/-- The colour buffer. -/
def colourBuffer (d : Coprocessor) : Surface.Buffer :=
  .ofRegister (d.regs.get Register.colourBuffer)

/-- Carries out a requested buffer swap. -/
def swapBuffers (d : Coprocessor) : Coprocessor :=
  if d.swap.requested then
    let d := d.checkSum d.swap.canComplete
    { d with swap := d.swap.complete }.note (.swapCompleted d.colourBuffer d.window)
  else d

/-- Vertical sync: with a swap requested one pending swap retires, and the last one swaps. -/
def vsync (d : Coprocessor) : Coprocessor :=
  if d.enabled && d.swap.pending > 0 && d.swap.requested then
    let d := { d with swap := d.swap.retire }
    if d.swap.pending = 0 then d.swapBuffers else d
  else d

/-! ### Dispatch -/

/-- Carries out a command. -/
def execute (d : Coprocessor) : Command → Coprocessor
  | .triangle => (d.note .triangleCommand).renderTriangle
  | .floatTriangle => (d.note .floatTriangleCommand).renderFloatTriangle
  | .nop => d.note .nopCommand
  | .fastFill => (d.note .fastFillCommand).fastFill
  | .swapBuffer =>
    let d := { d with swap := d.swap.request }
    d.note (.swapRequested d.swap.pending)
  | .swapPend =>
    let d := d.checkSum d.swap.canAppend
    let d := { d with swap := d.swap.append }
    d.note (.swapAppended d.swap.pending)

/-! ### Pixel addresses -/

/-- The byte of the frame buffer at which a pixel of the colour buffer starts, around the frame
buffer. With the flip switch rows go up from the base. -/
def pixelAddress (d : Coprocessor) (x y : UInt32) : UInt32 :=
  let flip := (FillMode.ofBits (d.regs.get Register.fillMode)).flip
  (d.colourBuffer.row y flip + x * 2) &&& (d.layout.frameSize - 1)

end PumaBoard.Coprocessor
