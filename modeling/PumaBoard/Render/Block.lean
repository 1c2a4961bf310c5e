import PumaBoard.Fog
import PumaBoard.Register.File
import PumaBoard.Surface
import PumaBoard.Triangle.Setup
import PumaBoard.Window

/-!
The parameter block that a triangle hands to the rendering engine, as a function of the triangle
setup, the register file, the fog table and the window. Colours and depth lose their 12 fraction
bits; the texture iterators are passed on as they are, the same for both texture units.
-/

namespace PumaBoard.Render

/-! ### Parts of a block -/

/-- A vertex in screen units with four fraction bits. -/
structure Point where
  x : Int32
  y : Int32
deriving DecidableEq, Repr, Inhabited

/-- Colour channels and depth, or their gradients. -/
structure Channels where
  r : Int32
  g : Int32
  b : Int32
  a : Int32
  z : Int32
deriving DecidableEq, Repr, Inhabited

/-- Texture coordinates, or their gradients. -/
structure TexturePoint where
  s : Int
  t : Int
  w : Int
deriving DecidableEq, Repr, Inhabited

/-- The iterators and modes of one texture unit. -/
structure TextureUnit where
  start : TexturePoint
  dx : TexturePoint
  dy : TexturePoint
  mode : UInt32
  lod : UInt32
  detail : UInt32
  base : UInt32
  base1 : UInt32
deriving DecidableEq, Repr, Inhabited

/-- The parameters of one triangle. -/
structure Block where
  vertexA : Point
  vertexB : Point
  vertexC : Point
  start : Channels
  dx : Channels
  dy : Channels
  unit0 : TextureUnit
  unit1 : TextureUnit
  colourPath : UInt32
  fogMode : UInt32
  alphaMode : UInt32
  fillMode : UInt32
  stipple : UInt32
  colour0 : UInt32
  colour1 : UInt32
  depthColour : UInt32
  chromaKey : UInt32
  chromaRange : UInt32
  fogColour : Fog.Colour
  fogTable : Fog.Table
  clip : Surface.Clip
  colour : Surface.Buffer
  aux : Surface.Buffer

/-! ### From the setup -/

open Triangle in
/-- A corner of the triangle. -/
def Point.ofSetup (t : Setup) (corner : Corner) : Point :=
  ⟨t.signed (.vertex corner .x), t.signed (.vertex corner .y)⟩

/-- Moves a vertex by a number of whole pixels; sums wrap. -/
def Point.moveBy (p : Point) (x y : Int32) : Point := ⟨p.x + x * 16, p.y + y * 16⟩

open Triangle in
/-- The start values without their fraction. -/
def Channels.startOf (t : Setup) : Channels :=
  let whole (q : Quantity) : Int32 := (t.get (.start q) >>> 12).toInt32
  ⟨whole .r, whole .g, whole .b, whole .a, whole .z⟩

open Triangle in
/-- The gradients along an axis without their fraction, rounded down. -/
def Channels.gradientOf (t : Setup) (axis : Axis) : Channels :=
  let whole (q : Quantity) : Int32 := t.signed (.gradient q axis) >>> 12
  ⟨whole .r, whole .g, whole .b, whole .a, whole .z⟩

open Triangle in
/-- The texture starts, which are unsigned. -/
def TexturePoint.startOf (t : Setup) : TexturePoint :=
  let value (q : Quantity) : Int := (t.get (.start q)).toNat
  ⟨value .s, value .t, value .w⟩

open Triangle in
/-- The texture gradients along an axis, which are signed. -/
def TexturePoint.gradientOf (t : Setup) (axis : Axis) : TexturePoint :=
  let value (q : Quantity) : Int := (t.signed (.gradient q axis)).toInt
  ⟨value .s, value .t, value .w⟩

/-- The state of a texture unit. -/
def TextureUnit.ofState (t : Triangle.Setup) (regs : RegisterFile) : TextureUnit where
  start := .startOf t
  dx := .gradientOf t .x
  dy := .gradientOf t .y
  mode := regs.get Register.textureMode
  lod := regs.get Register.textureLod
  detail := regs.get Register.textureDetail
  base := regs.get Register.textureBase
  base1 := regs.get Register.textureBase1

/-- The parameters of a triangle drawn with its vertices as they are. -/
def Block.ofScreen (t : Triangle.Setup) (regs : RegisterFile) (fog : Fog.Table) : Block where
  vertexA := .ofSetup t .a
  vertexB := .ofSetup t .b
  vertexC := .ofSetup t .c
  start := .startOf t
  dx := .gradientOf t .x
  dy := .gradientOf t .y
  unit0 := .ofState t regs
  unit1 := .ofState t regs
  colourPath := regs.get Register.colourPath
  fogMode := regs.get Register.fogMode
  alphaMode := regs.get Register.alphaMode
  fillMode := regs.get Register.fillMode
  stipple := regs.get Register.stipple
  colour0 := regs.get Register.colour0
  colour1 := regs.get Register.colour1
  depthColour := regs.get Register.depthColour
  chromaKey := regs.get Register.chromaKey
  chromaRange := regs.get Register.chromaRange
  fogColour := .ofRegister (regs.get Register.fogColour)
  fogTable := fog
  clip := .ofRegisters (regs.get Register.clipLeftRight) (regs.get Register.clipTopBottom)
  colour := .ofRegister (regs.get Register.colourBuffer)
  aux := .ofRegister (regs.get Register.auxBuffer)

/-- Moves the vertices by a number of whole pixels. -/
def Block.moveBy (b : Block) (x y : Int32) : Block :=
  { b with
    vertexA := b.vertexA.moveBy x y
    vertexB := b.vertexB.moveBy x y
    vertexC := b.vertexC.moveBy x y }

/-- The parameters of a triangle drawn into a window. -/
def Block.ofState (t : Triangle.Setup) (regs : RegisterFile) (fog : Fog.Table) (window : Window) :
    Block :=
  let block := Block.ofScreen t regs fog
  if window.atOrigin then block else block.moveBy window.x window.y

end PumaBoard.Render
