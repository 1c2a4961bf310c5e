import PumaBoard.Proofs.Coprocessor.Banks
import PumaBoard.Proofs.Word.Number

/-!
The parameter block of a triangle as the stored registers describe it: every part is a field of
bits of one register, read as a number. Main statement: the block of a coprocessor whose banks
follow its registers is the one that the stored registers and the window describe.
-/

namespace PumaBoard

open Word

namespace Render

/-! ### The block that registers describe -/

section Described

variable (reg : UInt32 → UInt32)

/-- The corner in a pair of registers, moved by the origin of the window in sixteenths. -/
def Point.described (window : Window) (n : UInt32) : Point :=
  ⟨.ofInt (signedLow (reg n) 16 + 16 * window.x.toInt),
    .ofInt (signedLow (reg (n + 1)) 16 + 16 * window.y.toInt)⟩

/-- Colour starts are bits 12 to 23 of their registers, the depth start the bits from 12 on. -/
def Channels.describedStart : Channels :=
  let colour (n : UInt32) : Int32 := .ofInt (bitsAt (reg n) 12 12)
  { r := colour 0x08, g := colour 0x0B, b := colour 0x0E, a := colour 0x14
    z := .ofInt ((reg 0x11).toNat / 4096) }

/-- Gradients are signed numbers of 24 bits for colours and of 32 bits for depth, divided by 4096
and rounded down. The register of a gradient stands `k` places after that of the start. -/
def Channels.describedGradient (k : UInt32) : Channels :=
  let colour (n : UInt32) : Int32 := .ofInt (signedLow (reg (n + k)) 24 / 4096)
  { r := colour 0x08, g := colour 0x0B, b := colour 0x0E, a := colour 0x14
    z := .ofInt (signedLow (reg (0x11 + k)) 32 / 4096) }

def TexturePoint.describedStart : TexturePoint :=
  ⟨(reg 0x17).toNat, (reg 0x1A).toNat, (reg 0x1D).toNat⟩

def TexturePoint.describedGradient (k : UInt32) : TexturePoint :=
  ⟨signedLow (reg (0x17 + k)) 32, signedLow (reg (0x1A + k)) 32, signedLow (reg (0x1D + k)) 32⟩

def TextureUnit.described : TextureUnit where
  start := .describedStart reg
  dx := .describedGradient reg 1
  dy := .describedGradient reg 2
  mode := reg 0xC1
  lod := reg 0xC2
  detail := reg 0xC3
  base := reg 0xC4
  base1 := reg 0xC5

/-- Edges of 11 bits, left and top in the low halves. -/
def Clip.described : Surface.Clip where
  left := .ofNat (bitsAt (reg 0x62) 0 11)
  right := .ofNat (bitsAt (reg 0x62) 16 11)
  top := .ofNat (bitsAt (reg 0x63) 0 11)
  bottom := .ofNat (bitsAt (reg 0x63) 16 11)

/-- The base in bits 0 to 21, the stride in words in bits 22 to 30. -/
def Buffer.described (n : UInt32) : Surface.Buffer :=
  ⟨.ofNat (bitsAt (reg n) 0 22), .ofNat (bitsAt (reg n) 22 9 * 4)⟩

def FogColour.described : Fog.Colour :=
  ⟨.ofNat (bitsAt (reg 0x58) 0 8), .ofNat (bitsAt (reg 0x58) 8 8), .ofNat (bitsAt (reg 0x58) 16 8)⟩

/-- A register holds two entries, the even one in the low half; in a half the difference is in
the low byte and the factor in the high byte. -/
def FogTable.described : Fog.Table :=
  Vector.ofFn fun i =>
    { fog := .ofNat (bitsAt (reg (.ofNat (0x70 + i.val / 2))) (16 * (i.val % 2) + 8) 8)
      dfog := .ofNat (bitsAt (reg (.ofNat (0x70 + i.val / 2))) (16 * (i.val % 2)) 8) }

/-- The block that the words of the registers and a window describe. -/
def Block.described (window : Window) : Block where
  vertexA := .described reg window 0x02
  vertexB := .described reg window 0x04
  vertexC := .described reg window 0x06
  start := .describedStart reg
  dx := .describedGradient reg 1
  dy := .describedGradient reg 2
  unit0 := .described reg
  unit1 := .described reg
  colourPath := reg 0x50
  fogMode := reg 0x51
  alphaMode := reg 0x52
  fillMode := reg 0x54
  stipple := reg 0x55
  colour0 := reg 0x56
  colour1 := reg 0x57
  depthColour := reg 0x59
  chromaKey := reg 0x5A
  chromaRange := reg 0x5B
  fogColour := FogColour.described reg
  fogTable := FogTable.described reg
  clip := Clip.described reg
  colour := Buffer.described reg 0x60
  aux := Buffer.described reg 0x61

end Described

/-! ### Fields of words -/

theorem Clip.ofRegisters_eq (u v : UInt32) :
    Surface.Clip.ofRegisters u v =
      ⟨.ofNat (bitsAt u 0 11), .ofNat (bitsAt u 16 11), .ofNat (bitsAt v 0 11),
        .ofNat (bitsAt v 16 11)⟩ := by
  rw [Surface.Clip.ofRegisters, and_eq u 0x7FF 11 rfl, and_eq v 0x7FF 11 rfl,
    shift_and_eq u 16 0x7FF 16 11 rfl (by decide) rfl,
    shift_and_eq v 16 0x7FF 16 11 rfl (by decide) rfl]

theorem Buffer.ofRegister_eq (w : UInt32) :
    Surface.Buffer.ofRegister w =
      ⟨.ofNat (bitsAt w 0 22), .ofNat (bitsAt w 22 9 * 4)⟩ := by
  rw [Surface.Buffer.ofRegister, and_eq w 0x3FFFFF 22 rfl,
    shift_and_eq w 22 0x1FF 22 9 rfl (by decide) rfl, UInt32.ofNat_mul]
  rfl

theorem FogColour.ofRegister_eq (w : UInt32) :
    Fog.Colour.ofRegister w =
      ⟨.ofNat (bitsAt w 0 8), .ofNat (bitsAt w 8 8), .ofNat (bitsAt w 16 8)⟩ := by
  rw [Fog.Colour.ofRegister, toUInt8_eq w, shift_toUInt8 w 8 8 rfl (by decide),
    shift_toUInt8 w 16 16 rfl (by decide)]

theorem FogEntry.ofHalf_eq (w : UInt32) :
    Fog.Entry.ofHalf w = { fog := .ofNat (bitsAt w 8 8), dfog := .ofNat (bitsAt w 0 8) } := by
  rw [Fog.Entry.ofHalf, toUInt8_eq w, shift_toUInt8 w 8 8 rfl (by decide)]

theorem FogEntry.ofHalf_high (w : UInt32) :
    Fog.Entry.ofHalf (w >>> 16) =
      { fog := .ofNat (bitsAt w 24 8), dfog := .ofNat (bitsAt w 16 8) } := by
  have h24 : w >>> 16 >>> 8 = w >>> 24 := by
    rw [← UInt32.toNat_inj]
    simp only [UInt32.toNat_shiftRight]
    exact (Nat.shiftRight_add ..).symm
  rw [Fog.Entry.ofHalf, h24, shift_toUInt8 w 16 16 rfl (by decide),
    shift_toUInt8 w 24 24 rfl (by decide)]

/-! ### Parts of the block -/

theorem Block.ofState_eq_moveBy (t : Triangle.Setup) (regs : RegisterFile) (fog : Fog.Table)
    (window : Window) :
    Block.ofState t regs fog window = (Block.ofScreen t regs fog).moveBy window.x window.y := by
  have hzero (p : Point) : p.moveBy 0 0 = p := by simp [Point.moveBy]
  unfold Block.ofState
  split
  · next h =>
    simp only [Window.atOrigin, Bool.and_eq_true, decide_eq_true_eq] at h
    rw [h.1, h.2, Block.moveBy, hzero, hzero, hzero]
  · rfl

/-- A field after its format was stored, moved by whole pixels. -/
theorem moved_eq (w : UInt32) (x : Int32) :
    (signExtend16 w).toInt32 + x * 16 = Int32.ofInt (signedLow w 16 + 16 * x.toInt) := by
  rw [Int32.ofInt_add, ← toInt_signExtend16, Int32.ofInt_toInt, Int32.ofInt_mul,
    Int32.ofInt_toInt, Int32.mul_comm]
  rfl

theorem colourStart_eq (w : UInt32) :
    (low24 w >>> 12).toInt32 = Int32.ofInt (bitsAt w 12 12) := by
  have hn : bitsAt w 0 24 / 4096 = bitsAt w 12 12 := by
    simp only [bitsAt]
    omega
  rw [toInt32_eq, toNat_shiftRight12, toNat_low24, hn]

theorem depthStart_eq (w : UInt32) : (w >>> 12).toInt32 = Int32.ofInt (w.toNat / 4096) := by
  rw [toInt32_eq, toNat_shiftRight12]; rfl

theorem colourGradient_eq (w : UInt32) :
    (signExtend24 w).toInt32 >>> 12 = Int32.ofInt (signedLow w 24 / 4096) := by
  rw [← toInt_signExtend24, ← toInt_shiftRight12, Int32.ofInt_toInt]

theorem depthGradient_eq (w : UInt32) :
    w.toInt32 >>> 12 = Int32.ofInt (signedLow w 32 / 4096) := by
  rw [← toInt_toInt32, ← toInt_shiftRight12, Int32.ofInt_toInt]

end Render

/-! ### The block of a coprocessor whose banks follow its registers -/

namespace Coprocessor

open Render Triangle

section Block

variable {d : Coprocessor} (h : d.banks.Agree)

include h

theorem get_triangle (f : Field) :
    d.triangle.get f = f.format.store (d.regs.get f.register) := h.triangle f

theorem vertex_eq (corner : Corner) (axis : Axis) (x : Int32) :
    d.triangle.signed (.vertex corner axis) + x * 16 =
      .ofInt (signedLow (d.regs.get (Field.vertex corner axis).register) 16 + 16 * x.toInt) := by
  rw [Setup.signed, get_triangle h]
  exact moved_eq ..

theorem corner_eq (corner : Corner) :
    (Point.ofSetup d.triangle corner).moveBy d.window.x d.window.y =
      .described d.storedIndex d.window (.ofNat (0x02 + 2 * corner.index.val)) := by
  rw [Point.ofSetup, Point.moveBy, vertex_eq h, vertex_eq h]
  cases corner <;> rfl

theorem colourStart (q : Quantity) (hq : q.isColour = true) :
    (d.triangle.get (.start q) >>> 12).toInt32 =
      .ofInt (bitsAt (d.regs.get (Field.start q).register) 12 12) := by
  have hf : (Field.start q).format = .unsigned24 := if_pos hq
  rw [get_triangle h, hf]
  exact colourStart_eq _

theorem colourGradient (q : Quantity) (axis : Axis) (hq : q.isColour = true) :
    d.triangle.signed (.gradient q axis) >>> 12 =
      .ofInt (signedLow (d.regs.get (Field.gradient q axis).register) 24 / 4096) := by
  have hf : (Field.gradient q axis).format = .signed24 := if_pos hq
  rw [Setup.signed, get_triangle h, hf]
  exact colourGradient_eq _

theorem channels_start : Channels.startOf d.triangle = .describedStart d.storedIndex := by
  have hz : (d.triangle.get (.start .z) >>> 12).toInt32 =
      .ofInt ((d.regs.get (Field.start .z).register).toNat / 4096) := by
    rw [get_triangle h]
    exact depthStart_eq _
  simp only [Channels.startOf, colourStart h _ (show Quantity.isColour .r = true from rfl),
    colourStart h _ (show Quantity.isColour .g = true from rfl),
    colourStart h _ (show Quantity.isColour .b = true from rfl),
    colourStart h _ (show Quantity.isColour .a = true from rfl), hz]
  rfl

/-- How far the register of a gradient stands behind that of the start. -/
def gradientPlace : Axis → UInt32
  | .x => 1
  | .y => 2

theorem channels_gradient (axis : Axis) :
    Channels.gradientOf d.triangle axis =
      .describedGradient d.storedIndex (gradientPlace axis) := by
  have hz : d.triangle.signed (.gradient .z axis) >>> 12 =
      .ofInt (signedLow (d.regs.get (Field.gradient .z axis).register) 32 / 4096) := by
    rw [Setup.signed, get_triangle h]
    exact depthGradient_eq _
  simp only [Channels.gradientOf, colourGradient h _ _ (show Quantity.isColour .r = true from rfl),
    colourGradient h _ _ (show Quantity.isColour .g = true from rfl),
    colourGradient h _ _ (show Quantity.isColour .b = true from rfl),
    colourGradient h _ _ (show Quantity.isColour .a = true from rfl), hz]
  cases axis <;> rfl

theorem texture_start : TexturePoint.startOf d.triangle = .describedStart d.storedIndex := by
  simp only [TexturePoint.startOf, get_triangle h]
  rfl

theorem texture_gradient (axis : Axis) :
    TexturePoint.gradientOf d.triangle axis =
      .describedGradient d.storedIndex (gradientPlace axis) := by
  have hq (q : Quantity) (hq : q.isColour = false) :
      (d.triangle.signed (.gradient q axis)).toInt =
        signedLow (d.regs.get (Field.gradient q axis).register) 32 := by
    have hf : (Field.gradient q axis).format = .signed32 := if_neg (by simp [hq])
    rw [Setup.signed, get_triangle h, hf]
    exact toInt_toInt32 _
  simp only [TexturePoint.gradientOf, hq _ (show Quantity.isColour .s = false from rfl),
    hq _ (show Quantity.isColour .t = false from rfl),
    hq _ (show Quantity.isColour .w = false from rfl)]
  cases axis <;> rfl

theorem textureUnit_eq : TextureUnit.ofState d.triangle d.regs = .described d.storedIndex := by
  rw [TextureUnit.ofState, texture_start h, texture_gradient h, texture_gradient h]
  rfl

theorem fogTable_eq : d.fog = FogTable.described d.storedIndex := by
  refine Vector.ext fun i hi => ?_
  rw [FogTable.described, Vector.getElem_ofFn]
  obtain ⟨heven, hodd⟩ := h.fog ⟨i / 2, by omega⟩
  have hreg : d.storedIndex (.ofNat (0x70 + i / 2)) =
      d.regs.get (Fog.pairRegister ⟨i / 2, by omega⟩) := storedIndex_ofNat d (by omega)
  rw [hreg]
  rcases Nat.mod_two_eq_zero_or_one i with h0 | h1
  · have hi' : 2 * (i / 2) = i := by omega
    simp only [hi', Vector.getElem?_eq_getElem hi, Option.some.injEq] at heven
    exact heven.trans (by rw [FogEntry.ofHalf_eq, h0]; rfl)
  · have hi' : 2 * (i / 2) + 1 = i := by omega
    simp only [hi', Vector.getElem?_eq_getElem hi, Option.some.injEq] at hodd
    exact hodd.trans (by rw [FogEntry.ofHalf_high, h1]; rfl)

/-- **The block of the integer bank is the one that the stored registers describe.** -/
theorem block_eq_described : d.block d.triangle = .described d.storedIndex d.window := by
  rw [block, Block.ofState_eq_moveBy, Block.moveBy]
  simp only [Block.ofScreen, corner_eq h, channels_start h, channels_gradient h, textureUnit_eq h,
    Clip.ofRegisters_eq, Buffer.ofRegister_eq, FogColour.ofRegister_eq, fogTable_eq h]
  rfl

end Block

end Coprocessor

end PumaBoard
