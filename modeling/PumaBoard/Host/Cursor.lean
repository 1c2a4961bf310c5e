import PumaBoard.Host.Registers

/-!
The hardware cursor as its registers give it. Only the state is kept; the pixels are drawn
elsewhere.
-/

namespace PumaBoard.Host

/-- The cursor state derived from the cursor registers. -/
structure Cursor where
  enabled : Bool := false
  /-- The place of the image on the screen: the position less the hotspot. -/
  x : Int := 0
  y : Int := 0
  hotspotX : UInt8 := 0
  hotspotY : UInt8 := 0
  /-- The address of the image in video memory. -/
  addr : UInt32 := 0
  /-- The size of the image in pixels, both ways; unknown until the registers are read. -/
  size : Nat := 0
deriving DecidableEq, Repr, Inhabited

namespace Cursor

/-! ### Registers -/

def control : UInt32 := 0x140
def positionX : UInt32 := 0x142
def positionY : UInt32 := 0x144
def address : UInt32 := 0x148
def hotspotXOffset : UInt32 := 0x14C
def hotspotYOffset : UInt32 := 0x14D

/-- The size of every cursor image. -/
def imageSize : Nat := 32

/-- The cursor of the registers, its image address cut to the video memory. -/
def ofRegisters (r : Registers) (mask : UInt32) : Cursor where
  enabled := r.byte control &&& 1 ≠ 0
  x := (r.half positionX).toNat - (r.byte hotspotXOffset).toNat
  y := (r.half positionY).toNat - (r.byte hotspotYOffset).toNat
  hotspotX := r.byte hotspotXOffset
  hotspotY := r.byte hotspotYOffset
  addr := r.word address &&& mask
  size := imageSize

/-- Whether a write to an offset of the window changes the cursor. -/
def dependsOn (offset : UInt32) : Bool :=
  offset = control || (positionX ≤ offset && offset ≤ 0x145) ||
    (address ≤ offset && offset ≤ 0x14B) || offset = hotspotXOffset || offset = hotspotYOffset

end Cursor

end PumaBoard.Host
