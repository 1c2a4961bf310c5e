import PumaBoard.Aperture.Layout
import PumaBoard.Bytes

/-!
The storage behind the aperture: the frame buffer, which also holds the command ring, and the
texture memory. Both always have the size of the mode's layout, so no operation has to check it.
-/

namespace PumaBoard.Aperture

/-- Frame buffer and texture memory of a mode. -/
structure Memory where
  mode : Mode
  frame : ByteArray
  texture : ByteArray
  frame_size : frame.size = mode.layout.frameSize.toNat
  texture_size : texture.size = mode.layout.textureSize.toNat

namespace Memory

/-- Zeroed memory. -/
def zeroed (mode : Mode) : Memory where
  mode := mode
  frame := Bytes.zeros mode.layout.frameSize.toNat
  texture := Bytes.zeros mode.layout.textureSize.toNat
  frame_size := Bytes.size_zeros _
  texture_size := Bytes.size_zeros _

/-! ### Frame buffer -/

/-- The word of the frame buffer at an offset. -/
def readFrame32? (m : Memory) (offset : UInt32) : Option UInt32 :=
  Bytes.read32? m.frame offset.toNat

/-- The halfword of the frame buffer at an offset. -/
def readFrame16? (m : Memory) (offset : UInt32) : Option UInt16 :=
  Bytes.read16? m.frame offset.toNat

/-- Writes a word of the frame buffer; one that does not fit is dropped. -/
def writeFrame32 (m : Memory) (offset : UInt32) (v : UInt32) : Memory :=
  { m with
    frame := Bytes.write32 m.frame offset.toNat v
    frame_size := by rw [Bytes.size_write32]; exact m.frame_size }

/-- Writes a halfword of the frame buffer; one that does not fit is dropped. -/
def writeFrame16 (m : Memory) (offset : UInt32) (v : UInt16) : Memory :=
  { m with
    frame := Bytes.write16 m.frame offset.toNat v
    frame_size := by rw [Bytes.size_write16]; exact m.frame_size }

/-- Writes `v` to `n` bytes of the frame buffer from `start` on. -/
def fillFrame (m : Memory) (start n : Nat) (v : UInt8) : Memory :=
  { m with
    frame := Bytes.fill m.frame start v n
    frame_size := by rw [Bytes.size_fill]; exact m.frame_size }

/-! ### Texture memory -/

/-- The word of the texture memory at an offset. -/
def readTexture32? (m : Memory) (offset : UInt32) : Option UInt32 :=
  Bytes.read32? m.texture offset.toNat

/-- Writes a word of the texture memory; one that does not fit is dropped. -/
def writeTexture32 (m : Memory) (offset : UInt32) (v : UInt32) : Memory :=
  { m with
    texture := Bytes.write32 m.texture offset.toNat v
    texture_size := by rw [Bytes.size_write32]; exact m.texture_size }

/-- Writes `v` to `n` bytes of the texture memory from `start` on. -/
def fillTexture (m : Memory) (start n : Nat) (v : UInt8) : Memory :=
  { m with
    texture := Bytes.fill m.texture start v n
    texture_size := by rw [Bytes.size_fill]; exact m.texture_size }

end Memory

end PumaBoard.Aperture
