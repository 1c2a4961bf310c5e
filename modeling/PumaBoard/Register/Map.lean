/-!
The register map: the indices of the registers that are called by a name, and the values that some
registers hold after power-on.
-/

namespace PumaBoard

/-- An index of the register file. -/
abbrev Register := Fin 256

namespace Register

/-- The register whose index is in the low eight bits of a word. -/
def ofWord (w : UInt32) : Register := Fin.ofNat 256 w.toNat

/-! ### Triangle setup -/

def triangleCommand : Register := 0x20
def floatTriangleCommand : Register := 0x40

/-! ### Commands -/

def fastFillCommand : Register := 0x44
def swapBufferCommand : Register := 0x46
def swapPendCommand : Register := 0x48

/-! ### Pixel pipeline -/

def colourPath : Register := 0x50
def fogMode : Register := 0x51
def alphaMode : Register := 0x52
def fillMode : Register := 0x54
def stipple : Register := 0x55
def colour0 : Register := 0x56
def colour1 : Register := 0x57
def fogColour : Register := 0x58
def depthColour : Register := 0x59
def chromaKey : Register := 0x5A
def chromaRange : Register := 0x5B

/-! ### Buffers and clipping -/

def colourBuffer : Register := 0x60
def auxBuffer : Register := 0x61
def clipLeftRight : Register := 0x62
def clipTopBottom : Register := 0x63

/-! ### Board interface -/

def init0 : Register := 0x90
def init1 : Register := 0x91
def init2 : Register := 0x92
def init3 : Register := 0x93

/-! ### Texture unit -/

def textureMode : Register := 0xC1
def textureLod : Register := 0xC2
def textureDetail : Register := 0xC3
def textureBase : Register := 0xC4
def textureBase1 : Register := 0xC5

/-! ### Command ring -/

def ringBase : Register := 0xE8
def ringTop : Register := 0xE9
def ringBottom : Register := 0xEA
def ringReadPtr : Register := 0xEB
def ringThreshold : Register := 0xEC
def ringEnable : Register := 0xED

/-! ### Power-on values -/

/-- What the version register reads as: interface revision 1 of device 2. -/
def versionValue : UInt32 := 0x00010201

/-- The registers that are not zero after power-on, with their values. -/
def powerOn : List (Register × UInt32) :=
  [(init0, 0x0000F201), (init1, 0x01800000), (init2, 0x00070D2D), (init3, 0x00180600)]

end Register

end PumaBoard
