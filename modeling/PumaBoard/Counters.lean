import PumaBoard.Register.Descriptor

/-!
The statistics counters of the pixel pipeline, which read back 24 bits wide.
-/

namespace PumaBoard

/-- The statistics counters. -/
structure Counters where
  pixelsIn : UInt32 := 0
  chromaFail : UInt32 := 0
  depthFail : UInt32 := 0
  alphaFail : UInt32 := 0
  pixelsOut : UInt32 := 0
deriving DecidableEq, Repr, Inhabited

/-- The value of a counter. -/
def Counters.get (c : Counters) : PixelCounter → UInt32
  | .pixelsIn => c.pixelsIn
  | .chromaFail => c.chromaFail
  | .depthFail => c.depthFail
  | .alphaFail => c.alphaFail
  | .pixelsOut => c.pixelsOut

/-- What a counter reads as. -/
def Counters.read (c : Counters) (counter : PixelCounter) : UInt32 := c.get counter &&& 0x00FFFFFF

end PumaBoard
