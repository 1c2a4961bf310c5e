/-!
Machine words: sign extension of the low bits of a word, and the little-endian bytes ("lanes")
that halfwords and words are made of.
-/

namespace PumaBoard.Word

/-! ### Sign extension -/

/-- The low 16 bits of a word as a two's complement number, again as a word. -/
def signExtend16 (w : UInt32) : UInt32 := w.toUInt16.toInt16.toInt32.toUInt32

/-- The low 24 bits of a word as a two's complement number, again as a word. -/
def signExtend24 (w : UInt32) : UInt32 :=
  if w &&& 0x800000 ≠ 0 then w ||| 0xFF000000 else w &&& 0x00FFFFFF

/-- The low 24 bits of a word. -/
def low24 (w : UInt32) : UInt32 := w &&& 0x00FFFFFF

/-! ### Lanes -/

/-- The byte of a word in lane `k`, counted from the least significant byte. -/
def lane (w : UInt32) (k : UInt32) : UInt8 := (w >>> (8 * k)).toUInt8

/-- The four bytes of a word, least significant first. -/
def lanes (w : UInt32) : List UInt8 := [lane w 0, lane w 1, lane w 2, lane w 3]

/-- The two bytes of a halfword, least significant first. -/
def halfLanes (h : UInt16) : List UInt8 := [h.toUInt8, (h >>> 8).toUInt8]

/-- The word with the given bytes, least significant first. -/
def ofLanes (b₀ b₁ b₂ b₃ : UInt8) : UInt32 :=
  b₀.toUInt32 ||| (b₁.toUInt32 <<< 8) ||| (b₂.toUInt32 <<< 16) ||| (b₃.toUInt32 <<< 24)

/-- The halfword with the given bytes, least significant first. -/
def ofHalfLanes (b₀ b₁ : UInt8) : UInt16 := b₀.toUInt16 ||| (b₁.toUInt16 <<< 8)

/-- Whether bit `n` of a word is set. -/
def bit (w : UInt32) (n : UInt32) : Bool := (w >>> n) &&& 1 = 1

/-- The word `1 <<< n` if `b` holds, and `0` otherwise. -/
def ofBit (b : Bool) (n : UInt32) : UInt32 := if b then 1 <<< n else 0

/-- The positions of the set bits of a word, in increasing order. -/
def setBits (w : UInt32) : List UInt32 :=
  ((List.range 32).map UInt32.ofNat).filter (bit w)

/-- The number of set bits of a word. -/
def population (w : UInt32) : UInt32 := UInt32.ofNat (setBits w).length

end PumaBoard.Word
