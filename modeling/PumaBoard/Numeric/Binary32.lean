/-!
Single-precision floating point numbers, given by their bit patterns: how a pattern scaled by a
power of two is cut to an integer, and when two patterns stand for equal numbers. A finite
pattern is the number `± m · 2 ^ q`, so everything is computed exactly in integers.
-/

namespace PumaBoard.Binary32

/-! ### The parts of a pattern -/

/-- The sign bit. -/
def negative (b : UInt32) : Bool := b >>> 31 = 1

/-- The biased exponent. -/
def exponent (b : UInt32) : Nat := ((b >>> 23) &&& 0xFF).toNat

/-- The fraction field. -/
def fraction (b : UInt32) : Nat := (b &&& 0x7FFFFF).toNat

/-- The pattern is not a number. -/
def isNaN (b : UInt32) : Bool := exponent b = 255 && fraction b ≠ 0

/-- The pattern is an infinity. -/
def isInfinite (b : UInt32) : Bool := exponent b = 255 && fraction b = 0

/-- The integer `m` of the finite number `± m · 2 ^ q`. -/
def significand (b : UInt32) : Nat := if exponent b = 0 then fraction b else fraction b + 0x800000

/-- The power `q` of the finite number `± m · 2 ^ q`. -/
def power (b : UInt32) : Int := if exponent b = 0 then -149 else (exponent b : Int) - 150

/-! ### Conversion to integers -/

/-- The magnitude of a finite number times `2 ^ k`, without its fraction. -/
def magnitude (b : UInt32) (k : Nat) : Nat :=
  let q := power b + k
  if 0 ≤ q then significand b <<< q.toNat else significand b >>> (-q).toNat

/-- The number times `2 ^ k`, cut toward zero and held between `lo` and `hi`. No number is `0`,
and an infinity is the bound on its side. -/
def truncate (b : UInt32) (k : Nat) (lo hi : Int) : Int :=
  if isNaN b then 0
  else if isInfinite b then if negative b then lo else hi
  else
    let m : Int := magnitude b k
    max lo (min hi (if negative b then -m else m))

/-- The number times `2 ^ k` as a signed word. -/
def toSigned (b : UInt32) (k : Nat) : UInt32 :=
  (Int32.ofInt (truncate b k (-2147483648) 2147483647)).toUInt32

/-- The number times `2 ^ k` as an unsigned word. -/
def toUnsigned (b : UInt32) (k : Nat) : UInt32 :=
  UInt32.ofNat (truncate b k 0 4294967295).toNat

/-! ### Equality of numbers -/

/-- The pattern is one of the two zeros. -/
def isZero (b : UInt32) : Bool := b &&& 0x7FFFFFFF = 0

/-- The numbers are equal: the two zeros are, and no number equals nothing, itself included. -/
def equal (a b : UInt32) : Bool :=
  !isNaN a && !isNaN b && (a = b || (isZero a && isZero b))

end PumaBoard.Binary32
