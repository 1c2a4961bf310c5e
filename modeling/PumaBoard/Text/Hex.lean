/-!
Numbers in base 16 and numbers filled up to a least width.
-/

namespace PumaBoard.Text

/-- The text with fill characters in front, up to a width. -/
def padLeft (width : Nat) (fill : Char) (s : String) : String :=
  String.ofList (List.replicate (width - s.length) fill) ++ s

/-- The text with spaces behind, up to a width. -/
def padRight (width : Nat) (s : String) : String :=
  s ++ String.ofList (List.replicate (width - s.length) ' ')

/-- A number in base 16 with lower-case digits. -/
def hex (n : Nat) : String := String.ofList (Nat.toDigits 16 n)

/-- A digit of base 16 in upper case. -/
def upperDigit (c : Char) : Char := if 'a' ≤ c ∧ c ≤ 'f' then Char.ofNat (c.toNat - 32) else c

/-- A number in base 16 with upper-case digits. -/
def hexUpper (n : Nat) : String := String.ofList ((Nat.toDigits 16 n).map upperDigit)

/-- A number in base 16 with lower-case digits and zeros up to a width. -/
def hexPad (width n : Nat) : String := padLeft width '0' (hex n)

/-- A number in base 16 with upper-case digits and zeros up to a width. -/
def hexUpperPad (width n : Nat) : String := padLeft width '0' (hexUpper n)

end PumaBoard.Text
