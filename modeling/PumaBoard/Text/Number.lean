/-!
Reading unsigned numbers of 32 bits, in base 10 or 16, with an optional plus sign in front. The
first fault from the left decides the error.
-/

namespace PumaBoard.Text

/-- Why a text is no number. -/
inductive NumberFault where
  | empty
  | digit
  | tooLarge
deriving DecidableEq, Repr

/-- The wording of the fault. -/
def NumberFault.message : NumberFault → String
  | .empty => "cannot parse integer from empty string"
  | .digit => "invalid digit found in string"
  | .tooLarge => "number too large to fit in target type"

/-- The value of a digit, capitals and small letters alike. -/
def digitValue? (base : Nat) (c : Char) : Option Nat :=
  let v :=
    if '0' ≤ c ∧ c ≤ '9' then c.toNat - '0'.toNat
    else if 'a' ≤ c ∧ c ≤ 'z' then c.toNat - 'a'.toNat + 10
    else if 'A' ≤ c ∧ c ≤ 'Z' then c.toNat - 'A'.toNat + 10
    else base
  if v < base then some v else none

/-- Reads the digits after a number read so far. -/
def readDigits (base value : Nat) : List Char → Except NumberFault Nat
  | [] => .ok value
  | c :: cs =>
    match digitValue? base c with
    | none => .error .digit
    | some d =>
      if value * base + d < 0x100000000 then readDigits base (value * base + d) cs
      else .error .tooLarge

/-- Reads a number; a sign alone is not one. -/
def readNumber (base : Nat) (cs : List Char) : Except NumberFault Nat :=
  match cs with
  | [] => .error .empty
  | ['+'] => .error .digit
  | '+' :: digits => readDigits base 0 digits
  | digits => readDigits base 0 digits

end PumaBoard.Text
