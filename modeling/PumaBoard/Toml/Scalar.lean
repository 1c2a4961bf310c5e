import PumaBoard.Text.Number
import PumaBoard.Time.Calendar
import PumaBoard.Toml.Value

/-!
TOML scalars without quotes: truth values, integers in four bases, floating point numbers, dates
and times. Digits may be grouped by single underscores. What is shaped like an integer but stands
for no number is let through as an unreadable value.
-/

namespace PumaBoard.Toml

/-! ### Digits -/

/-- The character is a digit of a base. -/
def isDigitOf (base : Nat) (c : Char) : Bool := (Text.digitValue? base c).isSome

/-- The digits of a group, without the underscores between them. -/
def ungroup? (base : Nat) : List Char → Option (List Char)
  | [] => none
  | [c] => if isDigitOf base c then some [c] else none
  | c :: '_' :: cs => if isDigitOf base c then (ungroup? base cs).map (c :: ·) else none
  | c :: cs => if isDigitOf base c then (ungroup? base cs).map (c :: ·) else none

/-- The number that digits stand for. -/
def valueOf (base : Nat) (digits : List Char) : Nat :=
  digits.foldl (fun n c => n * base + (Text.digitValue? base c).getD 0) 0

/-- The number of a group of digits. -/
def readGroup? (base : Nat) (cs : List Char) : Option Nat := (ungroup? base cs).map (valueOf base)

/-- The number of a group of decimal digits that does not start with a needless zero. -/
def readWhole? (cs : List Char) : Option Nat := do
  let digits ← ungroup? 10 cs
  match digits with
  | '0' :: _ :: _ => none
  | _ => some (valueOf 10 digits)

/-- Splits off a sign; the flag says that it is a minus. -/
def splitSign : List Char → Bool × List Char
  | '-' :: cs => (true, cs)
  | '+' :: cs => (false, cs)
  | cs => (false, cs)

/-! ### Integers -/

/-- Reads an integer in a base after its mark. Without digits it is an integer, but one that cannot
be read. -/
def readInBase? (base : Nat) (cs : List Char) : Option Value :=
  if cs.isEmpty then some .unreadable else (readGroup? base cs).map fun n => .integer n

/-- The character starts the exponent of a floating point number. -/
def isExponentMark (c : Char) : Bool := c = 'e' || c = 'E'

/-- The character makes a number one with a fraction or an exponent. -/
def isFloatMark (c : Char) : Bool := c = '.' || isExponentMark c

/-- Between the two characters there is no underscore without a hexadecimal digit at its side. -/
def joins (a b : Char) : Bool :=
  (a ≠ '_' || isDigitOf 16 b) && (b ≠ '_' || isDigitOf 16 a)

/-- The text is shaped like an integer in groups, whatever its later groups hold: the first group
is a decimal number, and hexadecimal digits stand at both sides of every underscore. Tabs count as
characters of a group. -/
def isGrouped (cs : List Char) : Bool :=
  let first := cs.takeWhile (isDigitOf 10)
  let rest := cs.drop first.length
  first.head?.isSome && first.head? ≠ some '0' && rest.head? = some '_' &&
    cs.getLast? ≠ some '_' && rest.all (fun c => !isFloatMark c && c ≠ ' ') &&
    (cs.zip cs.tail).all fun p => joins p.1 p.2

/-- Reads a decimal integer with an optional sign. -/
def readDecimalInteger? (cs : List Char) : Option Value :=
  let (negative, digits) := splitSign cs
  match readWhole? digits with
  | some n => some (.integer (if negative then -(n : Int) else n))
  | none => if isGrouped digits then some .unreadable else none

/-- Reads an integer: decimal, or in base 16, 8 or 2 after its mark. -/
def readInteger? : List Char → Option Value
  | '0' :: 'x' :: digits => readInBase? 16 digits
  | '0' :: 'o' :: digits => readInBase? 8 digits
  | '0' :: 'b' :: digits => readInBase? 2 digits
  | cs => readDecimalInteger? cs

/-! ### Floating point numbers -/

/-- Reads the exponent of a number. -/
def readExponent? (cs : List Char) : Option Int :=
  let (negative, digits) := splitSign cs
  (readGroup? 10 digits).map fun (n : Nat) => if negative then -(n : Int) else n

/-- Reads the exponent part of a number, which may be missing. -/
def readScale? : List Char → Option Int
  | [] => some 0
  | _ :: cs => readExponent? cs

/-- Reads a number with a fraction or an exponent, without its sign. -/
def readDecimal? (negative : Bool) (cs : List Char) : Option Float := do
  let mantissa := cs.takeWhile (!isExponentMark ·)
  let whole := mantissa.takeWhile (· ≠ '.')
  let scale ← readScale? (cs.drop mantissa.length)
  let n ← readWhole? whole
  match mantissa.drop whole.length with
  | [] => if mantissa.length < cs.length then some (.decimal negative n scale) else none
  | _ :: fraction =>
    let digits ← ungroup? 10 fraction
    let places := digits.length
    return .decimal negative (n * Nat.pow 10 places + valueOf 10 digits) (scale - places)

/-- Reads a floating point number. -/
def readFloat? (cs : List Char) : Option Float :=
  let (negative, cs) := splitSign cs
  if cs = ['i', 'n', 'f'] then some (.infinite negative)
  else if cs = ['n', 'a', 'n'] then some .notANumber
  else readDecimal? negative cs

/-! ### Dates and times -/

/-- Reads a number of exactly `width` digits. -/
def readFixed? (width : Nat) (cs : List Char) : Option (Nat × List Char) :=
  let digits := cs.take width
  if digits.length = width ∧ digits.all (isDigitOf 10) then
    some (valueOf 10 digits, cs.drop width)
  else none

/-- Reads a given character. -/
def readMark? (c : Char) : List Char → Option (List Char)
  | d :: cs => if c = d then some cs else none
  | [] => none

/-- Reads a date. -/
def readDate? (cs : List Char) : Option (List Char) := do
  let (year, cs) ← readFixed? 4 cs
  let cs ← readMark? '-' cs
  let (month, cs) ← readFixed? 2 cs
  let cs ← readMark? '-' cs
  let (day, cs) ← readFixed? 2 cs
  if (Time.Date.mk year month day).isValid then some cs else none

/-- Reads the fraction of a second, which may be missing. -/
def readSubsecond? : List Char → Option (List Char)
  | '.' :: cs =>
    let digits := cs.takeWhile (isDigitOf 10)
    if digits.isEmpty then none else some (cs.drop digits.length)
  | cs => some cs

/-- Reads hours and minutes. -/
def readClock? (cs : List Char) : Option (List Char) := do
  let (hour, cs) ← readFixed? 2 cs
  let cs ← readMark? ':' cs
  let (minute, cs) ← readFixed? 2 cs
  if hour ≤ 23 ∧ minute ≤ 59 then some cs else none

/-- Reads the seconds of a time, which may be missing. -/
def readSecond? : List Char → Option (List Char)
  | ':' :: cs => do
    let (second, cs) ← readFixed? 2 cs
    if second ≤ 60 then readSubsecond? cs else none
  | cs => some cs

/-- Reads a time of day. -/
def readTime? (cs : List Char) : Option (List Char) := (readClock? cs).bind readSecond?

/-- The text is empty or an offset from universal time. -/
def isOffset : List Char → Bool
  | [] => true
  | '+' :: cs => readClock? cs = some []
  | '-' :: cs => readClock? cs = some []
  | cs => cs = ['Z'] || cs = ['z']

/-- The text is a time of day, with an offset or without. -/
def isTimed (cs : List Char) : Bool :=
  match readTime? cs with
  | some rest => isOffset rest
  | none => false

/-- The text is a date, a time, or both. -/
def isMoment (cs : List Char) : Bool :=
  match readDate? cs with
  | some [] => true
  | some (c :: rest) => (c = 'T' || c = 't' || c = ' ') && isTimed rest
  | none => readTime? cs = some []

/-! ### Scalars -/

/-- Reads a scalar without quotes. -/
def readScalar? (cs : List Char) : Option Value :=
  if cs = ['t', 'r', 'u', 'e'] then some (.boolean true)
  else if cs = ['f', 'a', 'l', 's', 'e'] then some (.boolean false)
  else
    match readInteger? cs with
    | some v => some v
    | none =>
      match readFloat? cs with
      | some x => some (.float x)
      | none => if isMoment cs then some (.moment (String.ofList cs)) else none

end PumaBoard.Toml
