import PumaBoard.Text.Blank
import PumaBoard.Text.Hex
import PumaBoard.Time.Calendar

/-!
Time stamps after RFC 3339. They are written in universal time with the shortest of no, three,
six or nine fraction digits. They are read with any offset and any number of fraction digits, with
one or two digits for the smaller parts, and with white space between the parts.
-/

namespace PumaBoard.Time

/-! ### Writing -/

/-- The number with zeros in front, up to a width. -/
def padNumber (width n : Nat) : String := Text.padLeft width '0' (toString n)

/-- The year: four digits, or a sign and at least four digits outside of four-digit years. -/
def writeYear (year : Int) : String :=
  if 0 ≤ year ∧ year ≤ 9999 then padNumber 4 year.toNat
  else if year < 0 then "-" ++ padNumber 4 (-year).toNat
  else "+" ++ padNumber 4 year.toNat

/-- The fraction of a second. -/
def writeFraction (nanos : Nat) : String :=
  if nanos = 0 then ""
  else if nanos % 1000000 = 0 then "." ++ padNumber 3 (nanos / 1000000)
  else if nanos % 1000 = 0 then "." ++ padNumber 6 (nanos / 1000)
  else "." ++ padNumber 9 nanos

/-- The time stamp of an instant. -/
def Instant.stamp (t : Instant) : String :=
  let days := Int.fdiv t.seconds 86400
  let second := (t.seconds - days * 86400).toNat
  let date := Date.ofDays days
  let leap := t.nanos / 1000000000
  writeYear date.year ++ "-" ++ padNumber 2 date.month ++ "-" ++ padNumber 2 date.day ++ "T" ++
    padNumber 2 (second / 3600) ++ ":" ++ padNumber 2 (second / 60 % 60) ++ ":" ++
    padNumber 2 (second % 60 + leap) ++ writeFraction (t.nanos % 1000000000) ++ "Z"

/-! ### Parts -/

/-- The text without white space in front. -/
def skipBlanks (cs : List Char) : List Char := cs.dropWhile Text.isBlank

/-- The character is a decimal digit. -/
def isDigit (c : Char) : Bool := '0' ≤ c && c ≤ '9'

/-- The number that some digits stand for. -/
def digitsValue (cs : List Char) : Nat := cs.foldl (fun n c => n * 10 + (c.toNat - '0'.toNat)) 0

/-- Reads as many digits as there are, at most `width` and at least one. -/
def readDigits (width : Nat) (cs : List Char) : Option (Nat × List Char) :=
  let digits := (cs.take width).takeWhile isDigit
  if digits.isEmpty then none else some (digitsValue digits, cs.drop digits.length)

/-- Reads a number of at most two digits after white space. -/
def readPart (lo hi : Nat) (cs : List Char) : Option (Nat × List Char) := do
  let (n, cs) ← readDigits 2 (skipBlanks cs)
  if lo ≤ n ∧ n ≤ hi then some (n, cs) else none

/-- Reads a year: up to four digits, or a sign and any number of digits. -/
def readYear (cs : List Char) : Option (Int × List Char) :=
  match skipBlanks cs with
  | '-' :: cs => (readDigits cs.length cs).map fun (n, cs) => (-n, cs)
  | '+' :: cs => (readDigits cs.length cs).map fun (n, cs) => (n, cs)
  | cs => (readDigits 4 cs).map fun (n, cs) => (n, cs)

/-- Reads a given character after white space. -/
def readMark (c : Char) (cs : List Char) : Option (List Char) :=
  match skipBlanks cs with
  | d :: cs => if c = d then some cs else none
  | [] => none

/-- Reads a fraction of a second if there is one; digits past the ninth are skipped. -/
def readFraction : List Char → Option (Nat × List Char)
  | '.' :: cs => do
    let digits := (cs.take 9).takeWhile isDigit
    if digits.isEmpty then none
    else
      some (digitsValue digits * Nat.pow 10 (9 - digits.length),
        (cs.drop digits.length).dropWhile isDigit)
  | cs => some (0, cs)

/-- Reads the hours and minutes of an offset as seconds. -/
def readOffsetParts (cs : List Char) : Option (Int × List Char) :=
  match cs with
  | h₁ :: h₂ :: cs =>
    if isDigit h₁ && isDigit h₂ then
      match cs.dropWhile (fun c => c = ':' || Text.isBlank c) with
      | m₁ :: m₂ :: cs =>
        if isDigit m₁ && m₁ ≤ '5' && isDigit m₂ then
          some (digitsValue [h₁, h₂] * 3600 + digitsValue [m₁, m₂] * 60, cs)
        else none
      | _ => none
    else none
  | _ => none

/-- Reads an offset from universal time in seconds: `UTC`, `Z`, or a sign with hours and
minutes. -/
def readOffset (cs : List Char) : Option (Int × List Char) :=
  if Text.fold (cs.take 3) = ['u', 't', 'c'] then some (0, cs.drop 3)
  else
    match cs with
    | 'Z' :: cs => some (0, cs)
    | 'z' :: cs => some (0, cs)
    | '+' :: cs => readOffsetParts cs
    | '-' :: cs => (readOffsetParts cs).map fun (n, cs) => (-n, cs)
    | '−' :: cs => (readOffsetParts cs).map fun (n, cs) => (-n, cs)
    | _ => none

/-! ### Reading -/

/-- The first day that can be represented. -/
def firstDay : Int := Date.toDays ⟨-262143, 1, 1⟩

/-- The last day that can be represented. -/
def lastDay : Int := Date.toDays ⟨262142, 12, 31⟩

/-- The instant of a date and a time of day, which are ahead of universal time by `offset`. -/
def Instant.ofLocal? (date : Date) (second nanos : Nat) (offset : Int) : Option Instant :=
  let days := date.toDays
  let seconds := days * 86400 + second - offset
  if date.isValid ∧ firstDay ≤ days ∧ days ≤ lastDay ∧ -86400 < offset ∧ offset < 86400 ∧
      firstDay * 86400 ≤ seconds ∧ seconds < (lastDay + 1) * 86400 then
    some ⟨seconds, nanos⟩
  else none

/-- Reads a time stamp. Second 60 is a leap second after second 59. -/
def Instant.ofStamp? (s : String) : Option Instant := do
  let (year, cs) ← readYear s.toList
  let cs ← readMark '-' cs
  let (month, cs) ← readPart 1 12 cs
  let cs ← readMark '-' cs
  let (day, cs) ← readPart 1 31 cs
  let cs ← match cs with
    | c :: cs => if c = 'T' ∨ c = 't' ∨ c = ' ' then some cs else none
    | [] => none
  let (hour, cs) ← readPart 0 23 cs
  let cs ← readMark ':' cs
  let (minute, cs) ← readPart 0 59 cs
  let cs ← readMark ':' cs
  let (second, cs) ← readPart 0 60 cs
  let (nanos, cs) ← readFraction cs
  let (offset, cs) ← readOffset (skipBlanks cs)
  unless (skipBlanks cs).isEmpty do none
  let leap := second / 60
  Instant.ofLocal? ⟨year, month, day⟩ (hour * 3600 + minute * 60 + (second - leap))
    (nanos + leap * 1000000000) offset

end PumaBoard.Time
