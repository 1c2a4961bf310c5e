import PumaBoard.Error
import PumaBoard.Text.Blank
import PumaBoard.Trace.Access

/-!
Trace scripts: one access on a line, as a command word with its operands. A number sign starts a
comment. Numbers are decimal, or hexadecimal after `0x`. The first malformed line is the error.
-/

namespace PumaBoard.Trace

/-! ### Operands -/

/-- Reads a number operand. -/
def readOperand (cs : List Char) : Except LineFault Nat :=
  let reading :=
    match cs with
    | '0' :: 'x' :: digits => Text.readNumber 16 digits
    | '0' :: 'X' :: digits => Text.readNumber 16 digits
    | digits => Text.readNumber 10 digits
  match reading with
  | .ok n => .ok n
  | .error fault => .error (.number (String.ofList cs) fault)

/-- Reads the address and the value, if there is one. -/
def readOperands (command : String) : List (List Char) → Except LineFault (Nat × Option Nat)
  | [addr] => do
    let addr ← readOperand addr
    return (addr, none)
  | [addr, value] => do
    let addr ← readOperand addr
    let value ← readOperand value
    return (addr, some value)
  | _ => .error (.count command)

/-! ### Lines -/

/-- The access of a route command with its operands; a value must suit the route. -/
def Access.ofOperands (command : String) (addr : Nat) (value : Option Nat) :
    Except LineFault Access :=
  match Route.ofCommand? command with
  | none => .error (.unknown command)
  | some route =>
    match value with
    | none => .ok (.transfer route (UInt32.ofNat addr) none)
    | some v =>
      if v < route.valueBound then
        .ok (.transfer route (UInt32.ofNat addr) (some (UInt32.ofNat v)))
      else .error (.width v command)

/-- The access of a line that has been split into words, if there is one. -/
def Access.ofWords : List (List Char) → Except LineFault (Option Access)
  | [] => .ok none
  | command :: operands => do
    let command := String.ofList command
    if command = syncCommand then
      if operands.isEmpty then return some .vsync else throw .operands
    else
      let (addr, value) ← readOperands command operands
      return some (← Access.ofOperands command addr value)

/-- The text of a line without its comment. -/
def dropComment (cs : List Char) : List Char := cs.takeWhile (· ≠ '#')

/-- The access on a line, or nothing on an empty line. -/
def Access.ofLine (number : Nat) (line : List Char) : Except Error (Option Access) :=
  match Access.ofWords (Text.words (dropComment line)) with
  | .ok access => .ok access
  | .error fault => .error (.line number fault)

/-! ### Scripts -/

/-- A script: the accesses with the numbers of their lines. -/
abbrev Script := List (Nat × Access)

/-- The accesses on the given lines, which are numbered from `number` on. -/
def Script.ofLines (number : Nat) : List (List Char) → Except Error Script
  | [] => .ok []
  | line :: lines => do
    let access ← Access.ofLine number line
    let rest ← Script.ofLines (number + 1) lines
    return match access with
      | some a => (number, a) :: rest
      | none => rest

/-- The script in a text. -/
def Script.ofText (text : String) : Except Error Script :=
  Script.ofLines 1 (Text.lines text.toList)

end PumaBoard.Trace
