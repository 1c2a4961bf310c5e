import PumaBoard.Text.Alphanumeric
import PumaBoard.Text.Blank

/-!
The value of a setting: quotes and backslashes are taken away, and variables after a dollar sign,
in braces or without, are replaced. After a blank outside of quotes only a comment may follow.
-/

namespace PumaBoard.Environment

/-- What a further character of a value is taken for. -/
inductive Reading where
  | plain
  /-- Between single quotes, where everything stands for itself. -/
  | strong
  /-- After a blank: only blanks and a comment may follow. -/
  | ended
  /-- After a backslash. -/
  | escaped
  /-- In the name of a variable. -/
  | name
  /-- In the name of a variable in braces. -/
  | bracedName
deriving DecidableEq, Repr

/-- A value that is being read. -/
structure Progress where
  reading : Reading := .plain
  /-- Double quotes are open. -/
  quoted : Bool := false
  output : List Char := []
  /-- The name of the variable so far. -/
  name : List Char := []

namespace Progress

/-- Appends a character. -/
def push (p : Progress) (c : Char) : Progress := { p with output := p.output ++ [c] }

/-- Appends the value of the variable whose name has been read; a variable that is not set has an
empty value. -/
def substitute (p : Progress) (lookup : String → Option String) : Progress :=
  { p with
    output := p.output ++ ((lookup (String.ofList p.name)).getD "").toList
    name := [] }

/-- Reads a character outside of names, escapes and single quotes. -/
def plain (p : Progress) (c : Char) : Progress :=
  if c = '$' then { p with reading := .name }
  else if c = '\\' then { p with reading := .escaped }
  else if c = '"' then { p with quoted := !p.quoted }
  else if p.quoted then p.push c
  else if c = '\'' then { p with reading := .strong }
  else if c = ' ' || c = '\t' then { p with reading := .ended }
  else p.push c

/-- Reads the character after a backslash. -/
def escaped (p : Progress) (c : Char) : Option Progress :=
  let p := { p with reading := .plain }
  if c = '\\' || c = '\'' || c = '"' || c = '$' || c = ' ' then some (p.push c)
  else if c = 'n' then some (p.push '\n')
  else none

/-- Reads a character that may belong to the name of a variable, which consists of letters and
digits. -/
def named (p : Progress) (lookup : String → Option String) (c : Char) : Progress :=
  if Text.isAlphanumeric c then { p with name := p.name ++ [c] }
  else if c = '{' && p.name.isEmpty then { p with reading := .bracedName }
  else
    let p := p.substitute lookup
    if c = '$' then p else { p with reading := .plain }.push c

/-- Reads a character of a name in braces. -/
def braced (p : Progress) (lookup : String → Option String) (c : Char) : Progress :=
  if c = '}' then { p.substitute lookup with reading := .plain }
  else { p with name := p.name ++ [c] }

/-- The value, if nothing is open. -/
def finish (p : Progress) (lookup : String → Option String) : Option String :=
  if p.quoted ∨ p.reading = .strong ∨ p.reading = .bracedName then none
  else some (String.ofList (p.substitute lookup).output)

end Progress

/-- Reads the rest of a value. -/
def readFrom (lookup : String → Option String) (p : Progress) : List Char → Option String
  | [] => p.finish lookup
  | c :: cs =>
    match p.reading with
    | .plain => readFrom lookup (p.plain c) cs
    | .strong =>
      readFrom lookup (if c = '\'' then { p with reading := .plain } else p.push c) cs
    | .ended =>
      if c = ' ' || c = '\t' then readFrom lookup p cs
      else if c = '#' then p.finish lookup
      else none
    | .escaped =>
      match p.escaped c with
      | some p => readFrom lookup p cs
      | none => none
    | .name => readFrom lookup (p.named lookup c) cs
    | .bracedName => readFrom lookup (p.braced lookup c) cs

/-- Reads a value. -/
def readValue (lookup : String → Option String) (cs : List Char) : Option String :=
  readFrom lookup {} cs

end PumaBoard.Environment
