import PumaBoard.Environment.Line
import PumaBoard.Environment.Value

/-!
Environment files: settings of variables, one on a line, as a name, an equals sign and a value,
with the word `export` in front or not. A setting never changes a variable that is already set. At
the first setting that is malformed, or that no variable can take, reading stops; what has been set
stays.
-/

namespace PumaBoard.Environment

/-! ### One setting -/

/-- The character can start a name. -/
def startsName (c : Char) : Bool := c.isAlpha || c = '_'

/-- The character can stand in a name. -/
def isKeyChar (c : Char) : Bool := c.isAlphanum || c = '_' || c = '.'

/-- The text without white space in front. -/
def skipBlanks (cs : List Char) : List Char := cs.dropWhile Text.isBlank

/-- Reads a name and the white space after it. -/
def readName? : List Char → Option (String × List Char)
  | [] => none
  | c :: cs =>
    if startsName c then
      let key := (c :: cs).takeWhile isKeyChar
      some (String.ofList key, skipBlanks ((c :: cs).drop key.length))
    else none

/-- Reads an equals sign and the white space after it. -/
def readEquals? : List Char → Option (List Char)
  | '=' :: cs => some (skipBlanks cs)
  | _ => none

/-- Reads the name that a setting is for, up to the value. The word `export` is a name only if an
equals sign follows. -/
def readTarget? (cs : List Char) : Option (String × List Char) := do
  let (key, rest) ← readName? cs
  match readEquals? rest with
  | some value => return (key, value)
  | none =>
    if key = "export" then
      let (key, rest) ← readName? rest
      return (key, ← readEquals? rest)
    else none

/-- What a setting comes to. -/
inductive Setting where
  | nothing
  | assign (key value : String)
  | malformed
deriving DecidableEq, Repr

/-- The line holds nothing, or nothing but a comment. -/
def isVoid (cs : List Char) : Bool := cs.isEmpty || cs.head? = some '#'

/-- Reads a setting. -/
def Setting.read (lookup : String → Option String) (line : List Char) : Setting :=
  let cs := Text.trim line
  if isVoid cs then nothing
  else
    match readTarget? cs with
    | none => malformed
    | some (key, value) =>
      if isVoid value then assign key ""
      else
        match readValue lookup value with
        | some v => assign key v
        | none => malformed

/-! ### Files -/

/-- Variables with their values. -/
abbrev Variables := List (String × String)

/-- The value of a variable. A variable and its value are one text with an equals sign between
them, and a name that holds an equals sign itself finds the rest of the text that it begins: where
`a` is `b=c`, the name `a=b` leads to `c`. -/
def find (vars : Variables) (name : String) : Option String :=
  let key := name.toList.takeWhile (· ≠ '=')
  let value := vars.lookup (String.ofList key)
  if key.length = name.length then value
  else
    value.bind fun v =>
      ((name.toList.drop (key.length + 1) ++ ['=']).isPrefixOf? v.toList).map String.ofList

/-- Why a file is not read to its end. -/
inductive Fault where
  | malformed
  /-- The value holds the character that ends the text of a variable. -/
  | unsettable
deriving DecidableEq, Repr

/-- The variables that are set after reading a file, and what has stopped the reading. -/
structure Loaded where
  vars : Variables := []
  fault : Option Fault := none
deriving DecidableEq, Repr

/-- Sets a variable, unless it is set. -/
def assign (vars : Variables) (key value : String) : Except Fault Variables :=
  if (find vars key).isSome then .ok vars
  else if value.contains '\x00' then .error .unsettable
  else .ok (vars ++ [(key, value)])

/-- Applies settings on top of what is set. -/
def apply (vars : Variables) : List Raw → Loaded
  | [] => { vars := vars }
  | none :: _ => { vars := vars, fault := some .malformed }
  | some line :: rest =>
    match Setting.read (find vars) line with
    | .nothing => apply vars rest
    | .malformed => { vars := vars, fault := some .malformed }
    | .assign key value =>
      match assign vars key value with
      | .ok vars => apply vars rest
      | .error fault => { vars := vars, fault := some fault }

/-- Reads a file in the surroundings of the variables that are already set. -/
def load (vars : Variables) (text : String) : Loaded := apply vars (settingsOf text)

/-! ### Names that matter -/

/-- The longest runs of characters of a class. -/
def runs (p : Char → Bool) : List Char → List (List Char)
  | [] => [[]]
  | c :: cs => if p c then Text.consWord c (runs p cs) else [] :: runs p cs

/-- The names that reading a file may ask for: the names it sets, and those after dollar signs, in
braces or without. -/
def mentioned (text : String) : List String :=
  let cs := text.toList
  let braced (c : Char) : Bool := c ≠ '{' ∧ c ≠ '}' ∧ c ≠ '=' ∧ c ≠ '\x00'
  ((runs isKeyChar cs ++ runs Text.isAlphanumeric cs ++ runs braced cs).map String.ofList).eraseDups

end PumaBoard.Environment
