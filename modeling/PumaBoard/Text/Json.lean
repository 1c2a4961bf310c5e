import PumaBoard.Text.Hex

/-!
JSON documents and their indented text: two spaces for every level, one item or member on a line,
members in the order in which they were given.
-/

namespace PumaBoard.Text

/-- A JSON document. Numbers are natural numbers. -/
inductive Json where
  | null
  | bool (value : Bool)
  | number (value : Nat)
  | string (value : String)
  | array (items : List Json)
  | object (members : List (String × Json))

namespace Json

/-! ### Strings -/

/-- How a character is written within a string. -/
def escapeChar (c : Char) : String :=
  if c = '"' then "\\\""
  else if c = '\\' then "\\\\"
  else if c = '\n' then "\\n"
  else if c = '\r' then "\\r"
  else if c = '\t' then "\\t"
  else if c = '\x08' then "\\b"
  else if c = '\x0c' then "\\f"
  else if c.toNat < 0x20 then "\\u" ++ hexPad 4 c.toNat
  else c.toString

/-- A string in quotes. -/
def quoteString (s : String) : String := "\"" ++ String.join (s.toList.map escapeChar) ++ "\""

/-! ### Layout -/

/-- A new line at a level of nesting. -/
def newline (level : Nat) : String := "\n" ++ String.ofList (List.replicate (2 * level) ' ')

/-- Parts between brackets, each on a line of its own; without parts the brackets touch. -/
def enclose (opening closing : String) (level : Nat) (parts : List String) : String :=
  if parts.isEmpty then opening ++ closing
  else
    opening ++ newline (level + 1) ++ String.intercalate ("," ++ newline (level + 1)) parts ++
      newline level ++ closing

mutual

/-- The text of a document at a level of nesting. -/
def renderAt (level : Nat) : Json → String
  | null => "null"
  | bool value => if value then "true" else "false"
  | number value => toString value
  | string value => quoteString value
  | array items => enclose "[" "]" level (renderItems (level + 1) items)
  | object members => enclose "\x7b" "\x7d" level (renderMembers (level + 1) members)

/-- The texts of the items of an array. -/
def renderItems (level : Nat) : List Json → List String
  | [] => []
  | x :: xs => renderAt level x :: renderItems level xs

/-- The texts of the members of an object. -/
def renderMembers (level : Nat) : List (String × Json) → List String
  | [] => []
  | (key, x) :: xs => (quoteString key ++ ": " ++ renderAt level x) :: renderMembers level xs

end

/-- The text of a document. -/
def render (j : Json) : String := renderAt 0 j

end Json

end PumaBoard.Text
