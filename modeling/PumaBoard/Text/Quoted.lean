import PumaBoard.Text.Hex
import PumaBoard.Text.Printable

/-!
Texts in double quotes. A quote and a backslash are written with a backslash, five controls by
their letter, and every other character that cannot be shown by its number in braces.
-/

namespace PumaBoard.Text

/-- How a character is written within quotes. -/
def quoteChar (c : Char) : String :=
  if c = '"' then "\\\""
  else if c = '\\' then "\\\\"
  else if c = '\n' then "\\n"
  else if c = '\r' then "\\r"
  else if c = '\t' then "\\t"
  else if c = '\x00' then "\\0"
  else if isPrintable c then c.toString
  else "\\u\x7b" ++ hex c.toNat ++ "\x7d"

/-- The text in quotes. -/
def quote (s : String) : String := "\"" ++ String.join (s.toList.map quoteChar) ++ "\""

end PumaBoard.Text
