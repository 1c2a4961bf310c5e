/-!
White space in the sense of Unicode, and what follows from it: trimming a text and splitting it
into words. ASCII letters are also folded here, and texts are cut into lines.
-/

namespace PumaBoard.Text

/-- The character is white space. -/
def isBlank (c : Char) : Bool :=
  let n := c.toNat
  (0x09 ≤ n && n ≤ 0x0D) || n = 0x20 || n = 0x85 || n = 0xA0 || n = 0x1680 ||
    (0x2000 ≤ n && n ≤ 0x200A) || n = 0x2028 || n = 0x2029 || n = 0x202F || n = 0x205F ||
    n = 0x3000

/-- The text without white space at its ends. -/
def trim (cs : List Char) : List Char :=
  ((cs.dropWhile isBlank).reverse.dropWhile isBlank).reverse

/-- Adds a character in front of the first word. -/
def consWord (c : Char) : List (List Char) → List (List Char)
  | [] => [[c]]
  | w :: ws => (c :: w) :: ws

/-- The text split at every blank; two neighbouring blanks have an empty piece between them. -/
def pieces : List Char → List (List Char)
  | [] => [[]]
  | c :: cs => if isBlank c then [] :: pieces cs else consWord c (pieces cs)

/-- The words of a text: its longest runs without white space. -/
def words (cs : List Char) : List (List Char) := (pieces cs).filter (!·.isEmpty)

/-- The character with an ASCII capital turned into a small letter. -/
def foldChar (c : Char) : Char := if 'A' ≤ c ∧ c ≤ 'Z' then Char.ofNat (c.toNat + 32) else c

/-- The text with ASCII capitals turned into small letters. -/
def fold (cs : List Char) : List Char := cs.map foldChar

/-! ### Lines -/

/-- The text cut after every line feed, which is left out. -/
def cutLines : List Char → List (List Char)
  | [] => [[]]
  | c :: cs => if c = '\n' then [] :: cutLines cs else consWord c (cutLines cs)

/-- The line without a carriage return at its end. -/
def dropReturn (cs : List Char) : List Char :=
  match cs.getLast? with
  | some '\r' => cs.dropLast
  | _ => cs

/-- The lines of a text. A line ends with a line feed and maybe a carriage return before it; what
follows the last line feed is a line if it is not empty, and keeps its carriage return. -/
def lines (cs : List Char) : List (List Char) :=
  let cut := cutLines cs
  let last := cut.getLastD []
  cut.dropLast.map dropReturn ++ (if last.isEmpty then [] else [last])

end PumaBoard.Text
