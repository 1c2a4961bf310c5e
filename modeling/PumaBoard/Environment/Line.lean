import PumaBoard.Text.Blank

/-!
The settings of an environment file as texts. A setting runs over several lines while quotes or a
backslash are open; a number sign at the start of a line or after a single blank begins a comment.
-/

namespace PumaBoard.Environment

/-- What is open at some place of a setting. -/
inductive Open where
  | nothing
  /-- A blank that may stand before a comment. -/
  | blank
  | escape
  /-- A single quote. -/
  | strong
  | strongEscape
  /-- A double quote. -/
  | weak
  | weakEscape
deriving DecidableEq, Repr

namespace Open

/-- What is open after a character that neither quotes nor escapes look at. -/
def ofPlain (c : Char) : Open :=
  if c = '\\' then escape else if c = '"' then weak else if c = '\'' then strong else nothing

/-- What is open after a further character. -/
def next (o : Open) (c : Char) : Open :=
  match o with
  | nothing =>
    if Text.isBlank c && c ≠ '\n' && c ≠ '\r' then blank else ofPlain c
  | blank => ofPlain c
  | escape => nothing
  | strong => if c = '\\' then strongEscape else if c = '\'' then nothing else strong
  | strongEscape => strong
  | weak => if c = '\\' then weakEscape else if c = '"' then nothing else weak
  | weakEscape => weak

end Open

/-- What is open at the end of a line, and the line up to a comment if there is one. -/
def scanLine (o : Open) : List Char → Open × Option (List Char)
  | [] => (o, none)
  | c :: cs =>
    if o = .blank ∧ c = '#' then (.nothing, some [])
    else
      let (o, kept) := scanLine (o.next c) cs
      (o, kept.map (c :: ·))

/-- The line without the line end that it ends with. -/
def dropLineEnd (cs : List Char) : List Char :=
  if cs.getLast? = some '\n' then Text.dropReturn cs.dropLast else cs

/-- A setting as it is written; one that is still open at the end of the file has no text. -/
abbrev Raw := Option (List Char)

/-- The settings of the given lines, after a part of a setting that leaves `o` open. -/
def settings (part : List Char) (o : Open) : List (List Char) → List Raw
  | [] => if o = .nothing then [] else [none]
  | line :: lines =>
    if ((part ++ line).dropWhile Text.isBlank).head? = some '#' then settings [] .nothing lines
    else
      match scanLine o line with
      | (_, some kept) => some (part ++ kept) :: settings [] .nothing lines
      | (.nothing, none) => some (dropLineEnd (part ++ line)) :: settings [] .nothing lines
      | (o, none) => settings (part ++ line) o lines

/-- The lines of a text with their line ends. -/
def linesWithEnds (cs : List Char) : List (List Char) :=
  let cut := Text.cutLines cs
  cut.dropLast.map (· ++ ['\n']) ++ (cut.getLast?.toList.filter (!·.isEmpty))

/-- The settings of a text; a byte order mark may stand in front. -/
def settingsOf (text : String) : List Raw :=
  settings [] .nothing <| linesWithEnds <|
    match text.toList with
    | '\uFEFF' :: cs => cs
    | cs => cs

end PumaBoard.Environment
