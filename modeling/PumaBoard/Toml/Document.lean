import PumaBoard.Toml.Statement

/-!
TOML documents: what the statements of a text mean together. A key is given a value in the table
of the last header before it.
-/

namespace PumaBoard.Toml

/-- The root table, and the path of the last header. -/
structure Draft where
  root : Entries := []
  current : List String := []

/-- What a further statement means. -/
def Draft.extend? (d : Draft) : Statement → Option Draft
  | .table path key => do
    let root ← Entries.descend? false (fun _ es => es.openTable? key) path .header d.root
    return ⟨root, path ++ [key]⟩
  | .element path key => do
    let root ← Entries.descend? false (fun _ es => es.openElement? key) path .header d.root
    return ⟨root, path ++ [key]⟩
  | .assign path key value => do
    let root ← Entries.descend? false (Entries.assign? path key value) d.current .header d.root
    return { d with root := root }

/-- The root table of a text; a byte order mark may stand in front. -/
def readDocument? (text : String) : Option Entries := do
  let cs := match text.toList with
    | '\uFEFF' :: cs => cs
    | cs => cs
  let tokens ← Token.scan cs
  let statements ← Statement.readAll? tokens
  let draft ← statements.foldlM Draft.extend? {}
  return draft.root

end PumaBoard.Toml
