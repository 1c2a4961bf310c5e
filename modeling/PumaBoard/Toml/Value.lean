/-!
TOML values and the growing of tables: how a header or a dotted key leads from table to table, what
it may enter, and what it may define. A table remembers how it came to be, because that decides
who may still add to it.
-/

namespace PumaBoard.Toml

/-! ### Values -/

/-- How a table came to be. -/
inductive Origin where
  /-- By a header of its own, or as an element of an array of tables. -/
  | header
  /-- By the header of a table inside it. -/
  | implied
  /-- By a dotted key. -/
  | dotted
  /-- In braces; nothing can be added to it. -/
  | inline
deriving DecidableEq, Repr

/-- A floating point number, exact: it may be far outside of any machine format. -/
inductive Float where
  /-- The number `± digits · 10 ^ exponent`. -/
  | decimal (negative : Bool) (digits : Nat) (exponent : Int)
  | infinite (negative : Bool)
  | notANumber
deriving DecidableEq, Repr

/-- A value. -/
inductive Value where
  | string (text : String)
  | integer (value : Int)
  /-- What is shaped like an integer and has no value. It is a fault only where it is read. -/
  | unreadable
  | float (value : Float)
  | boolean (value : Bool)
  /-- A date, a time, or both, as it is written. -/
  | moment (text : String)
  /-- The flag marks an array that headers in double brackets make. -/
  | array (ofTables : Bool) (items : List Value)
  | table (origin : Origin) (entries : List (String × Value))

/-- The entries of a table, in the order in which they were made. -/
abbrev Entries := List (String × Value)

namespace Entries

/-- The entries with the value of a key replaced. -/
def replace (es : Entries) (key : String) (v : Value) : Entries :=
  es.map fun e => if e.1 = key then (key, v) else e

/-- Adds an entry; a key can be given a value only once. -/
def add? (es : Entries) (key : String) (v : Value) : Option Entries :=
  match es.lookup key with
  | none => some (es ++ [(key, v)])
  | some _ => none

end Entries

/-! ### Paths -/

/-- A change of a table of some origin, which may be refused. -/
abbrev Change := Origin → Entries → Option Entries

/-- Changes the table that a key leads to: a table itself, or the last element of an array of
tables. A dotted key does not enter a table that has a header. -/
def Value.enter? (byDots : Bool) (change : Change) : Value → Option Value
  | .table origin es =>
    if origin = .inline ∨ (byDots ∧ origin = .header) then none
    else (change origin es).map (.table origin)
  | .array true items =>
    match items.getLast? with
    | some (.table origin es) =>
      (change origin es).map fun es => .array true (items.dropLast ++ [.table origin es])
    | _ => none
  | _ => none

/-- Changes the table at the end of a path. Tables that are missing on the way are made. -/
def Entries.descend? (byDots : Bool) (change : Change) :
    List String → Origin → Entries → Option Entries
  | [], origin, es => change origin es
  | key :: path, _, es =>
    match es.lookup key with
    | none =>
      let origin := if byDots then .dotted else .implied
      (descend? byDots change path origin []).map fun sub => es ++ [(key, .table origin sub)]
    | some v => (v.enter? byDots (descend? byDots change path)).map fun v => es.replace key v

/-! ### Definitions -/

/-- Gives a value to a dotted key of a table. The table that holds the last key must be the table
itself or one made by dotted keys. -/
def Entries.assign? (path : List String) (key : String) (v : Value) : Change :=
  descend? true
    (fun origin es => if path.isEmpty || origin = .dotted then es.add? key v else none) path

/-- Opens a table by its header: a new one, or one that is only implied so far. -/
def Entries.openTable? (key : String) (es : Entries) : Option Entries :=
  match es.lookup key with
  | none => some (es ++ [(key, .table .header [])])
  | some (.table .implied sub) => some (es.replace key (.table .header sub))
  | some _ => none

/-- Opens a further element of an array of tables. -/
def Entries.openElement? (key : String) (es : Entries) : Option Entries :=
  match es.lookup key with
  | none => some (es ++ [(key, .array true [.table .header []])])
  | some (.array true items) =>
    some (es.replace key (.array true (items ++ [.table .header []])))
  | some _ => none

end PumaBoard.Toml
