import PumaBoard.Config.Basic
import PumaBoard.Toml.Document

/-!
Configuration files in TOML. Every setting is optional and no other keys are known; in the window
unknown keys are passed over. The settings must be those of a supported board.
-/

namespace PumaBoard.Config

open Toml (Value Entries)

/-! ### Readings of a value -/

/-- The least number that is too large for double precision: halfway from the largest one to the
next power of two. -/
def floatBound : Nat := (1 <<< 1024) - (1 <<< 970)

/-- The number is small enough for double precision. -/
def isFinite : Toml.Float → Bool
  | .decimal _ digits exponent =>
    let size := (toString digits).length + exponent
    if digits = 0 ∨ size < 300 then true
    else if size > 310 then false
    else digits * Nat.pow 10 exponent.toNat < floatBound * Nat.pow 10 (-exponent).toNat
  | .infinite _ => true
  | .notANumber => true

mutual

/-- A value that is passed over must still be one that can be held. -/
def isHeld : Value → Bool
  | .integer n => -(1 <<< 127 : Nat) ≤ n && n < (1 <<< 128 : Nat)
  | .unreadable => false
  | .float x => isFinite x
  | .array _ items => areHeld items
  | .table _ es => entriesHeld es
  | .string _ => true
  | .boolean _ => true
  | .moment _ => true

/-- All items can be held. -/
def areHeld : List Value → Bool
  | [] => true
  | v :: vs => isHeld v && areHeld vs

/-- The values of all entries can be held. -/
def entriesHeld : List (String × Value) → Bool
  | [] => true
  | (_, v) :: es => isHeld v && entriesHeld es

end

/-- An unsigned number of 32 bits. -/
def word? : Value → Option UInt32
  | .integer n => if 0 ≤ n ∧ n < 0x100000000 then some (UInt32.ofNat n.toNat) else none
  | _ => none

/-- A signed number of 32 bits. -/
def signed? : Value → Option Int32
  | .integer n => if -0x80000000 ≤ n ∧ n < 0x80000000 then some (Int32.ofInt n) else none
  | _ => none

/-- A truth value. -/
def flag? : Value → Option Bool
  | .boolean b => some b
  | _ => none

/-- The value holds nothing. -/
def isHollow : Value → Bool
  | .array _ items => items.isEmpty
  | .table _ es => es.isEmpty
  | _ => false

/-- A mode by its name, given as a string or as the only key of a table that is hollow below. -/
def mode? : Value → Option Aperture.Mode
  | .string name => Aperture.Mode.ofName? name
  | .table _ [(name, v)] => if isHollow v then Aperture.Mode.ofName? name else none
  | _ => none

/-! ### The window -/

/-- Applies an entry of the window's table. -/
def windowEntry? (w : Window) (key : String) (v : Value) : Option Window :=
  if key = "x" then (signed? v).map fun n => { w with x := n }
  else if key = "y" then (signed? v).map fun n => { w with y := n }
  else if key = "width" then (word? v).map fun n => { w with width := n }
  else if key = "height" then (word? v).map fun n => { w with height := n }
  else if isHeld v then some w
  else none

/-- The window of a table, or of an array that gives its numbers in order; what is missing keeps
its default. A date or a time counts as a table without any of the numbers. -/
def window? : Value → Option Window
  | .table _ es => es.foldlM (fun w e => windowEntry? w e.1 e.2) {}
  | .array _ items =>
    (["x", "y", "width", "height"].zip items).foldlM (fun w e => windowEntry? w e.1 e.2) {}
  | .moment _ => some {}
  | _ => none

/-! ### Reading -/

/-- Applies an entry of the root table. -/
def entry? (c : Config) (key : String) (v : Value) : Option Config :=
  if key = "vram_mb" then (word? v).map fun n => { c with videoMegabytes := n }
  else if key = "voodoo_rush" then (flag? v).map fun b => { c with coprocessor := b }
  else if key = "puma_mode" then (mode? v).map fun m => { c with mode := m }
  else if key = "window" then (window? v).map fun w => { c with window := w }
  else none

/-- The configuration of a root table. -/
def ofEntries? (es : Entries) : Option Config := es.foldlM (fun c e => entry? c e.1 e.2) {}

/-- The configuration in a text. -/
def ofText (text : String) : Except Error Config :=
  match (Toml.readDocument? text).bind ofEntries? with
  | none => .error .malformedConfig
  | some c => c.validate.map fun _ => c

/-! ### Writing -/

/-- The line of a setting. -/
def settingLine (key value : String) : String := key ++ " = " ++ value ++ "\n"

/-- The text of a configuration, with all settings. -/
def toText (c : Config) : String :=
  settingLine "vram_mb" (toString c.videoMegabytes.toNat) ++
    settingLine "voodoo_rush" (if c.coprocessor then "true" else "false") ++
    settingLine "puma_mode" ("\"" ++ c.mode.name ++ "\"") ++ "\n[window]\n" ++
    settingLine "x" (toString c.window.x.toInt) ++ settingLine "y" (toString c.window.y.toInt) ++
    settingLine "width" (toString c.window.width.toNat) ++
    settingLine "height" (toString c.window.height.toNat)

end PumaBoard.Config
