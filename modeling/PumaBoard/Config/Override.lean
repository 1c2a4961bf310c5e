import PumaBoard.Config.Basic
import PumaBoard.Text.Blank

/-!
Overrides of a configuration by environment variables. Settings before a bad one stay changed.
-/

namespace PumaBoard.Config

/-! ### Readings of a value -/

/-- The truth value that a text stands for, in any case and with white space around it. -/
def readBool? (value : String) : Option Bool :=
  let word := String.ofList (Text.fold (Text.trim value.toList))
  if word ∈ ["1", "true", "yes", "on"] then some true
  else if word ∈ ["0", "false", "no", "off"] then some false
  else none

/-- The mode that a text stands for, in any case and with white space around it. -/
def readMode? (value : String) : Option Aperture.Mode :=
  let word := String.ofList (Text.fold (Text.trim value.toList))
  if word ∈ ["8mb", "8"] then some .mb8
  else if word ∈ ["4mb", "4"] then some .mb4
  else none

/-- The number of megabytes that a text stands for, with white space around it. -/
def readMegabytes? (value : String) : Option UInt32 :=
  match Text.readNumber 10 (Text.trim value.toList) with
  | .ok n => some (UInt32.ofNat n)
  | .error _ => none

/-! ### Overriding -/

/-- The variables that override a configuration; a variable that is not set changes nothing. -/
structure Overrides where
  /-- The variable `AT3D_VRAM_MB`. -/
  videoMegabytes : Option String := none
  /-- The variable `AT3D_VOODOO_RUSH`. -/
  coprocessor : Option String := none
  /-- The variable `AT3D_PUMA_MODE`. -/
  mode : Option String := none
deriving DecidableEq, Repr

/-- The overrides among the variables of an environment. -/
def Overrides.ofLookup (lookup : String → Option String) : Overrides where
  videoMegabytes := lookup "AT3D_VRAM_MB"
  coprocessor := lookup "AT3D_VOODOO_RUSH"
  mode := lookup "AT3D_PUMA_MODE"

/-- Puts a reading into a configuration, if the variable is set. A reading that fails is the
error. -/
def overrideWith {α : Type} (c : Config) (value : Option String) (read : String → Option α)
    (fault : String → OverrideFault) (put : Config → α → Config) : Config × Option Error :=
  match value with
  | none => (c, none)
  | some text =>
    match read text with
    | some x => (put c x, none)
    | none => (c, some (.override (fault text)))

/-- The configuration with the overrides up to the first bad one, and what is wrong with that one
or with the result. -/
def override (c : Config) (o : Overrides) : Config × Option Error :=
  match c.overrideWith o.videoMegabytes readMegabytes? .videoSize
      (fun c n => { c with videoMegabytes := n }) with
  | (c, some e) => (c, some e)
  | (c, none) =>
    match c.overrideWith o.coprocessor readBool? .coprocessor
        (fun c b => { c with coprocessor := b }) with
    | (c, some e) => (c, some e)
    | (c, none) =>
      match c.overrideWith o.mode readMode? .mode (fun c m => { c with mode := m }) with
      | (c, some e) => (c, some e)
      | (c, none) =>
        match c.validate with
        | .error e => (c, some e)
        | .ok () => (c, none)

end PumaBoard.Config
