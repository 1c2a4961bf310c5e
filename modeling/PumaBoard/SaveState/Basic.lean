import PumaBoard.SaveState.Parts

/-!
Saved states: a snapshot of the coprocessor with a version, the time at which it was taken and a
description. The bytes are the parts in order, with nothing between them; what follows them is
ignored. The version is looked at after everything has been read.
-/

namespace PumaBoard

/-- A saved state. -/
structure SaveState where
  version : UInt32
  time : Time.Instant
  mode : Aperture.Mode
  /-- The buffer swaps completed. -/
  swaps : UInt64
  description : String
  snapshot : Snapshot

/-- A saved state. -/
def Codec.saveState : Codec SaveState :=
  (word.pair (instant.pair (mode.pair (long.pair (text.pair snapshot))))).iso
    (fun (version, time, mode, swaps, description, snapshot) =>
      ⟨version, time, mode, swaps, description, snapshot⟩)
    (fun s => (s.version, s.time, s.mode, s.swaps, s.description, s.snapshot))

namespace SaveState

/-- The version of saved states. -/
def currentVersion : UInt32 := 1

/-- The state of a coprocessor at some time. -/
def ofCoprocessor (d : Coprocessor) (time : Time.Instant) (description : String) : SaveState where
  version := currentVersion
  time := time
  mode := d.mode
  swaps := d.swap.completed
  description := description
  snapshot := d.capture

/-- The bytes of a saved state. -/
def toBytes (s : SaveState) : ByteArray := Codec.saveState.write ByteArray.empty s

/-- The saved state at the start of some bytes, of the current version only. -/
def ofBytes (b : ByteArray) : Except Error SaveState :=
  match Codec.saveState.read b 0 with
  | none => .error .malformedState
  | some (s, _) =>
    if s.version = currentVersion then .ok s
    else .error (.stateVersion currentVersion s.version)

/-- Restores a saved state into a coprocessor. -/
def apply (s : SaveState) (d : Coprocessor) : Except Error Coprocessor := d.restore s.snapshot

/-- Roughly the number of bytes of a saved state. -/
def estimatedSize (s : SaveState) : Nat :=
  s.snapshot.frame.size + s.snapshot.texture.size + s.snapshot.regs.size * 4 + 1024

end SaveState

end PumaBoard
