import PumaBoard.Coprocessor.RegisterFile
import PumaBoard.Error

/-!
Snapshots of the coprocessor. A snapshot read from elsewhere may have tables and memories of any
size; restoring checks all of them first, so a refused snapshot changes nothing.
-/

namespace PumaBoard

/-- The state of a coprocessor as it is kept elsewhere. -/
structure Snapshot where
  mode : Aperture.Mode
  regs : Array UInt32
  triangle : Triangle.Setup
  floatTriangle : Triangle.FloatSetup
  fog : Array Fog.Entry
  /-- The status flags, without the pending swaps. -/
  status : UInt32
  ring : Ring
  swap : Swap
  counters : Counters
  window : Window
  enabled : Bool
  pumaRequest : Bool
  pumaGrant : Bool
  frame : ByteArray
  texture : ByteArray

namespace Snapshot

/-- Two snapshots hold the same state, floating point fields compared as numbers. -/
def same (s t : Snapshot) : Bool :=
  s.mode = t.mode && s.regs = t.regs && s.triangle = t.triangle &&
    s.floatTriangle.equal t.floatTriangle && s.fog = t.fog && s.status = t.status &&
    s.ring = t.ring && s.swap = t.swap && s.counters = t.counters && s.window = t.window &&
    s.enabled = t.enabled && s.pumaRequest = t.pumaRequest && s.pumaGrant = t.pumaGrant &&
    Bytes.same s.frame t.frame && Bytes.same s.texture t.texture

end Snapshot

namespace Coprocessor

/-- The state of the coprocessor, but for the rendering engine. -/
def capture (d : Coprocessor) : Snapshot where
  mode := d.mode
  regs := d.regs.words.toArray
  triangle := d.triangle
  floatTriangle := d.floatTriangle
  fog := d.fog.toArray
  status := d.status.bits
  ring := d.ring
  swap := d.swap
  counters := d.counters
  window := d.window
  enabled := d.enabled
  pumaRequest := d.pumaRequest
  pumaGrant := d.pumaGrant
  frame := d.memory.frame
  texture := d.memory.texture

/-- The table of a snapshot, if it has `n` entries. -/
def tableOf {α : Type} (part : SnapshotPart) (n : Nat) (xs : Array α) : Except Error (Vector α n) :=
  if h : xs.size = n then .ok ⟨xs, h⟩ else .error (.sizeMismatch part n xs.size)

/-- The memory of a snapshot, if it has the sizes of the mode. -/
def memoryOf (mode : Aperture.Mode) (s : Snapshot) : Except Error Aperture.Memory :=
  if hf : s.frame.size = mode.layout.frameSize.toNat then
    if ht : s.texture.size = mode.layout.textureSize.toNat then
      .ok ⟨mode, s.frame, s.texture, hf, ht⟩
    else .error (.sizeMismatch .texture mode.layout.textureSize.toNat s.texture.size)
  else .error (.sizeMismatch .frame mode.layout.frameSize.toNat s.frame.size)

/-- Takes over the state of a snapshot with the given tables and memory. -/
def install (d : Coprocessor) (s : Snapshot) (regs : RegisterFile) (fog : Fog.Table)
    (memory : Aperture.Memory) : Coprocessor :=
  { d with
    memory := memory
    regs := regs
    triangle := s.triangle
    floatTriangle := s.floatTriangle
    fog := fog
    status := .ofBits s.status
    ring := s.ring
    swap := s.swap
    counters := s.counters
    busy := false
    window := s.window
    enabled := s.enabled
    pumaRequest := s.pumaRequest
    pumaGrant := s.pumaGrant }

/-- Restores a snapshot of the same mode; the rendering engine stays attached. -/
def restore (d : Coprocessor) (s : Snapshot) : Except Error Coprocessor := do
  unless s.mode = d.mode do throw (.modeMismatch d.mode s.mode)
  let regs ← tableOf .registers 256 s.regs
  let fog ← tableOf .fog 64 s.fog
  let memory ← memoryOf d.mode s
  return (d.install s ⟨regs⟩ fog memory).note (.stateRestored d.mode)

end Coprocessor

end PumaBoard
