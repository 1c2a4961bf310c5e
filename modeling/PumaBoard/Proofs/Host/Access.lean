import PumaBoard.Host.Window

/-!
Runs of the host chip: the accesses of its bus as one type, what each of them answers, and the
cycles they are made of. In the register window a cycle accesses one byte; a wider access is a
sequence of cycles in ascending order, and every other access is one cycle.
-/

namespace PumaBoard.HostChip

/-! ### Accesses -/

/-- An access over the bus. -/
inductive Access where
  -- the register window
  | read8 (offset : UInt32)
  | read16 (offset : UInt32)
  | read32 (offset : UInt32)
  | write8 (offset : UInt32) (v : UInt8)
  | write16 (offset : UInt32) (v : UInt16)
  | write32 (offset v : UInt32)
  -- the linear aperture
  | linearRead8 (addr : UInt32)
  | linearRead16 (addr : UInt32)
  | linearRead32 (addr : UInt32)
  | linearWrite8 (addr : UInt32) (v : UInt8)
  | linearWrite16 (addr : UInt32) (v : UInt16)
  | linearWrite32 (addr v : UInt32)
  -- the coprocessor
  | apertureRead (addr : UInt32)
  | apertureWrite (addr v : UInt32)
  | vsync

/-- Carries out an access; a read answers with a value. -/
def access (h : HostChip) : Access → Option UInt32 × HostChip
  | .read8 offset => (some (h.windowRead8 offset).1.toUInt32, (h.windowRead8 offset).2)
  | .read16 offset => (some (h.windowRead16 offset).1.toUInt32, (h.windowRead16 offset).2)
  | .read32 offset => (some (h.windowRead32 offset).1, (h.windowRead32 offset).2)
  | .write8 offset v => (none, h.windowWrite8 offset v)
  | .write16 offset v => (none, h.windowWrite16 offset v)
  | .write32 offset v => (none, h.windowWrite32 offset v)
  | .linearRead8 addr => (some (h.video.read8 addr).toUInt32, h)
  | .linearRead16 addr => (some (h.video.read16 addr).toUInt32, h)
  | .linearRead32 addr => (some (h.video.read32 addr), h)
  | .linearWrite8 addr v => (none, h.withVideo (·.write8 addr v))
  | .linearWrite16 addr v => (none, h.withVideo (·.write16 addr v))
  | .linearWrite32 addr v => (none, h.withVideo (·.write32 addr v))
  | .apertureRead addr => (some (h.apertureRead addr).1, (h.apertureRead addr).2)
  | .apertureWrite addr v => (none, h.apertureWrite addr v)
  | .vsync => (none, h.vsync)

/-- Carries out accesses one after the other: what they answer and the state they lead to. -/
def run (h : HostChip) : List Access → List (Option UInt32) × HostChip
  | [] => ([], h)
  | a :: as => ((h.access a).1 :: ((h.access a).2.run as).1, ((h.access a).2.run as).2)

/-! ### Cycles -/

/-- A cycle of the bus. -/
inductive Cycle where
  /-- Reads a byte of the register window. -/
  | read (offset : UInt32)
  /-- Writes a byte of the register window. -/
  | write (offset : UInt32) (v : UInt8)
  /-- Changes the video memory, or leaves it as it is. -/
  | video (edit : VideoMemory → VideoMemory)
  | apertureRead (addr : UInt32)
  | apertureWrite (addr v : UInt32)
  | vsync

/-- Carries out a cycle. -/
def cycle (h : HostChip) : Cycle → HostChip
  | .read offset => (h.windowRead8 offset).2
  | .write offset v => h.windowWrite8 offset v
  | .video edit => h.withVideo edit
  | .apertureRead addr => (h.apertureRead addr).2
  | .apertureWrite addr v => h.apertureWrite addr v
  | .vsync => h.vsync

/-- The cycles that write bytes of the register window from an offset on. -/
def writeCycles (offset : UInt32) : List UInt8 → List Cycle
  | [] => []
  | b :: bs => .write offset b :: writeCycles (offset + 1) bs

/-- The cycles of an access. -/
def Access.cycles : Access → List Cycle
  | .read8 offset => [.read offset]
  | .read16 offset => [.read offset, .read (offset + 1)]
  | .read32 offset =>
    [.read offset, .read (offset + 1), .read (offset + 2), .read (offset + 3)]
  | .write8 offset v => [.write offset v]
  | .write16 offset v => writeCycles offset (Word.halfLanes v)
  | .write32 offset v => writeCycles offset (Word.lanes v)
  | .linearRead8 _ | .linearRead16 _ | .linearRead32 _ => [.video id]
  | .linearWrite8 addr v => [.video (·.write8 addr v)]
  | .linearWrite16 addr v => [.video (·.write16 addr v)]
  | .linearWrite32 addr v => [.video (·.write32 addr v)]
  | .apertureRead addr => [.apertureRead addr]
  | .apertureWrite addr v => [.apertureWrite addr v]
  | .vsync => [.vsync]

theorem windowWrite_cycles (h : HostChip) (offset : UInt32) (bs : List UInt8) :
    h.windowWrite offset bs = (writeCycles offset bs).foldl cycle h := by
  induction bs generalizing h offset with
  | nil => rfl
  | cons b bs ih => exact ih (h.windowWrite8 offset b) (offset + 1)

/-- **An access leads to where its cycles lead.** -/
theorem access_cycles (h : HostChip) (a : Access) : (h.access a).2 = a.cycles.foldl cycle h := by
  cases a with
  | write16 offset v => exact h.windowWrite_cycles offset _
  | write32 offset v => exact h.windowWrite_cycles offset _
  | _ => rfl

theorem run_cycles (h : HostChip) (as : List Access) :
    (h.run as).2 = (as.flatMap Access.cycles).foldl cycle h := by
  induction as generalizing h with
  | nil => rfl
  | cons a as ih => rw [run, ih, access_cycles, List.flatMap_cons, List.foldl_append]

end PumaBoard.HostChip
