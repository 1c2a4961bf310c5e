/-!
The command ring: a window of frame buffer pages that holds register-write packets. Page fields
are in units of 4 KB; the read pointer counts words from the bottom of the ring. Turning a page
into an offset drops the bits that do not fit a word.
-/

namespace PumaBoard

/-- The control state of the command ring. -/
structure Ring where
  enabled : Bool := false
  basePage : UInt32 := 0
  bottomPage : UInt32 := 0
  topPage : UInt32 := 0
  /-- The entries written and not yet executed. -/
  entryCount : UInt32 := 0
  /-- The word at which the next packet starts. -/
  readPtr : UInt32 := 0
  /-- The most packets executed in one drain; with `0` all entries are. -/
  threshold : UInt32 := 0
deriving DecidableEq, Repr, Inhabited

namespace Ring

/-! ### Geometry -/

/-- The first byte of the ring. -/
def start (r : Ring) : UInt32 := r.bottomPage <<< 12

/-- The byte after the last byte of the ring. -/
def stop (r : Ring) : UInt32 := r.topPage <<< 12

/-- Whether a frame buffer offset lies in the window of the ring. -/
def contains (r : Ring) (offset : UInt32) : Bool := r.start ≤ offset && offset < r.stop

/-- The number of 64-bit slots; a window that ends before it starts has none. -/
def slots (r : Ring) : UInt32 := (if r.start ≤ r.stop then r.stop - r.start else 0) >>> 3

/-- The number of words. -/
def words (r : Ring) : UInt32 := r.slots * 2

/-- The frame buffer offset of the word `n` places past the read pointer, around the ring. An
empty ring has no words. -/
def wordAddress? (r : Ring) (n : UInt32) : Option UInt32 :=
  if r.words = 0 then none
  else some (r.start + UInt32.ofNat ((r.readPtr.toNat + n.toNat) % r.words.toNat) * 4)

/-- Moves the read pointer `n` words forward, around the ring. -/
def advance (r : Ring) (n : UInt32) : Ring :=
  if r.words = 0 then r else { r with readPtr := (r.readPtr + n) % r.words }

/-! ### Entries -/

/-- Counts one more entry, up to the largest count. -/
def countEntry (r : Ring) : Ring :=
  { r with entryCount := if r.entryCount = 0xFFFFFFFF then r.entryCount else r.entryCount + 1 }

/-- Retires one entry, if there is one. -/
def retireEntry (r : Ring) : Ring :=
  { r with entryCount := if r.entryCount = 0 then 0 else r.entryCount - 1 }

/-- The most packets that one drain executes. -/
def batch (r : Ring) : UInt32 := if r.threshold ≠ 0 then r.threshold else r.entryCount

/-! ### Control -/

/-- Applies the third init register: the enable bit, then three fields of 10 bits. -/
def applyInit3 (r : Ring) (w : UInt32) : Ring :=
  { r with
    enabled := w &&& 1 ≠ 0
    bottomPage := (w >>> 1) &&& 0x3FF
    topPage := (w >>> 11) &&& 0x3FF
    threshold := (w >>> 21) &&& 0x3FF }

end Ring

end PumaBoard
