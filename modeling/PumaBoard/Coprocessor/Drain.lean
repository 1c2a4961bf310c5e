import PumaBoard.Coprocessor.RegisterFile
import PumaBoard.Ring.Packet

/-!
The command ring at work: words are written into it in pairs, every second word counts an entry
and drains the ring, and a drain turns packets into register writes.
-/

namespace PumaBoard.Coprocessor

/-! ### Words of the ring -/

/-- The word `n` places past the read pointer. -/
def ringWord? (d : Coprocessor) (n : UInt32) : Option UInt32 :=
  (d.ring.wordAddress? n).bind d.memory.readFrame32?

/-- Writes the register that owns a page of the register window. -/
def writePage (d : Coprocessor) (page v : UInt32) : Coprocessor :=
  match d.layout.page? page with
  | some r => d.writeRegister r v
  | none => d.note (.pageInvalid page)

/-! ### Packets -/

/-- The writes of a group: one page and one word for every set bit of the mask, taken from the
words after the header and the mask. Words outside the frame buffer count as zero. -/
def groupWrites (d : Coprocessor) (base mask : UInt32) : List (UInt32 × UInt32) :=
  (Word.setBits mask).zipIdx.map fun (position, k) =>
    (base + position, (d.ringWord? (2 + UInt32.ofNat k)).getD 0)

/-- Moves the read pointer past a packet. -/
def advance (d : Coprocessor) (p : Ring.Packet) : Coprocessor :=
  { d with ring := d.ring.advance p.length }

/-- Executes a packet. The words of a group are taken before the first of its writes. -/
def executePacket (d : Coprocessor) (header : UInt32) (p : Ring.Packet) : Coprocessor :=
  match p with
  | .nop => d.advance p
  | .single page v => (d.advance p).writePage page v
  | .group base mask =>
    if Word.population mask = 0 then (d.note (.groupEmpty header)).advance p
    else
      let writes := d.groupWrites base mask
      writes.foldl (fun d w => d.writePage w.1 w.2) (d.advance p)

/-- The header of the next packet and the packet, or why there is none. -/
def fetch (d : Coprocessor) : Except Notice (UInt32 × Ring.Packet) :=
  if d.ring.readPtr ≥ d.ring.words then .error (.ringPointerOutside d.ring)
  else
    match d.ringWord? 0, d.ringWord? 1 with
    | some header, some data => .ok (header, .decode header data)
    | _, _ => .error .ringOutsideFrame

/-! ### Draining -/

/-- Retires the entry of an executed packet. -/
def retire (d : Coprocessor) : Coprocessor := { d with ring := d.ring.retireEntry }

/-- Executes at most `n` packets, while the ring is enabled and has entries. -/
def drainUpTo (d : Coprocessor) : Nat → Coprocessor
  | 0 => d
  | n + 1 =>
    if d.ring.enabled && d.ring.entryCount > 0 then
      match d.fetch with
      | .error notice => d.note notice
      | .ok (header, p) => drainUpTo (d.executePacket header p).retire n
    else d

/-- Takes the threshold flag back when the ring holds fewer entries than the threshold. -/
def updateThreshold (d : Coprocessor) : Coprocessor :=
  if d.ring.entryCount < d.ring.threshold then
    { d with status := { d.status with ringFull := false } }
  else d

/-- Executes a batch of the pending packets. -/
def drain (d : Coprocessor) : Coprocessor :=
  if d.ring.enabled && d.ring.entryCount > 0 then
    (d.drainUpTo d.ring.batch.toNat).updateThreshold
  else d

/-! ### Filling -/

/-- Counts an entry and raises the threshold flag when there are enough of them. -/
def countEntry (d : Coprocessor) : Coprocessor :=
  let d := { d with ring := d.ring.countEntry }
  if d.ring.threshold ≠ 0 && d.ring.entryCount ≥ d.ring.threshold then
    { d with status := { d.status with ringFull := true } }
  else d

/-- Stores a word in the frame buffer. -/
def storeFrame (d : Coprocessor) (offset v : UInt32) : Coprocessor :=
  { d with memory := d.memory.writeFrame32 offset v }

/-- Writes a word of a pair at an offset of the frame buffer. The second word of a pair counts an
entry and drains the ring. -/
def writeRing (d : Coprocessor) (offset v : UInt32) : Coprocessor :=
  if d.ring.enabled then
    if d.ring.contains offset then
      let place := (offset - d.ring.start) &&& 7
      if place = 0 then d.storeFrame offset v
      else if place = 4 then (d.storeFrame offset v).countEntry.drain
      else d.note (.ringWriteUnaligned offset)
    else d.note (.ringWriteOutside offset d.ring)
  else d

end PumaBoard.Coprocessor
