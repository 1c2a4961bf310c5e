import PumaBoard.Proofs.Coprocessor.Operation
import PumaBoard.Proofs.Coprocessor.Parts

/-!
Operations as sequences of elementary steps. Whatever a bus access sets off, down to the packets of
a drain, is a list of steps, and the operation leads to where its steps lead one after the other;
so what holds of every step holds of every operation, and a history is a list of steps.
-/

namespace PumaBoard

namespace Coprocessor

/-! ### Elementary steps -/

/-- An elementary step. The last ones look at something and change nothing. -/
inductive Step where
  | note (n : Notice)
  | call (c : Render.Call)
  | setMemory (m : Aperture.Memory)
  | setSwitch (on : Bool)
  | setWindow (w : Window)
  | setBackend (b : Option Render.Backend)
  | setRequest (on : Bool)
  | setGrant (on : Bool)
  -- the ring
  | advance (p : Ring.Packet)
  /-- The entry of a packet retires; `done` packets of the drain came before it. -/
  | retire (done : Nat)
  | countEntry
  | updateThreshold
  -- drawing
  | submit (t : Triangle.Setup)
  | fastFill
  | upload (tmu : Nat)
  /-- A register takes a value. -/
  | write (r : Register) (v : UInt32)
  /-- The region of an aperture address. -/
  | decode (addr : UInt32)
  /-- The part of a word that a narrow access covers. -/
  | narrow (addr : UInt32)
  /-- The register that owns a page. -/
  | page (n : UInt32)
  /-- The place of a word in its pair. -/
  | place (offset : UInt32)
  /-- The next packet. -/
  | fetch
  | pixel (x y : UInt32)

/-- Takes a step. -/
def step (d : Coprocessor) : Step → Coprocessor
  | .note n => d.note n
  | .call c => d.call c
  | .setMemory m => d.setMemory m
  | .setSwitch on => d.setSwitch on
  | .setWindow w => d.setWindow w
  | .setBackend b => { d with backend := b }
  | .setRequest on => { d with pumaRequest := on }
  | .setGrant on => { d with pumaGrant := on }
  | .advance p => d.advance p
  | .retire _ => d.retire
  | .countEntry => d.countEntry
  | .updateThreshold => d.updateThreshold
  | .submit t => d.submit t
  | .fastFill => d.fastFill
  | .upload tmu => d.upload tmu
  | .write r v => d.writeRegister r v
  | .decode _ | .narrow _ | .page _ | .place _ | .fetch | .pixel _ _ => d

/-- Takes steps one after the other. -/
def after (d : Coprocessor) (ss : List Step) : Coprocessor := ss.foldl step d

section Steps

variable (d : Coprocessor)

/-! ### The steps of an operation -/

def writeIndexSteps (index v : UInt32) : List Step :=
  match register? index with
  | some r => [.write r v]
  | none => []

def writePageSteps (page v : UInt32) : List Step :=
  .page page ::
    match d.layout.page? page with
    | some r => [.write r v]
    | none => [.note (.pageInvalid page)]

def writePagesSteps (d : Coprocessor) : List (UInt32 × UInt32) → List Step
  | [] => []
  | w :: ws => d.writePageSteps w.1 w.2 ++ (d.writePage w.1 w.2).writePagesSteps ws

def executePacketSteps (header : UInt32) (p : Ring.Packet) : List Step :=
  match p with
  | .nop => [.advance p]
  | .single page v => .advance p :: (d.advance p).writePageSteps page v
  | .group base mask =>
    if Word.population mask = 0 then [.note (.groupEmpty header), .advance p]
    else .advance p :: (d.advance p).writePagesSteps (d.groupWrites base mask)

def drainUpToSteps (d : Coprocessor) (done : Nat) : Nat → List Step
  | 0 => []
  | n + 1 =>
    if d.ring.enabled && d.ring.entryCount > 0 then
      .fetch ::
        match d.fetch with
        | .error notice => [.note notice]
        | .ok (header, p) =>
          d.executePacketSteps header p ++
            .retire done :: drainUpToSteps (d.executePacket header p).retire (done + 1) n
    else []

def drainSteps : List Step :=
  if d.ring.enabled && d.ring.entryCount > 0 then
    d.drainUpToSteps 0 d.ring.batch.toNat ++ [.updateThreshold]
  else []

/-- The step of storing a word in the frame buffer. -/
def storeFrameStep (offset v : UInt32) : Step := .setMemory (d.memory.writeFrame32 offset v)

def writeRingSteps (offset v : UInt32) : List Step :=
  if d.ring.enabled then
    if d.ring.contains offset then
      .place offset ::
        if (offset - d.ring.start) &&& 7 = 0 then [d.storeFrameStep offset v]
        else if (offset - d.ring.start) &&& 7 = 4 then
          d.storeFrameStep offset v :: .countEntry :: (d.storeFrame offset v).countEntry.drainSteps
        else [.note (.ringWriteUnaligned offset)]
    else [.note (.ringWriteOutside offset d.ring)]
  else []

def flushPageSteps (page : UInt32) : List Step :=
  match d.backend with
  | none => []
  | some b => b.units.map fun tmu => .call (.flush page tmu)

def writeRegionSteps (addr v : UInt32) : Aperture.Region → List Step
  | .frame offset =>
    if d.ring.enabled && d.ring.contains offset then d.writeRingSteps offset v
    else [d.storeFrameStep (offset &&& ~~~3) v]
  | .register r => [.write r v]
  | .texture offset =>
    .setMemory (d.memory.writeTexture32 (offset &&& ~~~3) v) ::
      d.flushPageSteps ((offset >>> 12) <<< 12)
  | .invalid => [.note (.invalidWrite addr v)]

def write32Steps (addr v : UInt32) : List Step :=
  if d.enabled then .decode addr :: d.writeRegionSteps addr v (d.layout.decode addr) else []

def read32Steps (addr : UInt32) : List Step :=
  if d.enabled then
    .decode addr :: if d.layout.decode addr = .invalid then [.note (.invalidRead addr)] else []
  else []

/-- A narrow write reads the word around its address and writes it back. -/
def rewriteSteps (addr : UInt32) (edit : UInt32 → UInt32) : List Step :=
  .narrow addr ::
    (d.read32Steps (aligned addr) ++
      (d.read32 (aligned addr)).2.write32Steps (aligned addr)
        (edit (d.read32 (aligned addr)).1))

def bridgeWriteSteps (addr v : UInt32) : List Step :=
  if d.enabled then
    d.write32Steps addr v ++
      if (d.write32 addr v).layout.inFrame addr then [.setRequest true] else []
  else []

def bridgeReadSteps (addr : UInt32) : List Step :=
  if d.enabled then
    d.read32Steps addr ++ if (d.read32 addr).2.layout.inFrame addr then [.setGrant true] else []
  else []

/-- The steps of an operation, if it is more than one change of the whole state or of the swaps. -/
def steps : Operation → List Step
  | .setEnabled on =>
    if d.enabled = on then [] else [.setSwitch on, .note (.coprocessorSwitched on)]
  | .setWindow w => [.setWindow w]
  | .attach b => [.setBackend (some b)]
  | .detach => [.setBackend none]
  | .writeIndex index v => writeIndexSteps index v
  | .write32 addr v => d.write32Steps addr v
  | .write16 addr v =>
    d.rewriteSteps addr fun word => insertBits word 0xFFFF (halfShift addr) v.toUInt32
  | .write8 addr v =>
    d.rewriteSteps addr fun word => insertBits word 0xFF (byteShift addr) v.toUInt32
  | .read32 addr => d.read32Steps addr
  | .read16 addr | .read8 addr => .narrow addr :: d.read32Steps (aligned addr)
  | .bridgeWrite addr v => d.bridgeWriteSteps addr v
  | .bridgeRead addr => d.bridgeReadSteps addr
  | .writeRing offset v => d.writeRingSteps offset v
  | .drain => d.drainSteps
  | .renderTriangle => [.submit d.triangle]
  | .fastFill => [.fastFill]
  | .loadTexture tmu => if d.backend.isSome then [.upload tmu] else []
  | .pixelAddress x y => [.pixel x y]
  | .editMemory edit => [.setMemory (edit d.memory)]
  | .readIndex _ | .storedIndex _ | .look => []
  | .reset | .restore _ | .swapBuffers | .vsync => []

/-- The operation is a sequence of steps. -/
def Operation.stepwise : Operation → Bool
  | .reset | .restore _ | .swapBuffers | .vsync => false
  | _ => true

/-! ### Where the steps lead -/

@[simp] theorem after_nil : d.after [] = d := rfl

@[simp] theorem after_cons (s : Step) (ss : List Step) :
    d.after (s :: ss) = (d.step s).after ss := rfl

theorem after_append (ss ts : List Step) : d.after (ss ++ ts) = (d.after ss).after ts :=
  List.foldl_append

theorem after_writeIndexSteps (index v : UInt32) :
    d.after (writeIndexSteps index v) = d.writeIndex index v := by
  unfold writeIndexSteps writeIndex
  cases register? index <;> rfl

theorem after_writePageSteps (page v : UInt32) :
    d.after (d.writePageSteps page v) = d.writePage page v := by
  unfold writePageSteps writePage
  cases d.layout.page? page <;> rfl

theorem after_writePagesSteps (ws : List (UInt32 × UInt32)) :
    d.after (d.writePagesSteps ws) = d.writePages ws := by
  induction ws generalizing d with
  | nil => rfl
  | cons w ws ih =>
    rw [writePagesSteps, after_append, after_writePageSteps, ih]; rfl

theorem after_executePacketSteps (header : UInt32) (p : Ring.Packet) :
    d.after (d.executePacketSteps header p) = d.executePacket header p := by
  cases p with
  | nop => rfl
  | single page v => exact after_writePageSteps ..
  | group base mask =>
    rw [executePacket_group, executePacketSteps]
    split
    · rfl
    · exact after_writePagesSteps ..

theorem after_drainUpToSteps (done n : Nat) :
    d.after (d.drainUpToSteps done n) = d.drainUpTo n := by
  induction n generalizing d done with
  | zero => rfl
  | succ n ih =>
    rw [drainUpToSteps, drainUpTo]
    split
    · rw [after_cons]
      show d.after _ = _
      cases d.fetch with
      | error notice => rfl
      | ok found =>
        dsimp only
        rw [after_append, after_executePacketSteps, after_cons]
        exact ih ..
    · rfl

theorem after_drainSteps : d.after d.drainSteps = d.drain := by
  unfold drainSteps drain
  split
  · rw [after_append, after_drainUpToSteps]; rfl
  · rfl

theorem after_writeRingSteps (offset v : UInt32) :
    d.after (d.writeRingSteps offset v) = d.writeRing offset v := by
  unfold writeRingSteps writeRing
  split
  · split
    · dsimp only
      rw [after_cons]
      split
      · rfl
      · split
        · exact after_drainSteps ..
        · rfl
    · rfl
  · rfl

theorem after_flushPageSteps (page : UInt32) :
    d.after (d.flushPageSteps page) = d.flushPage page := by
  unfold flushPageSteps flushPage
  cases d.backend with
  | none => rfl
  | some b => exact List.foldl_map

theorem after_writeRegionSteps (addr v : UInt32) (region : Aperture.Region) :
    d.after (d.writeRegionSteps addr v region) = d.writeRegion addr v region := by
  cases region with
  | frame offset =>
    unfold writeRegionSteps writeRegion
    dsimp only
    split
    · exact after_writeRingSteps ..
    · rfl
  | register r => rfl
  | texture offset =>
    exact after_flushPageSteps (d.setMemory (d.memory.writeTexture32 (offset &&& ~~~3) v)) _
  | invalid => rfl

theorem after_write32Steps (addr v : UInt32) :
    d.after (d.write32Steps addr v) = d.write32 addr v := by
  unfold write32Steps write32
  split
  · exact after_writeRegionSteps ..
  · rfl

theorem after_read32Steps (addr : UInt32) :
    d.after (d.read32Steps addr) = (d.read32 addr).2 := by
  unfold read32Steps read32
  cases d.enabled with
  | false => rfl
  | true =>
    by_cases h : d.layout.decode addr = .invalid
    · simp [h, step]
    · simp [h, step]

theorem after_rewriteSteps (addr : UInt32) (edit : UInt32 → UInt32) :
    d.after (d.rewriteSteps addr edit) =
      (d.read32 (aligned addr)).2.write32 (aligned addr) (edit (d.read32 (aligned addr)).1) := by
  rw [rewriteSteps, after_cons, after_append]
  show ((d.after _).after _) = _
  rw [after_read32Steps, after_write32Steps]

theorem after_bridgeWriteSteps (addr v : UInt32) :
    d.after (d.bridgeWriteSteps addr v) = d.bridgeWrite addr v := by
  unfold bridgeWriteSteps bridgeWrite
  split
  · dsimp only
    rw [after_append, after_write32Steps]
    split <;> rfl
  · rfl

theorem after_bridgeReadSteps (addr : UInt32) :
    d.after (d.bridgeReadSteps addr) = (d.bridgeRead addr).2 := by
  unfold bridgeReadSteps bridgeRead
  split
  · dsimp only
    rw [after_append, after_read32Steps]
    split <;> rfl
  · rfl

/-- **An operation leads to where its steps lead.** -/
theorem after_steps {op : Operation} (hop : op.stepwise = true) :
    d.after (d.steps op) = (d.perform op).2 := by
  cases op with
  | setEnabled on =>
    simp only [steps, perform, setEnabled_eq]
    split <;> rfl
  | setWindow | attach | detach | renderTriangle | fastFill | editMemory => rfl
  | readIndex | storedIndex | look | pixelAddress => rfl
  | writeIndex => exact after_writeIndexSteps ..
  | write32 => exact after_write32Steps ..
  | write16 addr v =>
    exact d.after_rewriteSteps addr fun word =>
      insertBits word 0xFFFF (halfShift addr) v.toUInt32
  | write8 addr v =>
    exact d.after_rewriteSteps addr fun word => insertBits word 0xFF (byteShift addr) v.toUInt32
  | read32 | read16 | read8 => exact after_read32Steps ..
  | bridgeWrite => exact after_bridgeWriteSteps ..
  | bridgeRead => exact after_bridgeReadSteps ..
  | writeRing => exact after_writeRingSteps ..
  | drain => exact after_drainSteps ..
  | loadTexture tmu =>
    simp only [steps, perform, loadTexture]
    cases d.backend <;> rfl
  | reset | restore | swapBuffers | vsync => simp [Operation.stepwise] at hop

end Steps

end Coprocessor

end PumaBoard
