import Mathlib.Algebra.Group.Int.Defs
import Mathlib.Algebra.Group.Nat.Defs
import PumaBoard.Proofs.Coprocessor.Steps

/-!
The sums, differences and products of an operation. Machine words wrap, so what a word holds after
an addition says nothing about whether the sum fitted. Here every addition, subtraction and
multiplication that is neither meant to wrap nor saturated is written down with its exact result,
at the step that carries it out.
-/

namespace PumaBoard

/-! ### Exact results -/

/-- The exact result of an addition, a subtraction or a multiplication, and the width of the
unsigned type that has to hold it. -/
structure ExactResult where
  bits : Nat
  value : Int
deriving DecidableEq, Repr

/-- The result is in the range of its type. -/
def ExactResult.Fits (r : ExactResult) : Prop := 0 ≤ r.value ∧ r.value < 2 ^ r.bits

instance : DecidablePred ExactResult.Fits := fun _ => inferInstanceAs (Decidable (_ ∧ _))

/-- The result of an addition or a multiplication. -/
def ExactResult.ofNat (bits n : Nat) : ExactResult := ⟨bits, n⟩

/-- The result of a subtraction. -/
def ExactResult.ofSub (bits a b : Nat) : ExactResult := ⟨bits, (a : Int) - b⟩

/-! ### The aperture -/

namespace Aperture.Layout

variable (l : Layout)

/-- The end of a region and, for an address in it, the offset. -/
def regionResults (start size addr : UInt32) : List ExactResult :=
  .ofNat 32 (start.toNat + size.toNat) ::
    if start ≤ addr && addr < start + size then [.ofSub 32 addr.toNat start.toNat] else []

/-- A region is looked at when the address is in none of the regions before it. -/
def decodeResults (addr : UInt32) : List ExactResult :=
  regionResults l.frameStart l.frameSize addr ++
    if l.inFrame addr then []
    else
      regionResults l.registerStart l.registerSize addr ++
        if (l.register? addr).isSome then [] else regionResults l.textureStart l.textureSize addr

/-- A page whose address is a word is looked up by its address. -/
def pageResults (n : UInt32) : List ExactResult :=
  if l.registerStart.toNat + n.toNat * 0x1000 < 2 ^ 32 then
    regionResults l.registerStart l.registerSize (l.registerStart + n * 0x1000)
  else []

end Aperture.Layout

/-! ### The ring -/

namespace Ring

variable (r : Ring)

def wordsResults : List ExactResult := [.ofNat 32 (r.slots.toNat * 2)]

/-- The index of a word is a sum of 64 bits. -/
def addressResults (n : UInt32) : List ExactResult :=
  r.wordsResults ++
    if r.words = 0 then []
    else
      [.ofNat 64 (r.readPtr.toNat + n.toNat),
        .ofNat 32 ((r.readPtr.toNat + n.toNat) % r.words.toNat * 4),
        .ofNat 32 (r.start.toNat + (r.readPtr.toNat + n.toNat) % r.words.toNat * 4)]

def advanceResults (n : UInt32) : List ExactResult :=
  r.wordsResults ++ if r.words = 0 then [] else [.ofNat 32 (r.readPtr.toNat + n.toNat)]

/-- The page and the word of every write of a group, and the count of its words. -/
def groupResults (base mask : UInt32) : List ExactResult :=
  (Word.setBits mask).zipIdx.flatMap fun (position, k) =>
    .ofNat 32 (base.toNat + position.toNat) :: .ofNat 32 (2 + k + 1) ::
      r.addressResults (2 + UInt32.ofNat k)

/-- A packet is taken from the ring before the read pointer moves past it. -/
def packetResults (p : Packet) : List ExactResult :=
  match p with
  | .nop | .single _ _ => r.advanceResults p.length
  | .group base mask =>
    if Word.population mask = 0 then r.advanceResults p.length
    else
      r.groupResults base mask ++
        .ofNat 32 (1 + (Word.population mask).toNat) :: r.advanceResults p.length

end Ring

/-! ### Drawing -/

/-- The stride of the buffer of a setup register. -/
def Surface.Buffer.strideResults (w : UInt32) : List ExactResult :=
  [.ofNat 32 (((w >>> 22) &&& 0x1FF).toNat * 4)]

namespace FastFill

variable (f : FastFill)

def pixelResults (x : UInt32) : List ExactResult :=
  (if f.colour.isSome then [.ofNat 32 (x.toNat * 2)] else []) ++
    if f.aux.isSome then [.ofNat 32 (x.toNat * 2)] else []

/-- The pixels of a row, from column `x` on. -/
def rowResults (x : UInt32) : Nat → List ExactResult
  | 0 => []
  | n + 1 => f.pixelResults x ++ rowResults (x + 1) n

def bufferRowResults (y : UInt32) : List ExactResult :=
  if f.flip then [.ofSub 32 f.clip.bottom.toNat 1, .ofSub 32 f.clip.bottom.toNat (1 + y.toNat)]
  else []

/-- The rows of the rectangle, from `y` on. -/
def rowsResults (y : UInt32) : Nat → List ExactResult
  | 0 => []
  | n + 1 =>
    f.bufferRowResults y ++ f.rowResults f.clip.left (f.clip.right.toNat - f.clip.left.toNat) ++
      rowsResults (y + 1) n

def executeResults : List ExactResult :=
  if (f.colour.isSome || f.aux.isSome) && !f.clip.isEmpty then
    f.rowsResults f.clip.top (f.clip.bottom.toNat - f.clip.top.toNat)
  else []

end FastFill

namespace Coprocessor

variable (d : Coprocessor)

def strideResults (r : Register) : List ExactResult :=
  Surface.Buffer.strideResults (d.regs.get r)

/-- The bytes of the texture memory from the texture on, and the end of those taken. -/
def uploadResults : List ExactResult :=
  if d.textureOffset.toNat < d.memory.texture.size then
    [.ofSub 32 d.memory.texture.size d.textureOffset.toNat,
      .ofNat 32 (d.textureOffset.toNat +
        min maxTextureBytes (d.memory.texture.size - d.textureOffset.toNat))]
  else []

def submitResults : List ExactResult :=
  if d.enabled then
    match d.backend with
    | none => []
    | some b =>
      (if (ColourPath.ofBits (d.regs.get Register.colourPath)).textured then
        b.units.flatMap fun _ => d.uploadResults
      else []) ++
        d.strideResults Register.colourBuffer ++ d.strideResults Register.auxBuffer
  else []

def fastFillResults : List ExactResult :=
  if d.enabled then
    d.strideResults Register.colourBuffer ++ d.strideResults Register.auxBuffer ++
      (FastFill.ofRegisters d.regs).executeResults
  else []

/-! ### Registers and swaps -/

/-- A request saturates; a swap is appended by an addition. -/
def executeResults : Command → List ExactResult
  | .triangle | .floatTriangle => d.submitResults
  | .nop | .swapBuffer => []
  | .fastFill => d.fastFillResults
  | .swapPend => [.ofNat 8 (d.swap.pending.toNat + 1)]

def affectResults : Effect → List ExactResult
  | .fog n => [.ofNat 64 (2 * n.val), .ofNat 64 (2 * n.val + 1)]
  | .command c => d.executeResults c
  | _ => []

def swapBuffersResults : List ExactResult :=
  if d.swap.requested then
    .ofNat 64 (d.swap.completed.toNat + 1) :: d.strideResults Register.colourBuffer
  else []

def vsyncResults : List ExactResult :=
  if d.enabled && d.swap.pending > 0 && d.swap.requested then
    .ofSub 8 d.swap.pending.toNat 1 ::
      if d.swap.retire.pending = 0 then (d.setSwap d.swap.retire).swapBuffersResults else []
  else []

/-! ### Steps and runs -/

/-- The header and the data word are looked at if the read pointer is in the ring. -/
def fetchResults : List ExactResult :=
  d.ring.wordsResults ++
    if d.ring.readPtr ≥ d.ring.words then []
    else d.ring.addressResults 0 ++ d.ring.addressResults 1

def stepResults : Step → List ExactResult
  | .advance p => d.ring.packetResults p
  | .submit _ => d.submitResults
  | .fastFill => d.fastFillResults
  | .upload _ => d.uploadResults
  | .write r v => (d.store r v).affectResults r.descriptor.effect
  | .decode addr => d.layout.decodeResults addr
  | .narrow addr => [.ofNat 32 ((addr &&& 2).toNat * 8), .ofNat 32 ((addr &&& 3).toNat * 8)]
  | .page n => d.layout.pageResults n
  | .place offset => [.ofSub 32 offset.toNat d.ring.start.toNat]
  | .fetch => d.fetchResults
  | .pixel _ _ =>
    .ofSub 32 d.layout.frameSize.toNat 1 :: d.strideResults Register.colourBuffer
  | .retire done => [.ofNat 32 (done + 1)]
  | .note _ | .call _ | .setMemory _ | .setSwitch _ | .setWindow _ | .setBackend _
  | .setRequest _ | .setGrant _ | .countEntry | .updateThreshold => []

def stepsResults (d : Coprocessor) : List Step → List ExactResult
  | [] => []
  | s :: ss => d.stepResults s ++ (d.step s).stepsResults ss

/-- The exact results of an operation. -/
def results (op : Operation) : List ExactResult :=
  match op with
  | .swapBuffers => d.swapBuffersResults
  | .vsync => d.vsyncResults
  | op => d.stepsResults (d.steps op)

/-- The exact results of a run. -/
def runResults (d : Coprocessor) : List Operation → List ExactResult
  | [] => []
  | op :: ops => d.results op ++ (d.perform op).2.runResults ops

end Coprocessor

end PumaBoard
