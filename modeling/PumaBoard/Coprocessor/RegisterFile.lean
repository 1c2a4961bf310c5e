import PumaBoard.Coprocessor.Command

/-!
The register file of the coprocessor: a write stores the masked value and then has its effect; a
read takes its value from storage or from the live state. Indices past the file have no register.
-/

namespace PumaBoard.Coprocessor

/-- The register with an index. -/
def register? (index : UInt32) : Option Register :=
  if h : index.toNat < 256 then some ⟨index.toNat, h⟩ else none

/-! ### Reading -/

/-- The status register: the flags, with the pending swaps in bits 28 to 30. -/
def statusValue (d : Coprocessor) : UInt32 :=
  d.status.bits ||| ((d.swap.pending &&& 7).toUInt32 <<< 28)

/-- The live value of a control register of the ring. -/
def ringValue (r : Ring) : RingControl → UInt32
  | .base => r.basePage
  | .top => r.topPage
  | .bottom => r.bottomPage
  | .readPtr => r.readPtr
  | .threshold => r.threshold
  | .enable => if r.enabled then 1 else 0

/-- The value of a register. -/
def readRegister (d : Coprocessor) (r : Register) : UInt32 :=
  match r.descriptor.source with
  | .stored => d.regs.get r
  | .status => d.statusValue
  | .version => Register.versionValue
  | .pixels counter => d.counters.read counter
  | .ringCount => d.ring.entryCount
  | .ringReadPtr => d.ring.readPtr
  | .ring control => ringValue d.ring control

/-- The value of the register with an index. -/
def readIndex (d : Coprocessor) (index : UInt32) : UInt32 :=
  match register? index with
  | some r => d.readRegister r
  | none => 0

/-- The stored value of the register with an index. -/
def storedIndex (d : Coprocessor) (index : UInt32) : UInt32 :=
  match register? index with
  | some r => d.regs.get r
  | none => 0

/-! ### Writing -/

/-- Writes an init register: 3 sets up the ring, 4 its entry count and 5 its read pointer. -/
def writeInit (d : Coprocessor) (n : Fin 6) (v : UInt32) : Coprocessor :=
  match n.val with
  | 3 =>
    let d := { d with ring := d.ring.applyInit3 v }
    d.note (.ringInit d.ring)
  | 4 => { d with ring := { d.ring with entryCount := v &&& 0x7FFFF } }
  | 5 => { d with ring := { d.ring with readPtr := v &&& 0x7FFFF } }
  | _ => d

/-- Writes a control register of the ring. The base page is also the bottom page. -/
def writeRingControl (d : Coprocessor) (control : RingControl) (v : UInt32) : Coprocessor :=
  let v := v &&& 0xFFFF
  match control with
  | .base => { d with ring := { d.ring with basePage := v, bottomPage := v } }.note (.ringBase v)
  | .bottom => { d with ring := { d.ring with bottomPage := v } }.note (.ringBottom v)
  | .top => { d with ring := { d.ring with topPage := v } }.note (.ringTop v)
  | .readPtr => { d with ring := { d.ring with readPtr := v } }
  | .threshold => { d with ring := { d.ring with threshold := v } }
  | .enable =>
    let d := { d with ring := { d.ring with enabled := v &&& 1 ≠ 0 } }
    d.note (.ringSwitched d.ring)

/-- The effect of a write besides storing. -/
def affect (d : Coprocessor) (e : Effect) (v : UInt32) : Coprocessor :=
  match e with
  | .none => d
  | .triangle f => { d with triangle := d.triangle.set f v }
  | .floatTriangle f => { d with floatTriangle := d.floatTriangle.set f v }
  | .fog n => { d with fog := d.fog.setPair n v }
  | .init n => d.writeInit n v
  | .ring control => d.writeRingControl control v
  | .command c => d.execute c

/-- Stores a value in a register, cut to its mask. -/
def store (d : Coprocessor) (r : Register) (v : UInt32) : Coprocessor :=
  { d with regs := d.regs.set r (v &&& r.descriptor.mask) }

/-- Writes a register. -/
def writeRegister (d : Coprocessor) (r : Register) (v : UInt32) : Coprocessor :=
  (d.store r v).affect r.descriptor.effect v

/-- Writes the register with an index. -/
def writeIndex (d : Coprocessor) (index v : UInt32) : Coprocessor :=
  match register? index with
  | some r => d.writeRegister r v
  | none => d

end PumaBoard.Coprocessor
