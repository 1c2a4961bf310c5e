import PumaBoard.Coprocessor.Bus
import PumaBoard.Coprocessor.Snapshot

/-!
Runs of the coprocessor: everything that can be asked of it as one type of operations, what each
of them answers, and the states that runs lead to.
-/

namespace PumaBoard.Coprocessor

/-! ### Operations -/

/-- Something asked of the coprocessor from outside. -/
inductive Operation where
  -- switches and settings
  | reset
  | setEnabled (on : Bool)
  | setWindow (window : Window)
  | attach (backend : Render.Backend)
  | detach
  -- registers by index
  | writeIndex (index v : UInt32)
  | readIndex (index : UInt32)
  | storedIndex (index : UInt32)
  -- the aperture
  | write32 (addr v : UInt32)
  | write16 (addr : UInt32) (v : UInt16)
  | write8 (addr : UInt32) (v : UInt8)
  | read32 (addr : UInt32)
  | read16 (addr : UInt32)
  | read8 (addr : UInt32)
  -- the bridge
  | bridgeWrite (addr v : UInt32)
  | bridgeRead (addr : UInt32)
  -- the command ring
  | writeRing (offset v : UInt32)
  | drain
  -- drawing
  | renderTriangle
  | fastFill
  | loadTexture (tmu : Nat)
  | swapBuffers
  | vsync
  | pixelAddress (x y : UInt32)
  /-- Any change of the memory made by its holder. -/
  | editMemory (edit : Aperture.Memory → Aperture.Memory)
  /-- Everything that can be looked at. -/
  | look
  | restore (s : Snapshot)

/-- What an operation answers. -/
inductive Reply where
  | done
  | word (v : UInt32)
  | half (v : UInt16)
  | byte (v : UInt8)
  /-- The rendering engine that was attached. -/
  | engine (backend : Option Render.Backend)
  /-- The state, and whether a triangle is being drawn. -/
  | state (s : Snapshot) (busy : Bool)
  | refused (e : Error)

/-- Carries out an operation. -/
def perform (d : Coprocessor) : Operation → Reply × Coprocessor
  | .reset => (.done, d.reset)
  | .setEnabled on => (.done, d.setEnabled on)
  | .setWindow w => (.done, d.setWindow w)
  | .attach b => (.done, d.attach b)
  | .detach => (.engine d.backend, d.detach)
  | .writeIndex index v => (.done, d.writeIndex index v)
  | .readIndex index => (.word (d.readIndex index), d)
  | .storedIndex index => (.word (d.storedIndex index), d)
  | .write32 addr v => (.done, d.write32 addr v)
  | .write16 addr v => (.done, d.write16 addr v)
  | .write8 addr v => (.done, d.write8 addr v)
  | .read32 addr => (.word (d.read32 addr).1, (d.read32 addr).2)
  | .read16 addr => (.half (d.read16 addr).1, (d.read16 addr).2)
  | .read8 addr => (.byte (d.read8 addr).1, (d.read8 addr).2)
  | .bridgeWrite addr v => (.done, d.bridgeWrite addr v)
  | .bridgeRead addr => (.word (d.bridgeRead addr).1, (d.bridgeRead addr).2)
  | .writeRing offset v => (.done, d.writeRing offset v)
  | .drain => (.done, d.drain)
  | .renderTriangle => (.done, d.renderTriangle)
  | .fastFill => (.done, d.fastFill)
  | .loadTexture tmu => (.done, d.loadTexture tmu)
  | .swapBuffers => (.done, d.swapBuffers)
  | .vsync => (.done, d.vsync)
  | .pixelAddress x y => (.word (d.pixelAddress x y), d)
  | .editMemory edit => (.done, { d with memory := edit d.memory })
  | .look => (.state d.capture d.busy, d)
  | .restore s =>
    match d.restore s with
    | .ok r => (.done, r)
    | .error e => (.refused e, d)

section Restores

variable {d : Coprocessor} {s : Snapshot}

theorem perform_restore {r : Coprocessor} (h : d.restore s = .ok r) :
    (d.perform (.restore s)).2 = r := by simp only [perform, h]

theorem perform_refused {e : Error} (h : d.restore s = .error e) :
    (d.perform (.restore s)).2 = d := by simp only [perform, h]

end Restores

/-! ### Runs -/

/-- Carries out operations one after the other: what they answer and the state they lead to. -/
def run (d : Coprocessor) : List Operation → List Reply × Coprocessor
  | [] => ([], d)
  | op :: ops => ((d.perform op).1 :: ((d.perform op).2.run ops).1, ((d.perform op).2.run ops).2)

theorem run_append (d : Coprocessor) (ops ops' : List Operation) :
    (d.run (ops ++ ops')).2 = ((d.run ops).2.run ops').2 := by
  induction ops generalizing d with
  | nil => rfl
  | cons op ops ih => exact ih _

/-- A state that a coprocessor gets into after power-on, whatever snapshots it is given. -/
def Occurs (d : Coprocessor) : Prop := ∃ mode ops, d = ((create mode).run ops).2

/-- The operation installs a snapshot. -/
def Operation.restores : Operation → Bool
  | .restore _ => true
  | _ => false

/-- A state that a coprocessor gets into after power-on when the only snapshots it is given are
those taken in such states. -/
inductive Reachable : Coprocessor → Prop
  | create (mode : Aperture.Mode) : Reachable (create mode)
  | perform {d : Coprocessor} (op : Operation) (h : op.restores = false) :
      Reachable d → Reachable (d.perform op).2
  | restore {d e r : Coprocessor} :
      Reachable d → Reachable e → d.restore e.capture = .ok r → Reachable r

end PumaBoard.Coprocessor
