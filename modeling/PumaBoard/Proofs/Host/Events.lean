import PumaBoard.Proofs.Host.Effects

/-!
Runs of a host chip as sequences of events, and what they write to its window: a log of bytes since
the last reset. What each kind of cycle keeps, every run keeps.
-/

namespace PumaBoard

namespace HostChip

open Host.Registers (place)

/-! ### What a run writes to the window -/

/-- A byte written to the window: its place there and its value. -/
abbrev Store := Nat × UInt8

/-- The bytes written from an offset on, around the window. -/
def storesFrom (offset : UInt32) (bs : List UInt8) : List Store :=
  bs.zipIdx.map fun (b, k) => ((offset.toNat + k) % 65536, b)

/-- The bytes that an access writes, the lowest one first. -/
def Access.stores : Access → List Store
  | .write8 offset v => storesFrom offset [v]
  | .write16 offset v => storesFrom offset [.ofNat v.toNat, .ofNat (v.toNat / 2 ^ 8)]
  | .write32 offset v =>
    storesFrom offset
      [.ofNat v.toNat, .ofNat (v.toNat / 2 ^ 8), .ofNat (v.toNat / 2 ^ 16),
        .ofNat (v.toNat / 2 ^ 24)]
  | _ => []

/-- What can happen to a host chip: an access, a reset, or an operation of its holder on the
coprocessor. -/
inductive Event where
  | access (a : Access)
  | reset
  | coprocessor (op : Coprocessor.Operation)

/-- Lets an event happen. -/
def event (h : HostChip) : Event → HostChip
  | .access a => (h.access a).2
  | .reset => h.reset
  | .coprocessor op => h.withCoprocessor fun d => (d.perform op).2

/-- Lets events happen one after the other. -/
def events (h : HostChip) (es : List Event) : HostChip := es.foldl event h

/-- The bytes written since the last reset, after an event. -/
def Event.record (log : List Store) : Event → List Store
  | .access a => log ++ a.stores
  | .reset => []
  | .coprocessor _ => log

/-- The bytes that events have written since the last reset among them. -/
def written (es : List Event) : List Store := es.foldl Event.record []

/-- The access writes through the linear aperture. -/
def Access.writesVideo : Access → Bool
  | .linearWrite8 .. | .linearWrite16 .. | .linearWrite32 .. => true
  | _ => false

/-! ### Cycles -/

/-- The byte that a cycle writes to the window. -/
def Cycle.stores : Cycle → List Store
  | .write offset v => [(place offset, v)]
  | _ => []

theorem stores_writeCycles (offset : UInt32) (bs : List UInt8) :
    (writeCycles offset bs).flatMap Cycle.stores = storesFrom offset bs := by
  have hfrom (k : Nat) (bs : List UInt8) :
      (writeCycles (offset + UInt32.ofNat k) bs).flatMap Cycle.stores =
        (bs.zipIdx k).map fun (b, k) => ((offset.toNat + k) % 65536, b) := by
    induction bs generalizing k with
    | nil => rfl
    | cons b bs ih =>
      have hplace : place (offset + UInt32.ofNat k) = (offset.toNat + k) % 65536 := by
        rw [place_eq, UInt32.toNat_add, UInt32.toNat_ofNat']
        omega
      have hnext : offset + UInt32.ofNat k + 1 = offset + UInt32.ofNat (k + 1) := by
        rw [UInt32.ofNat_add, UInt32.add_assoc]
        rfl
      rw [writeCycles, List.flatMap_cons, List.zipIdx_cons, List.map_cons, Cycle.stores, hplace,
        hnext, ih]
      rfl
  have h := hfrom 0 bs
  rwa [show UInt32.ofNat 0 = 0 from rfl, UInt32.add_zero] at h

/-- The bytes of an access are those of its cycles. -/
theorem stores_cycles (a : Access) : a.cycles.flatMap Cycle.stores = a.stores := by
  cases a with
  | write8 offset v => exact stores_writeCycles offset [v]
  | write16 offset v =>
    rw [Access.stores, ← Word.halfLanes_eq]
    exact stores_writeCycles offset _
  | write32 offset v =>
    rw [Access.stores, ← Word.lanes_eq]
    exact stores_writeCycles offset _
  | _ => rfl

/-! ### Changes of the video memory -/

theorem video_not_mem_writeCycles (offset : UInt32) (bs : List UInt8)
    (edit : VideoMemory → VideoMemory) : .video edit ∉ writeCycles offset bs := by
  induction bs generalizing offset with
  | nil => exact List.not_mem_nil
  | cons b bs ih =>
    rw [writeCycles, List.mem_cons]
    exact not_or.mpr ⟨fun hc => Cycle.noConfusion hc, ih (offset + 1)⟩

/-- Only a write through the linear aperture edits the video memory itself. -/
theorem video_keeps {a : Access} (ha : a.writesVideo = false)
    (edit : VideoMemory → VideoMemory) (hedit : .video edit ∈ a.cycles)
    (m : VideoMemory) : edit m = m := by
  cases a with
  | write8 offset v => exact absurd hedit (video_not_mem_writeCycles offset [v] edit)
  | write16 | write32 => exact absurd hedit (video_not_mem_writeCycles _ _ edit)
  | linearWrite8 | linearWrite16 | linearWrite32 => exact absurd ha Bool.noConfusion
  | linearRead8 | linearRead16 | linearRead32 =>
    obtain rfl : edit = id := by simpa [Access.cycles] using hedit
    rfl
  | _ => simp [Access.cycles] at hedit

/-- A cycle that edits the video memory keeps its size. -/
def Cycle.Sized (c : Cycle) : Prop := ∀ edit, c = .video edit → ∀ m, (edit m).size = m.size

theorem size_writeBytes (m : VideoMemory) (addr : UInt32) (bs : List UInt8) :
    (m.writeBytes addr bs).size = m.size := by
  induction bs generalizing m addr with
  | nil => rfl
  | cons b bs ih => exact ih (m.write8 addr b) (addr + 1)

/-- No access changes the size of the video memory. -/
theorem sized_cycles (a : Access) : ∀ c ∈ a.cycles, c.Sized := by
  rintro c hc edit rfl m
  cases hlinear : a.writesVideo with
  | false => rw [video_keeps hlinear edit hc m]
  | true =>
    cases a with
    | linearWrite8 addr v =>
      obtain rfl : edit = (·.write8 addr v) := by simpa [Access.cycles] using hc
      rfl
    | linearWrite16 addr v =>
      obtain rfl : edit = (·.write16 addr v) := by simpa [Access.cycles] using hc
      exact size_writeBytes m addr _
    | linearWrite32 addr v =>
      obtain rfl : edit = (·.write32 addr v) := by simpa [Access.cycles] using hc
      exact size_writeBytes m addr _
    | _ => exact absurd hlinear Bool.noConfusion

/-! ### Runs -/

/-- What goes on to hold of a host chip and of the bytes written to its window since the last
reset. -/
structure Kept (P : HostChip → List Store → Prop) : Prop where
  /-- Where the window, the video memory, the cursor and the engines stay. -/
  same {h e : HostChip} {log : List Store} : P h log → SameWindow h e → P e log
  write {h : HostChip} {log : List Store} (offset : UInt32) (v : UInt8) :
    P h log → P (h.windowWrite8 offset v) (log ++ [(place offset, v)])
  video {h : HostChip} {log : List Store} {edit : VideoMemory → VideoMemory} :
    P h log → (∀ m, (edit m).size = m.size) → P (h.withVideo edit) log
  reset (h : HostChip) : P h.reset []

namespace Kept

variable {P : HostChip → List Store → Prop} (hk : Kept P) {h : HostChip} {log : List Store}

include hk

theorem cycle (hp : P h log) {c : Cycle} (hc : c.Sized) : P (h.cycle c) (log ++ c.stores) := by
  cases c with
  | write offset v => exact hk.write offset v hp
  | video edit =>
    refine (List.append_nil log).symm ▸ ?_
    exact hk.video hp (hc edit rfl)
  | _ =>
    refine (List.append_nil log).symm ▸ ?_
    exact hk.same hp (SameWindow.cycle h (by simp) (by simp))

theorem cycles (hp : P h log) {cs : List Cycle} (hcs : ∀ c ∈ cs, c.Sized) :
    P (cs.foldl HostChip.cycle h) (log ++ cs.flatMap Cycle.stores) := by
  induction cs generalizing h log with
  | nil =>
    rw [List.flatMap_nil, List.append_nil]
    exact hp
  | cons c cs ih =>
    obtain ⟨hc, hcs⟩ := List.forall_mem_cons.mp hcs
    rw [List.flatMap_cons, ← List.append_assoc]
    exact ih (hk.cycle hp hc) hcs

theorem event (hp : P h log) (e : Event) : P (h.event e) (e.record log) := by
  cases e with
  | access a =>
    show P (h.access a).2 (log ++ a.stores)
    rw [access_cycles, ← stores_cycles]
    exact hk.cycles hp (sized_cycles a)
  | reset => exact hk.reset h
  | coprocessor op => exact hk.same hp ((SameWindow.refl h).withCoprocessor _)

/-- **What each kind of cycle keeps, every run keeps.** -/
theorem events (hp : P h log) (es : List Event) :
    P (h.events es) (es.foldl Event.record log) := by
  induction es generalizing h log with
  | nil => exact hp
  | cons e es ih => exact ih (hk.event hp e)

end Kept

end HostChip

end PumaBoard
