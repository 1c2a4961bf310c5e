import Mathlib.Data.Nat.Digits.Defs
import PumaBoard.Config.Basic
import PumaBoard.Proofs.Host.Cursor
import PumaBoard.Proofs.Memory.Words

/-!
The linear aperture as a circle of bytes. Addresses go around the video memory any number of times,
and every byte of an access goes around for itself, so an access may straddle the end of the memory
or of the addresses. The size of the memory, a power of two, is what its configuration says.
-/

namespace PumaBoard

/-! ### Circles -/

/-- A row of bytes that is closed to a circle. -/
abbrev Circle := List UInt8

namespace Circle

/-- The byte at an address, any number of times around. -/
def byte (σ : Circle) (a : Nat) : UInt8 := σ.getD (a % σ.length) 0

/-- The circle with the byte at an address replaced. -/
def put (σ : Circle) (a : Nat) (b : UInt8) : Circle := σ.set (a % σ.length) b

/-- The number in the `w` bytes from an address on, the least significant byte first. -/
def load (σ : Circle) (w a : Nat) : Nat :=
  Nat.ofDigits 256 ((List.range w).map fun i => (byte σ (a + i)).toNat)

/-- The circle with the `w` low bytes of a number from an address on, the least significant byte
first. -/
def store (σ : Circle) (w a v : Nat) : Circle :=
  (List.range w).foldl (fun σ i => put σ (a + i) (.ofNat (v / 256 ^ i))) σ

theorem length_put (σ : Circle) (a : Nat) (b : UInt8) : (put σ a b).length = σ.length :=
  List.length_set

theorem byte_put {σ : Circle} (hσ : 0 < σ.length) (a a' : Nat) (b : UInt8) :
    byte (put σ a b) a' = if a % σ.length = a' % σ.length then b else byte σ a' := by
  rw [byte, byte, length_put, put, List.getD_eq_getElem?_getD, List.getD_eq_getElem?_getD,
    List.getElem?_set, if_pos (Nat.mod_lt _ hσ)]
  split <;> rfl

section Widths

variable (σ : Circle) (a v : Nat)

theorem load_one : load σ 1 a = (byte σ a).toNat := by
  simp [load]

theorem load_two : load σ 2 a = (byte σ a).toNat + 256 * (byte σ (a + 1)).toNat := by
  simp [load, List.range_succ, Nat.ofDigits_cons]

theorem load_four : load σ 4 a = (byte σ a).toNat + 256 * ((byte σ (a + 1)).toNat +
    256 * ((byte σ (a + 2)).toNat + 256 * (byte σ (a + 3)).toNat)) := by
  simp [load, List.range_succ, Nat.ofDigits_cons]

theorem store_one : store σ 1 a v = put σ a (.ofNat v) := by
  simp [store]

theorem store_two : store σ 2 a v = put (put σ a (.ofNat v)) (a + 1) (.ofNat (v / 2 ^ 8)) := by
  simp [store, List.range_succ]

theorem store_four : store σ 4 a v =
    put (put (put (put σ a (.ofNat v)) (a + 1) (.ofNat (v / 2 ^ 8))) (a + 2) (.ofNat (v / 2 ^ 16)))
      (a + 3) (.ofNat (v / 2 ^ 24)) := by
  simp [store, List.range_succ]

end Widths

/-- Carries out an access of the linear aperture; a read answers with a number. -/
def access (σ : Circle) : HostChip.Access → Option Nat × Circle
  | .linearRead8 addr => (some (load σ 1 addr.toNat), σ)
  | .linearRead16 addr => (some (load σ 2 addr.toNat), σ)
  | .linearRead32 addr => (some (load σ 4 addr.toNat), σ)
  | .linearWrite8 addr v => (none, store σ 1 addr.toNat v.toNat)
  | .linearWrite16 addr v => (none, store σ 2 addr.toNat v.toNat)
  | .linearWrite32 addr v => (none, store σ 4 addr.toNat v.toNat)
  | _ => (none, σ)

/-- Carries out accesses one after the other: what they answer and the circle they lead to. -/
def run (σ : Circle) : List HostChip.Access → List (Option Nat) × Circle
  | [] => ([], σ)
  | a :: as => ((access σ a).1 :: (run (access σ a).2 as).1, (run (access σ a).2 as).2)

end Circle

/-! ### The video memory as a circle -/

theorem VideoSize.bytes_dvd (s : VideoSize) : s.bytes ∣ 2 ^ 32 := by
  cases s <;> decide

namespace VideoMemory

/-- The bytes of the video memory as a circle. -/
def circle (m : VideoMemory) : Circle := m.bytes.data.toList

variable (m : VideoMemory) (a : UInt32)

theorem length_circle : m.circle.length = m.size.bytes := by
  rw [← m.size_eq]
  exact Array.length_toList

theorem circle_zeroed (size : VideoSize) :
    (zeroed size).circle = List.replicate size.bytes 0 := by
  refine List.ext_getElem ?_ fun i hi _ => ?_
  · rw [List.length_replicate, length_circle, zeroed]
  · have hzero := Bytes.byteD_zeros size.bytes i
    rw [Bytes.byteD_eq_getD] at hzero
    rw [List.getElem_replicate, ← List.getD_eq_getElem _ 0 hi, List.getD_eq_getElem?_getD, circle,
      Array.getElem?_toList]
    exact hzero

/-- The end of the addresses is no seam, since the size of the memory divides their number. -/
theorem place_add (i : Nat) : m.place (a + .ofNat i) = (a.toNat + i) % m.circle.length := by
  rw [place_eq, length_circle, UInt32.toNat_add, UInt32.toNat_ofNat', Nat.add_mod_mod,
    Nat.mod_mod_of_dvd _ m.size.bytes_dvd]

theorem byte_circle (i : Nat) : m.circle.byte (a.toNat + i) = m.read8 (a + .ofNat i) := by
  have hlt := m.place_lt (a + .ofNat i)
  have hlt' : m.place (a + .ofNat i) < m.bytes.data.size := hlt
  rw [Circle.byte, ← place_add, circle, List.getD_eq_getElem?_getD, Array.getElem?_toList,
    Array.getElem?_eq_getElem hlt']
  rfl

theorem circle_write8 (i : Nat) (b : UInt8) :
    (m.write8 (a + .ofNat i) b).circle = m.circle.put (a.toNat + i) b := by
  have hlt := m.place_lt (a + .ofNat i)
  rw [Circle.put, ← place_add, circle, circle]
  show (Bytes.put m.bytes _ b).data.toList = _
  rw [Bytes.put, dif_pos hlt, ByteArray.data_set, Array.toList_set]

theorem circle_writeBytes (i : Nat) (bs : List UInt8) :
    (m.writeBytes (a + .ofNat i) bs).circle =
      (bs.zipIdx i).foldl (fun σ (b, k) => Circle.put σ (a.toNat + k) b) m.circle := by
  induction bs generalizing m i with
  | nil => rfl
  | cons b bs ih =>
    have hnext : a + .ofNat i + 1 = a + .ofNat (i + 1) := by
      rw [UInt32.ofNat_add, UInt32.add_assoc]
      rfl
    rw [writeBytes, hnext, ih, circle_write8, List.zipIdx_cons, List.foldl_cons]

/-! ### Accesses -/

/-- A read takes the bytes of the circle. -/
theorem load_circle :
    m.circle.load 1 a.toNat = (m.read8 a).toNat ∧ m.circle.load 2 a.toNat = (m.read16 a).toNat ∧
      m.circle.load 4 a.toNat = (m.read32 a).toNat := by
  have h0 : m.circle.byte a.toNat = m.read8 a := by
    have h := m.byte_circle a 0
    rwa [show UInt32.ofNat 0 = 0 from rfl, UInt32.add_zero] at h
  have h1 : m.circle.byte (a.toNat + 1) = m.read8 (a + 1) := m.byte_circle a 1
  have h2 : m.circle.byte (a.toNat + 2) = m.read8 (a + 2) := m.byte_circle a 2
  have h3 : m.circle.byte (a.toNat + 3) = m.read8 (a + 3) := m.byte_circle a 3
  rw [read16, read32, Word.toNat_ofHalfLanes, Word.toNat_ofLanes, Circle.load_one,
    Circle.load_two, Circle.load_four, h0, h1, h2, h3]
  exact ⟨rfl, rfl, rfl⟩

/-- A write replaces the bytes of the circle. -/
theorem circle_write (v₁ : UInt8) (v₂ : UInt16) (v₄ : UInt32) :
    (m.write8 a v₁).circle = m.circle.store 1 a.toNat v₁.toNat ∧
      (m.write16 a v₂).circle = m.circle.store 2 a.toNat v₂.toNat ∧
      (m.write32 a v₄).circle = m.circle.store 4 a.toNat v₄.toNat := by
  have hbytes (bs : List UInt8) : (m.writeBytes a bs).circle =
      (bs.zipIdx 0).foldl (fun σ (b, k) => Circle.put σ (a.toNat + k) b) m.circle := by
    have h := m.circle_writeBytes a 0 bs
    rwa [show UInt32.ofNat 0 = 0 from rfl, UInt32.add_zero] at h
  have h8 : m.write8 a v₁ = m.writeBytes a [.ofNat v₁.toNat] := by
    rw [UInt8.ofNat_toNat]
    rfl
  rw [h8, write16, write32, Word.halfLanes_eq, Word.lanes_eq, hbytes, hbytes, hbytes,
    Circle.store_one, Circle.store_two, Circle.store_four]
  exact ⟨rfl, rfl, rfl⟩

end VideoMemory

/-! ### Boards -/

theorem VideoSize.ofMegabytes?_eq_some {n : UInt32} {s : VideoSize}
    (h : VideoSize.ofMegabytes? n = some s) : s.megabytes = n := by
  unfold VideoSize.ofMegabytes? at h
  split at h
  · next hn => cases h; exact hn.symm
  · split at h
    · next hn => cases h; exact hn.symm
    · split at h
      · next hn => cases h; exact hn.symm
      · cases h

namespace Config

theorem videoSize_eq_ok {c : Config} {size : VideoSize} (h : c.videoSize = .ok size) :
    size.bytes = c.videoMegabytes.toNat * 2 ^ 20 := by
  unfold videoSize at h
  split at h
  · cases h
  · next s hs =>
    split at h
    · cases h
    · cases h
      rw [← VideoSize.ofMegabytes?_eq_some hs]
      exact Nat.shiftLeft_eq ..

/-- A configuration that a board is built from says how large its zeroed video memory is. -/
theorem build_eq_ok {c : Config} {board : HostChip} (h : c.build = .ok board) :
    ∃ size : VideoSize, size.bytes = c.videoMegabytes.toNat * 2 ^ 20 ∧
      board.video = .zeroed size := by
  unfold build at h
  cases hsize : c.videoSize with
  | error e =>
    rw [hsize, Except.map] at h
    injection h
  | ok size =>
    rw [hsize, Except.map, Except.ok.injEq] at h
    refine ⟨size, videoSize_eq_ok hsize, ?_⟩
    rw [← h]
    rfl

end Config

namespace HostChip

/-- The access goes through the linear aperture. -/
def Access.isLinear : Access → Bool
  | .linearRead8 _ | .linearRead16 _ | .linearRead32 _ | .linearWrite8 .. | .linearWrite16 ..
  | .linearWrite32 .. => true
  | _ => false

/-! ### The size of the video memory -/

section Sizes

variable (h : HostChip)

theorem size_cycle {c : Cycle} (hc : c.Sized) : (h.cycle c).video.size = h.video.size := by
  cases c with
  | write offset v => exact size_affect _ _
  | video edit => exact hc edit rfl h.video
  | _ => rw [(SameWindow.cycle h (by simp) (by simp)).video]

theorem size_cycles {cs : List Cycle} (hcs : ∀ c ∈ cs, c.Sized) :
    (cs.foldl cycle h).video.size = h.video.size := by
  induction cs generalizing h with
  | nil => rfl
  | cons c cs ih =>
    rw [List.forall_mem_cons] at hcs
    rw [List.foldl_cons, ih _ hcs.2, size_cycle h hcs.1]

theorem size_event (e : Event) : (h.event e).video.size = h.video.size := by
  cases e with
  | access a => rw [event, access_cycles, size_cycles h (sized_cycles a)]
  | reset => rw [event, (SameWindow.reset h).video]
  | coprocessor op => rw [event, ((SameWindow.refl h).withCoprocessor _).video]

/-- Whatever happens to a host chip, its video memory keeps its size. -/
theorem size_events (es : List Event) : (h.events es).video.size = h.video.size := by
  unfold events
  induction es generalizing h with
  | nil => rfl
  | cons e es ih => rw [List.foldl_cons, ih, size_event]

end Sizes

/-! ### Runs -/

/-- **A linear access is an access to the circle of bytes**, and it reaches nothing else. -/
theorem access_circle (h : HostChip) {a : Access} (ha : a.isLinear) :
    (h.access a).1.map UInt32.toNat = (h.video.circle.access a).1 ∧
      (h.access a).2.video.circle = (h.video.circle.access a).2 ∧
      (h.access a).2 = { h with video := (h.access a).2.video } := by
  cases a with
  | linearRead8 addr =>
    refine ⟨?_, rfl, rfl⟩
    rw [access, Circle.access, (h.video.load_circle addr).1, Option.map_some,
      UInt8.toNat_toUInt32]
  | linearRead16 addr =>
    refine ⟨?_, rfl, rfl⟩
    rw [access, Circle.access, (h.video.load_circle addr).2.1, Option.map_some,
      UInt16.toNat_toUInt32]
  | linearRead32 addr =>
    refine ⟨?_, rfl, rfl⟩
    rw [access, Circle.access, (h.video.load_circle addr).2.2, Option.map_some]
  | linearWrite8 addr v => exact ⟨rfl, (h.video.circle_write addr v 0 0).1, rfl⟩
  | linearWrite16 addr v => exact ⟨rfl, (h.video.circle_write addr 0 v 0).2.1, rfl⟩
  | linearWrite32 addr v => exact ⟨rfl, (h.video.circle_write addr 0 0 v).2.2, rfl⟩
  | _ => cases ha

theorem run_circle (h : HostChip) {as : List Access} (has : ∀ a ∈ as, a.isLinear) :
    (h.run as).1.map (Option.map UInt32.toNat) = (h.video.circle.run as).1 ∧
      (h.run as).2.video.circle = (h.video.circle.run as).2 ∧
      (h.run as).2 = { h with video := (h.run as).2.video } := by
  induction as generalizing h with
  | nil => exact ⟨rfl, rfl, rfl⟩
  | cons a as ih =>
    rw [List.forall_mem_cons] at has
    obtain ⟨hanswer, hcircle, hframe⟩ := h.access_circle has.1
    obtain ⟨hanswers, hcircles, hframes⟩ := ih (h.access a).2 has.2
    rw [hcircle] at hanswers hcircles
    refine ⟨?_, hcircles, ?_⟩
    · rw [run, Circle.run, List.map_cons, hanswer, hanswers]
    · rw [run]
      dsimp only
      rw [hframes, hframe]

/-- **The linear aperture is a circle of bytes.** A board that a configuration describes has a
zeroed circle of as many megabytes as it says, and whatever happens to the board later the circle
keeps its length. From then on any sequence of linear accesses answers what the accesses to the
circle answer and leaves the bytes that they leave. Every place that an address has lies in the
memory, and all of the board but its video memory is as before. -/
theorem linear_runs_circle {c : Config} {board : HostChip} (hc : c.build = .ok board)
    (es : List Event) {as : List Access} (has : ∀ a ∈ as, a.isLinear) :
    let n := c.videoMegabytes.toNat * 2 ^ 20
    let h := board.events es
    let r := h.video.circle.run as
    board.video.circle = List.replicate n 0 ∧ h.video.circle.length = n ∧
      (h.run as).1.map (Option.map UInt32.toNat) = r.1 ∧ (h.run as).2.video.circle = r.2 ∧
      (∀ addr, (h.run as).2.video.place addr < (h.run as).2.video.bytes.size) ∧
      (h.run as).2 = { h with video := (h.run as).2.video } := by
  intro n h r
  obtain ⟨size, hbytes, hvideo⟩ := Config.build_eq_ok hc
  obtain ⟨hanswers, hcircle, hframe⟩ := h.run_circle has
  refine ⟨?_, ?_, hanswers, hcircle, VideoMemory.place_lt _, hframe⟩
  · rw [hvideo, VideoMemory.circle_zeroed, hbytes]
  · rw [VideoMemory.length_circle, size_events, hvideo, VideoMemory.zeroed, hbytes]

/-- A word from the next to last address on, then what it leaves around the end of 1 MB. -/
def straddling : List Access :=
  [.linearWrite32 0xFFFFFFFE 0x44332211, .linearRead16 0x000FFFFF, .linearRead8 0x00300001]

theorem linear_runs_circle_straddling :
    ∃ board, ({ videoMegabytes := 1 } : Config).build = .ok board ∧
      ((board.events [.reset]).run straddling).1.map (Option.map UInt32.toNat) =
        [none, some 0x3322, some 0x44] := by
  have hbuild : ({ videoMegabytes := 1 } : Config).build =
      .ok (create .mb1 (some (.mb8, {}))) := by
    have hsize : ({ videoMegabytes := 1 } : Config).videoSize = .ok .mb1 := rfl
    rw [Config.build, hsize]
    rfl
  have hlinear : ∀ a ∈ straddling, a.isLinear := by decide
  obtain ⟨-, hlength, hanswers, -⟩ := linear_runs_circle hbuild [.reset] hlinear
  refine ⟨_, hbuild, ?_⟩
  rw [hanswers]
  -- the answers depend on the length of the circle only, so its bytes are forgotten
  generalize ((create .mb1 (some (.mb8, {}))).events [.reset]).video.circle = σ at hlength ⊢
  have hlength : σ.length = 1048576 := hlength
  simp [straddling, Circle.run, Circle.access, Circle.load_one, Circle.load_two,
    Circle.store_four, Circle.byte_put, Circle.length_put, hlength]

end HostChip

end PumaBoard
