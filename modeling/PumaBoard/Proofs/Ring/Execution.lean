import PumaBoard.Proofs.Ring.Batch
import PumaBoard.Proofs.Ring.Group

/-!
The account of a drain. A drain is a loop: while the ring is enabled, has entries and the limit set
at its start is not used up, it executes the packet at the read pointer. The packets may set the
ring up anew, so the loop ends because of the limit alone; if they leave the ring alone, every
packet takes one entry and moves the read pointer past itself, and a drain can stop early only at a
packet that it cannot read.
-/

namespace PumaBoard

/-! ### Executed packets -/

/-- A packet as a drain executes it, with its page writes in their order. -/
structure Ring.Executed where
  header : UInt32
  packet : Packet
  writes : List (UInt32 × UInt32)

namespace Ring.Executed

/-- How many words the read pointer moves past the packet: one more than the writes of a group, and
two past any other packet, a group without writes among them. -/
def stride (x : Executed) : Nat :=
  match x.packet with
  | .nop | .single .. => 2
  | .group .. => if x.writes.length = 0 then 2 else 1 + x.writes.length

/-- How many words the read pointer moves past all of the packets. -/
def strides : List Executed → Nat
  | [] => 0
  | x :: xs => x.stride + strides xs

/-- No write of the packet sets up the ring. -/
def SparesRing (l : Aperture.Layout) (x : Executed) : Prop := ∀ w ∈ x.writes, l.SparesRing w.1

end Ring.Executed

/-- The ring `s` is the ring `r` after packets that leave its setup alone: every packet has taken an
entry, and the read pointer has moved past all of them, around the ring. -/
structure Ring.Passed (r : Ring) (xs : List Ring.Executed) (s : Ring) : Prop where
  setup : s = { r with entryCount := s.entryCount, readPtr := s.readPtr }
  entries : s.entryCount.toNat + xs.length = r.entryCount.toNat
  start : xs = [] → s.readPtr = r.readPtr
  place : xs ≠ [] → s.readPtr.toNat = (r.readPtr.toNat + Executed.strides xs) % r.words.toNat
  inside : xs ≠ [] → s.readPtr.toNat < r.words.toNat

namespace Ring.Passed

variable {r q s : Ring} {x : Ring.Executed} {xs : List Ring.Executed}

theorem words (h : r.Passed xs s) : s.words = r.words := by rw [h.setup]; rfl

theorem threshold (h : r.Passed xs s) : s.threshold = r.threshold := by rw [h.setup]

theorem enabled (h : r.Passed xs s) : s.enabled = r.enabled := by rw [h.setup]

theorem refl (r : Ring) : r.Passed [] r where
  setup := rfl
  entries := rfl
  start _ := rfl
  place h := absurd rfl h
  inside h := absurd rfl h

/-- The packets after the first one start where it has left the ring. -/
theorem cons (hq : r.Passed [x] q) (h : q.Passed xs s) : r.Passed (x :: xs) s where
  setup := by rw [h.setup, hq.setup]
  entries := by
    have hfirst := hq.entries
    have hrest := h.entries
    simp only [List.length_cons, List.length_nil] at hfirst ⊢
    omega
  start h := absurd h (List.cons_ne_nil x xs)
  place _ := by
    have hfirst := hq.place (List.cons_ne_nil x [])
    cases xs with
    | nil => rw [h.start rfl]; exact hfirst
    | cons y ys =>
      rw [h.place (List.cons_ne_nil y ys), hq.words, hfirst, Nat.mod_add_mod]
      simp [Executed.strides, Nat.add_assoc]
  inside _ := by
    cases xs with
    | nil => rw [h.start rfl]; exact hq.inside (List.cons_ne_nil x [])
    | cons y ys => rw [← hq.words]; exact h.inside (List.cons_ne_nil y ys)

end Ring.Passed

namespace Coprocessor

/-! ### One packet -/

section Packet

variable {d : Coprocessor} {header : UInt32} {p : Ring.Packet}

theorem length_groupWrites (d : Coprocessor) (base mask : UInt32) :
    (d.groupWrites base mask).length = (Word.setBits mask).length := by
  rw [groupWrites, List.length_map, List.length_zipIdx]

/-- A packet moves the read pointer by one more than its writes if it is a group that has any, and
by two words otherwise. -/
theorem stride_eq_length (d : Coprocessor) (header : UInt32) (p : Ring.Packet) :
    Ring.Executed.stride ⟨header, p, d.packetWrites p⟩ = p.length.toNat := by
  cases p with
  | nop | single => rfl
  | group base mask =>
    have hle := Word.length_setBits_le mask
    have hpop := Word.toNat_population mask
    have hzero : Word.population mask = 0 ↔ (Word.setBits mask).length = 0 := by
      rw [← hpop, ← UInt32.toNat_inj, UInt32.toNat_zero]
    simp only [Ring.Executed.stride, packetWrites, length_groupWrites, Ring.Packet.length, hzero]
    split
    · rfl
    · rw [UInt32.toNat_add, hpop, UInt32.toNat_one]
      exact (Nat.mod_eq_of_lt (by omega)).symm

theorem layout_drainNext (d : Coprocessor) : d.drainNext.layout = d.layout := by
  unfold drainNext
  split
  · rfl
  · next header p _ =>
    show (d.executePacket header p).layout = d.layout
    rw [executePacket_eq, layout_writePages]
    exact layout_noteAny d _

/-- A packet that spares the ring takes one entry and moves the read pointer past itself. -/
theorem passed_drainNext (h : d.next? = some (header, p)) (hs : d.NextSparesRing) :
    d.ring.Passed [⟨header, p, d.packetWrites p⟩] d.drainNext.ring := by
  obtain ⟨-, hc, hf⟩ := next?_eq_some h
  have hr := readPtr_lt_of_fetch hf
  have hring : d.drainNext.ring = _ :=
    (congrArg (·.ring) (drainNext_eq h hs)).trans
      (Ring.retireEntry_advance hr hc (Ring.Packet.length_lt p))
  have hlt := Nat.mod_lt (d.ring.readPtr.toNat + p.length.toNat)
    (Ring.words_pos (words_ne_zero_of_fetch hf))
  have hptr : d.drainNext.ring.readPtr.toNat =
      (d.ring.readPtr.toNat + p.length.toNat) % d.ring.words.toNat := by
    rw [hring]
    exact UInt32.toNat_ofNat_of_lt' (Nat.lt_trans hlt d.ring.words.toNat_lt)
  exact
    { setup := by rw [hring]
      entries := entryCount_drainNext hs (by rw [h]; exact Option.some_ne_none _)
      start := fun h => absurd h (List.cons_ne_nil _ _)
      place := fun _ => by
        rw [hptr, Ring.Executed.strides, Ring.Executed.strides, Nat.add_zero, stride_eq_length]
      inside := fun _ => hptr ▸ hlt }

/-- A packet that spares the ring leaves the status flags alone. -/
theorem status_drainNext (hs : d.NextSparesRing) : d.drainNext.status = d.status := by
  cases h : d.next? with
  | none => rw [drainNext_of_none h]
  | some found =>
    have hpages := hs found h
    rw [← layout_noteAny d (packetNotice found.1 found.2)] at hpages
    rw [drainNext_eq h hs]
    exact (status_writePages hpages).trans (status_noteAny ..)

end Packet

/-! ### Packet after packet -/

/-- The coprocessor `d` comes to the coprocessor `e` by executing packets one after the other, each
of them the one that is next. -/
inductive Executes : Coprocessor → List Ring.Executed → Coprocessor → Prop where
  | none (d : Coprocessor) : Executes d [] d
  | packet {d e : Coprocessor} {header : UInt32} {p : Ring.Packet} {xs : List Ring.Executed}
      (next : d.next? = some (header, p)) (rest : d.drainNext.Executes xs e) :
      Executes d (⟨header, p, d.packetWrites p⟩ :: xs) e

/-- How the loop of a drain ends after `k` packets, with the limit `limit`, in the state `e`, and
the state that it leaves. Only a packet that cannot be read is told of. -/
inductive Ends (limit k : Nat) (e : Coprocessor) : Coprocessor → Prop where
  | spent (h : k = limit) : Ends limit k e e
  | disabled (h : e.ring.enabled = false) : Ends limit k e e
  | empty (h : e.ring.entryCount = 0) : Ends limit k e e
  | blocked {notice : Notice} (within : k < limit) (h : e.fetch = .error notice) :
      Ends limit k e (e.note notice)

namespace Executes

variable {d e : Coprocessor} {xs : List Ring.Executed}

theorem layout (h : d.Executes xs e) : e.layout = d.layout := by
  induction h with
  | none => rfl
  | packet next rest ih => rw [ih, layout_drainNext]

/-- Packets that spare the ring do so in the state in which they are next. -/
theorem nextSparesRing {header : UInt32} {p : Ring.Packet} (next : d.next? = some (header, p))
    (hs : ∀ w ∈ d.packetWrites p, d.layout.SparesRing w.1) : d.NextSparesRing := by
  intro found hfound
  rw [next] at hfound
  rwa [← Option.some.inj hfound]

/-- **Packets that spare the ring take an entry each and move the read pointer past themselves**,
and leave the status flags alone. -/
theorem passed (h : d.Executes xs e) (hs : ∀ x ∈ xs, x.SparesRing d.layout) :
    d.ring.Passed xs e.ring ∧ e.status = d.status := by
  induction h with
  | none d => exact ⟨.refl d.ring, rfl⟩
  | @packet d e header p xs next rest ih =>
    obtain ⟨hfirst, hothers⟩ := List.forall_mem_cons.mp hs
    have hspares := nextSparesRing next hfirst
    obtain ⟨hrest, hstatus⟩ := ih (by rwa [layout_drainNext])
    exact ⟨(passed_drainNext next hspares).cons hrest, hstatus.trans (status_drainNext hspares)⟩

end Executes

/-- One packet in front adds one to both counts. -/
theorem Ends.succ {limit k : Nat} {e f : Coprocessor} (h : e.Ends limit k f) :
    e.Ends (limit + 1) (k + 1) f := by
  cases h with
  | spent h => exact .spent (congrArg (· + 1) h)
  | disabled h => exact .disabled h
  | empty h => exact .empty h
  | blocked within h => exact .blocked (Nat.succ_lt_succ within) h

/-- The loop of a drain ends: it has executed as many packets as it may, or come to a state in which
it does not go on. -/
theorem drainUpTo_ends (d : Coprocessor) (limit : Nat) :
    ∃ xs e, d.Executes xs e ∧ xs.length ≤ limit ∧ e.Ends limit xs.length (d.drainUpTo limit) := by
  induction limit generalizing d with
  | zero => exact ⟨[], d, .none d, Nat.le_refl 0, .spent rfl⟩
  | succ n ih =>
    rw [drainUpTo]
    split
    · next hready =>
      have hnext : d.next? = d.fetch.toOption := if_pos hready
      cases hf : d.fetch with
      | error notice => exact ⟨[], d, .none d, Nat.zero_le _, .blocked (Nat.succ_pos n) hf⟩
      | ok found =>
        obtain ⟨header, p⟩ := found
        rw [hf] at hnext
        have hd : d.drainNext = (d.executePacket header p).retire := by rw [drainNext, hnext]; rfl
        obtain ⟨xs, e, hrun, hlen, hend⟩ := ih d.drainNext
        rw [hd] at hend
        exact ⟨_ :: xs, e, .packet hnext hrun, Nat.succ_le_succ hlen, hend.succ⟩
    · next hready =>
      refine ⟨[], d, .none d, Nat.zero_le _, ?_⟩
      by_cases he : d.ring.enabled = true
      · have hc : ¬ d.ring.entryCount > 0 := fun hc => hready (by simp [he, hc])
        exact .empty (Decidable.not_not.mp (mt UInt32.pos_iff_ne_zero.mpr hc))
      · exact .disabled (Bool.not_eq_true _ ▸ he)

/-! ### Packets that cannot be read -/

/-- The packet at the read pointer cannot be read: the pointer is outside the ring, or the header or
the word after it lies outside the frame buffer. -/
def Blocked (d : Coprocessor) : Prop :=
  d.ring.words ≤ d.ring.readPtr ∨
    ∃ n < 2, d.layout.frameSize.toNat < d.ring.place (d.ring.readPtr.toNat + n) + 4

theorem ringWord?_eq_none {d : Coprocessor} (hw : d.ring.words ≠ 0) {n : UInt32}
    (h : d.ringWord? n = none) :
    d.layout.frameSize.toNat < d.ring.place (d.ring.readPtr.toNat + n.toNat) + 4 := by
  have hsize : d.memory.frame.size = d.layout.frameSize.toNat := d.memory.frame_size
  rw [ringWord?_eq hw, Bytes.read32?] at h
  split at h
  · cases h
  · omega

theorem blocked_of_fetch {d : Coprocessor} {notice : Notice} (h : d.fetch = .error notice) :
    d.Blocked := by
  rw [fetch] at h
  split at h
  · next hge => exact .inl hge
  · next hlt =>
    have hw : d.ring.words ≠ 0 := fun h0 => hlt (h0 ▸ UInt32.zero_le)
    right
    split at h
    · cases h
    · next hwords =>
      -- one of the two words is missing
      cases h0 : d.ringWord? 0 with
      | none => exact ⟨0, by decide, ringWord?_eq_none hw h0⟩
      | some header =>
        cases h1 : d.ringWord? 1 with
        | none => exact ⟨1, by decide, ringWord?_eq_none hw h1⟩
        | some data => exact absurd h1 (hwords header data h0)

/-! ### The account -/

/-- The most packets that a drain executes: as many as the threshold says, or all pending entries
when it is zero. -/
def limit (d : Coprocessor) : Nat :=
  if d.ring.threshold = 0 then d.ring.entryCount.toNat else d.ring.threshold.toNat

theorem toNat_batch (d : Coprocessor) : d.ring.batch.toNat = d.limit := by
  by_cases h : d.ring.threshold = 0
  · rw [Ring.batch, limit, if_pos h, if_neg (not_not_intro h)]
  · rw [Ring.batch, limit, if_neg h, if_pos h]

/-- The loop of a drain has left `f`, and the drain leaves `f` with the threshold flag brought up to
date. A ring that is disabled or has no entries is not drained at all. -/
def Drains (d f : Coprocessor) : Prop :=
  if d.ring.enabled = true ∧ d.ring.entryCount ≠ 0 then d.drain = f.updateThreshold
  else d.drain = d ∧ f = d

theorem drain_ends (d : Coprocessor) :
    ∃ xs e f, d.Executes xs e ∧ xs.length ≤ d.limit ∧ e.Ends d.limit xs.length f ∧ d.Drains f := by
  by_cases hready : d.ring.enabled = true ∧ d.ring.entryCount ≠ 0
  · obtain ⟨xs, e, hrun, hlen, hend⟩ := d.drainUpTo_ends d.limit
    refine ⟨xs, e, _, hrun, hlen, hend, ?_⟩
    have hpos : d.ring.entryCount > 0 := UInt32.pos_iff_ne_zero.mpr hready.2
    rw [Drains, if_pos hready, drain, if_pos (by simp [hready.1, hpos]), toNat_batch]
  · have hidle : d.drain = d := by
      refine if_neg fun h => hready ?_
      rw [Bool.and_eq_true, decide_eq_true_eq] at h
      exact ⟨h.1, UInt32.pos_iff_ne_zero.mp h.2⟩
    refine ⟨[], d, d, .none d, Nat.zero_le _, ?_, by rw [Drains, if_neg hready]; exact ⟨hidle, rfl⟩⟩
    rcases Classical.not_and_iff_not_or_not.mp hready with he | hc
    · exact .disabled (Bool.not_eq_true _ ▸ he)
    · exact .empty (Decidable.not_not.mp hc)

theorem Ends.ring {limit k : Nat} {e f : Coprocessor} (h : e.Ends limit k f) : f.ring = e.ring := by
  cases h <;> rfl

theorem Ends.status {limit k : Nat} {e f : Coprocessor} (h : e.Ends limit k f) :
    f.status = e.status := by
  cases h <;> rfl

theorem Drains.ring {d f : Coprocessor} (h : d.Drains f) : d.drain.ring = f.ring := by
  unfold Drains at h
  split at h
  · rw [h, ring_updateThreshold]
  · rw [h.1, h.2]

/-- **The account of a drain.** Every drain ends, after at most as many packets as the limit at its
start, whatever the packets do to the ring. If they spare it, each of them takes an entry and moves
the read pointer past itself; and an enabled ring is left with entries before the limit only at a
packet that cannot be read, which has no effect besides a notice. The account is that of a program
that goes on where a sum does not fit; one that checks its sums stops at the notice of it. -/
theorem drain_accounts (d : Coprocessor) :
    ∃ xs e f,
      d.Executes xs e ∧ xs.length ≤ d.limit ∧ e.Ends d.limit xs.length f ∧ d.Drains f ∧
      ((∀ x ∈ xs, x.SparesRing d.layout) →
        d.ring.Passed xs d.drain.ring ∧
        (d.ring.enabled = true → xs.length < d.limit → d.drain.ring.entryCount ≠ 0 →
          e.Blocked ∧ ∃ notice, d.drain = (e.note notice).updateThreshold)) := by
  obtain ⟨xs, e, f, hrun, hlen, hend, hdrain⟩ := d.drain_ends
  refine ⟨xs, e, f, hrun, hlen, hend, hdrain, fun hs => ?_⟩
  have hpassed := (hrun.passed hs).1
  have hring : d.drain.ring = e.ring := hdrain.ring.trans hend.ring
  rw [hring]
  refine ⟨hpassed, fun hon hlt hleft => ?_⟩
  cases hend with
  | spent h => exact absurd h (Nat.ne_of_lt hlt)
  | disabled h =>
    rw [hpassed.enabled, hon] at h
    cases h
  | empty h => exact absurd h hleft
  | @blocked notice within h =>
    have hpending : d.ring.entryCount ≠ 0 := by
      intro h0
      have hentries := hpassed.entries
      rw [h0, UInt32.toNat_zero] at hentries
      exact hleft (UInt32.toNat_inj.mp (by rw [UInt32.toNat_zero]; omega))
    rw [Drains, if_pos ⟨hon, hpending⟩] at hdrain
    exact ⟨blocked_of_fetch h, notice, hdrain⟩

end Coprocessor

end PumaBoard
