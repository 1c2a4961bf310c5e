import Mathlib.Logic.Function.Iterate
import PumaBoard.Proofs.Ring.Stream

/-!
Draining in batches. A drain that stops at its threshold goes on where it stopped when it is called
again, so as many drains as it takes for all entries do what one drain without a threshold does,
whatever the packets do to the packets behind them. Only the threshold, its flag and the notices
tell the two apart: a drain that cannot go on says so every time it is called.
-/

namespace PumaBoard.Coprocessor

/-! ### What batches leave out of account -/

/-- The coprocessor with the threshold, the threshold flag and the notices left out. -/
def unbatched (d : Coprocessor) : Coprocessor :=
  { d with
    ring := { d.ring with threshold := 0 }
    status := { d.status with ringFull := false }
    notices := #[] }

/-- What `unbatched` leaves out. -/
def batching (d : Coprocessor) : Backdrop where
  ring r := { r with threshold := d.ring.threshold }
  status s := { s with ringFull := d.status.ringFull }
  notices := d.notices

section Unbatched

variable (d e : Coprocessor)

theorem unbatched_against_batching : d.unbatched.against d.batching = d := by
  simp only [unbatched, against, batching, Array.append_empty, Array.empty_append]

theorem unbatched_against : (e.against d.batching).unbatched = e.unbatched := by
  simp only [unbatched, against, batching, Array.empty_append]

theorem unbatched_unbatched : d.unbatched.unbatched = d.unbatched := rfl

theorem unbatched_noteAny (n : Option Notice) : (d.noteAny n).unbatched = d.unbatched := by
  cases n <;> rfl

theorem unbatched_setRing (r : Ring) :
    (d.setRing r).unbatched = d.unbatched.setRing { r with threshold := 0 } := rfl

theorem unbatched_updateThreshold : d.updateThreshold.unbatched = d.unbatched := by
  rw [updateThreshold_eq]
  split <;> rfl

variable {d} in
theorem unbatched_writePages {ws : List (UInt32 × UInt32)}
    (h : ∀ w ∈ ws, d.layout.SparesRing w.1) :
    (d.writePages ws).unbatched = (d.unbatched.writePages ws).unbatched := by
  have hd := against_writePages (d := d.unbatched) h d.batching
  rw [unbatched_against_batching] at hd
  rw [hd, unbatched_against]

end Unbatched

/-! ### The next packet -/

/-- The packet that a drain executes next with its header, if it executes any. -/
def next? (d : Coprocessor) : Option (UInt32 × Ring.Packet) :=
  if d.ring.enabled && d.ring.entryCount > 0 then d.fetch.toOption else none

/-- The packet that a drain executes next does not set up the ring. -/
def NextSparesRing (d : Coprocessor) : Prop :=
  ∀ found ∈ d.next?, ∀ w ∈ d.packetWrites found.2, d.layout.SparesRing w.1

/-- Executes the next packet, if there is one. -/
def drainNext (d : Coprocessor) : Coprocessor :=
  match d.next? with
  | none => d
  | some (header, p) => (d.executePacket header p).retire

section Next

variable {d : Coprocessor}

theorem next?_unbatched : d.unbatched.next? = d.next? := by
  have hword (n : UInt32) : d.unbatched.ringWord? n = d.ringWord? n := rfl
  have hptr : d.unbatched.ring.readPtr = d.ring.readPtr := rfl
  have hwords : d.unbatched.ring.words = d.ring.words := rfl
  have hfetch : d.unbatched.fetch.toOption = d.fetch.toOption := by
    unfold fetch
    rw [hword, hword, hptr, hwords]
    split
    · rfl
    · cases d.ringWord? 0 <;> cases d.ringWord? 1 <;> rfl
  unfold next?
  rw [hfetch]; rfl

theorem nextSparesRing_congr {e : Coprocessor} (h : d.unbatched = e.unbatched)
    (hd : d.NextSparesRing) : e.NextSparesRing := by
  have hnext : e.next? = d.next? := by rw [← next?_unbatched, ← h, next?_unbatched]
  have hwrites (p : Ring.Packet) : e.packetWrites p = d.packetWrites p :=
    (congrArg (packetWrites · p) h).symm
  have hlayout : e.layout = d.layout := (congrArg layout h).symm
  intro found hfound
  rw [hnext] at hfound
  rw [hwrites, hlayout]
  exact hd found hfound

theorem drainNext_of_none (h : d.next? = none) : d.drainNext = d := by
  rw [drainNext, h]

theorem next?_eq_some {header : UInt32} {p : Ring.Packet} (h : d.next? = some (header, p)) :
    d.ring.enabled = true ∧ d.ring.entryCount ≠ 0 ∧ d.fetch = .ok (header, p) := by
  unfold next? at h
  split at h
  · next hready =>
    rw [Bool.and_eq_true, decide_eq_true_eq] at hready
    refine ⟨hready.1, UInt32.pos_iff_ne_zero.mp hready.2, ?_⟩
    cases hf : d.fetch with
    | error notice => rw [hf] at h; cases h
    | ok found => rw [hf] at h; exact congrArg Except.ok (Option.some.inj h)
  · cases h

theorem drainUpTo_one {found : UInt32 × Ring.Packet} (h : d.next? = some found) :
    d.drainUpTo 1 = d.drainNext := by
  obtain ⟨he, hc, hf⟩ := next?_eq_some h
  have hpos : d.ring.entryCount > 0 := UInt32.pos_iff_ne_zero.mpr hc
  rw [drainUpTo, if_pos (by simp [he, hpos]), hf, drainNext, h]
  rfl

/-- What the next packet does when it does not set up the ring. -/
theorem drainNext_eq {header : UInt32} {p : Ring.Packet} (h : d.next? = some (header, p))
    (hs : d.NextSparesRing) :
    d.drainNext =
      ((d.noteAny (packetNotice header p)).writePages (d.packetWrites p)).setRing
        (d.ring.advance p.length).retireEntry := by
  obtain ⟨he, hc, hf⟩ := next?_eq_some h
  rw [← drainUpTo_one h, drainUpTo_step he hc hf (hs _ h) 0]
  rfl

theorem entryCount_retireEntry {r : Ring} (h : r.entryCount ≠ 0) :
    r.retireEntry.entryCount = r.entryCount - 1 := if_neg h

theorem entryCount_advance (r : Ring) (n : UInt32) : (r.advance n).entryCount = r.entryCount := by
  unfold Ring.advance
  split <;> rfl

theorem threshold_advance (r : Ring) (n : UInt32) : (r.advance n).threshold = r.threshold := by
  unfold Ring.advance
  split <;> rfl

theorem threshold_drainNext (hs : d.NextSparesRing) :
    d.drainNext.ring.threshold = d.ring.threshold := by
  cases h : d.next? with
  | none => rw [drainNext_of_none h]
  | some found => rw [drainNext_eq h hs]; exact threshold_advance ..

theorem entryCount_drainNext (hs : d.NextSparesRing) (h : d.next? ≠ none) :
    d.drainNext.ring.entryCount.toNat + 1 = d.ring.entryCount.toNat := by
  obtain ⟨⟨header, p⟩, hp⟩ := Option.ne_none_iff_exists'.mp h
  have hc := (next?_eq_some hp).2.1
  have hc' : (d.ring.advance p.length).entryCount ≠ 0 := by rwa [entryCount_advance]
  have hpos : 1 ≤ d.ring.entryCount := UInt32.pos_iff_ne_zero.mpr hc
  rw [drainNext_eq hp hs]
  show (d.ring.advance p.length).retireEntry.entryCount.toNat + 1 = _
  rw [entryCount_retireEntry hc', entryCount_advance, UInt32.toNat_sub_of_le _ _ hpos]
  exact Nat.sub_add_cancel hpos

variable (d) in
/-- Page writes after a notice do the same whatever batches leave out of account. -/
theorem unbatched_noteAny_writePages {ws : List (UInt32 × UInt32)}
    (h : ∀ w ∈ ws, d.layout.SparesRing w.1) (n : Option Notice) :
    ((d.noteAny n).writePages ws).unbatched = (d.unbatched.writePages ws).unbatched := by
  rw [unbatched_writePages (by rwa [layout_noteAny]), unbatched_noteAny]

theorem unbatched_drainNext_unbatched (hs : d.NextSparesRing) :
    d.unbatched.drainNext.unbatched = d.drainNext.unbatched := by
  cases hn : d.next? with
  | none => rw [drainNext_of_none hn, drainNext_of_none (next?_unbatched.trans hn)]; rfl
  | some found =>
    obtain ⟨header, p⟩ := found
    have hs' : d.unbatched.NextSparesRing := nextSparesRing_congr d.unbatched_unbatched.symm hs
    have hpages := d.unbatched_noteAny_writePages (hs _ hn) (packetNotice header p)
    have hpages' := d.unbatched.unbatched_noteAny_writePages (hs _ hn) (packetNotice header p)
    have hwords : d.unbatched.ring.words = d.ring.words := rfl
    have hring : { (d.unbatched.ring.advance p.length).retireEntry with threshold := 0 } =
        { (d.ring.advance p.length).retireEntry with threshold := 0 } := by
      unfold Ring.advance
      rw [hwords]
      split <;> rfl
    rw [drainNext_eq hn hs, drainNext_eq (next?_unbatched.trans hn) hs', unbatched_setRing,
      unbatched_setRing, hring, hpages]
    exact congrArg (setRing · _) hpages'

/-- The next packet does the same whatever batches leave out of account. -/
theorem unbatched_drainNext {e : Coprocessor} (h : d.unbatched = e.unbatched)
    (hs : d.NextSparesRing) : d.drainNext.unbatched = e.drainNext.unbatched := by
  rw [← unbatched_drainNext_unbatched hs, h,
    unbatched_drainNext_unbatched (nextSparesRing_congr h hs)]

end Next

/-! ### Packet after packet -/

section Packets

variable {d : Coprocessor}

theorem iterate_drainNext_of_none (h : d.next? = none) (n : Nat) : drainNext^[n] d = d :=
  Function.iterate_fixed (drainNext_of_none h) n

/-- A drain executes packet after packet; if it cannot go on it says so. -/
theorem drainUpTo_eq_iterate (d : Coprocessor) (n : Nat) :
    ∃ notice, d.drainUpTo n = (drainNext^[n] d).noteAny notice := by
  induction n generalizing d with
  | zero => exact ⟨none, rfl⟩
  | succ n ih =>
    rw [drainUpTo]
    split
    · next hready =>
      have hnext : d.next? = d.fetch.toOption := if_pos hready
      cases hf : d.fetch with
      | error notice =>
        rw [hf] at hnext
        exact ⟨some notice, by rw [iterate_drainNext_of_none hnext]; rfl⟩
      | ok found =>
        obtain ⟨header, p⟩ := found
        have hd : d.drainNext = (d.executePacket header p).retire := by
          rw [drainNext, hnext, hf]; rfl
        rw [Function.iterate_succ_apply, hd]
        exact ih _
    · next hready =>
      exact ⟨none, by rw [iterate_drainNext_of_none (if_neg hready)]; rfl⟩

theorem unbatched_drainUpTo (d : Coprocessor) (n : Nat) :
    (d.drainUpTo n).unbatched = (drainNext^[n] d).unbatched := by
  obtain ⟨notice, h⟩ := d.drainUpTo_eq_iterate n
  rw [h, unbatched_noteAny]

theorem unbatched_drain (d : Coprocessor) :
    d.drain.unbatched = (drainNext^[d.ring.batch.toNat] d).unbatched := by
  unfold drain
  split
  · rw [unbatched_updateThreshold, unbatched_drainUpTo]
  · next hready => rw [iterate_drainNext_of_none (if_neg hready)]

end Packets

/-! ### Packets that spare the ring -/

section Spares

variable {d e : Coprocessor} {n : Nat}
  (hs : ∀ k < n, (drainNext^[k] d).NextSparesRing)

include hs

theorem unbatched_iterate (h : d.unbatched = e.unbatched) :
    (drainNext^[n] d).unbatched = (drainNext^[n] e).unbatched := by
  induction n with
  | zero => exact h
  | succ n ih =>
    rw [Function.iterate_succ_apply', Function.iterate_succ_apply']
    exact unbatched_drainNext (ih fun k hk => hs k (Nat.lt_succ_of_lt hk)) (hs n n.lt_succ_self)

theorem threshold_iterate : (drainNext^[n] d).ring.threshold = d.ring.threshold := by
  induction n with
  | zero => rfl
  | succ n ih =>
    rw [Function.iterate_succ_apply', threshold_drainNext (hs n n.lt_succ_self)]
    exact ih fun k hk => hs k (Nat.lt_succ_of_lt hk)

/-- Every packet takes one entry, until there is no next packet. -/
theorem next?_iterate :
    (drainNext^[n] d).next? = none ∨
      (drainNext^[n] d).ring.entryCount.toNat + n = d.ring.entryCount.toNat := by
  induction n with
  | zero => exact .inr rfl
  | succ n ih =>
    rw [Function.iterate_succ_apply']
    by_cases h : (drainNext^[n] d).next? = none
    · rw [drainNext_of_none h]
      exact .inl h
    · have hcount := entryCount_drainNext (hs n n.lt_succ_self) h
      rcases ih fun k hk => hs k (Nat.lt_succ_of_lt hk) with hnone | hleft
      · exact absurd hnone h
      · right; omega

end Spares

/-- After as many packets as there are entries there is no next packet. -/
theorem next?_iterate_entryCount {d : Coprocessor}
    (hs : ∀ k < d.ring.entryCount.toNat, (drainNext^[k] d).NextSparesRing) :
    (drainNext^[d.ring.entryCount.toNat] d).next? = none := by
  rcases next?_iterate hs with h | h
  · exact h
  · have h0 : (drainNext^[d.ring.entryCount.toNat] d).ring.entryCount = 0 :=
      UInt32.toNat_inj.mp (by rw [UInt32.toNat_zero]; omega)
    exact if_neg (by simp [h0])

/-! ### Batches -/

section Batches

variable {d : Coprocessor}

theorem threshold_drain (hs : ∀ k < d.ring.batch.toNat, (drainNext^[k] d).NextSparesRing) :
    d.drain.ring.threshold = d.ring.threshold := by
  unfold drain
  split
  · obtain ⟨notice, h⟩ := d.drainUpTo_eq_iterate d.ring.batch.toNat
    rw [ring_updateThreshold, h, ring_noteAny, threshold_iterate hs]
  · rfl

/-- Drains with a threshold execute a batch of packets each. -/
theorem unbatched_drains (ht : d.ring.threshold ≠ 0)
    (hs : ∀ k, (drainNext^[k] d).NextSparesRing) (m : Nat) :
    (drain^[m] d).unbatched = (drainNext^[d.ring.threshold.toNat * m] d).unbatched ∧
      (drain^[m] d).ring.threshold = d.ring.threshold := by
  induction m with
  | zero => exact ⟨rfl, rfl⟩
  | succ m ih =>
    obtain ⟨hsame, hthreshold⟩ := ih
    have hbatch : (drain^[m] d).ring.batch = d.ring.threshold := by
      rw [Ring.batch, hthreshold, if_pos ht]
    -- the drains so far have come as far as the packets one by one
    have hs' (k : Nat) :
        (drainNext^[k] (drainNext^[d.ring.threshold.toNat * m] d)).NextSparesRing := by
      rw [← Function.iterate_add_apply]
      exact hs _
    have hiterate (k : Nat) := unbatched_iterate (n := k) (fun j _ => hs' j) hsame.symm
    rw [Function.iterate_succ_apply', unbatched_drain,
      threshold_drain fun k _ => nextSparesRing_congr (hiterate k) (hs' k), hbatch, ← hiterate,
      ← Function.iterate_add_apply, Nat.mul_succ, Nat.add_comm]
    exact ⟨rfl, hthreshold⟩

/-- **Batches do not show.** As many drains with a threshold as it takes for all entries do what
one drain without a threshold does, if no packet on the way sets up the ring. -/
theorem drain_batches (ht : d.ring.threshold ≠ 0)
    (hs : ∀ k < d.ring.entryCount.toNat, (d.drainUpTo k).NextSparesRing) :
    (drain^[(d.ring.entryCount.toNat + d.ring.threshold.toNat - 1) / d.ring.threshold.toNat]
        d).unbatched =
      (d.setRing { d.ring with threshold := 0 }).drain.unbatched := by
  have hall : ∀ k < d.ring.entryCount.toNat, (drainNext^[k] d).NextSparesRing := fun k hk =>
    nextSparesRing_congr (d.unbatched_drainUpTo k) (hs k hk)
  have hend := next?_iterate_entryCount hall
  have hfixed {m : Nat} (hm : d.ring.entryCount.toNat ≤ m) :
      drainNext^[m] d = drainNext^[d.ring.entryCount.toNat] d := by
    rw [← Nat.sub_add_cancel hm, Function.iterate_add_apply, iterate_drainNext_of_none hend]
  have hspares (k : Nat) : (drainNext^[k] d).NextSparesRing := by
    rcases Nat.lt_or_ge k d.ring.entryCount.toNat with hk | hk
    · exact hall k hk
    · rw [hfixed hk]
      intro found hfound
      rw [hend] at hfound
      cases hfound
  have hpos : 0 < d.ring.threshold.toNat := UInt32.pos_iff_ne_zero.mpr ht
  -- the batches are enough for every entry
  have henough : d.ring.entryCount.toNat ≤ d.ring.threshold.toNat *
      ((d.ring.entryCount.toNat + d.ring.threshold.toNat - 1) / d.ring.threshold.toNat) := by
    have := Nat.lt_mul_div_succ (d.ring.entryCount.toNat + d.ring.threshold.toNat - 1) hpos
    rw [Nat.mul_succ] at this
    omega
  have hone : (d.setRing { d.ring with threshold := 0 }).drain.unbatched =
      (drainNext^[d.ring.entryCount.toNat] d).unbatched := by
    rw [unbatched_drain]
    exact (unbatched_iterate (e := d.setRing { d.ring with threshold := 0 }) hall rfl).symm
  rw [(unbatched_drains ht hspares _).1, hfixed henough, hone]

end Batches

/-! ### A stream in batches -/

theorem Loaded.nextSparesRing {d : Coprocessor} {ms : List Ring.Message} (h : d.Loaded ms) :
    d.NextSparesRing := by
  intro found hfound
  cases ms with
  | nil =>
    have h0 : d.ring.entryCount = 0 := UInt32.toNat_inj.mp h.count
    have hnone : d.next? = none := if_neg (by simp [h0])
    rw [hnone] at hfound
    cases hfound
  | cons m ms =>
    have hfetch := (next?_eq_some hfound).2.2
    rw [h.fetch] at hfetch
    rw [show found = (m.header, m.packet) from (Except.ok.inj hfetch).symm,
      packetWrites_message h.words h.laid.1]
    exact fun w hw => (h.writes_plain w hw).sparesRing

/-- The packets of a stream spare the ring. -/
theorem Loaded.nextSparesRing_drainUpTo {d : Coprocessor} {ms : List Ring.Message}
    (h : d.Loaded ms) {k : Nat} (hk : k ≤ ms.length) : (d.drainUpTo k).NextSparesRing := by
  rw [← List.take_append_drop k ms] at h
  have hrest := (Loaded.run _ _ h).2
  rw [List.length_take_of_le hk] at hrest
  exact hrest.nextSparesRing

/-- A ring in the second page of the frame buffer that drains packet by packet, with two entries. -/
def oneByOne : Coprocessor := ((create .mb8).writeIndex 0x93 0x201003).writeIndex 0x94 2

/-- Two drains of one packet each do what one drain of both does. -/
theorem drain_batches_one_by_one :
    (oneByOne.storeMessages singleThenGroup).ring.threshold = 1 ∧
      (∀ k < 2, ((oneByOne.storeMessages singleThenGroup).drainUpTo k).NextSparesRing) ∧
      (drain^[2] (oneByOne.storeMessages singleThenGroup)).unbatched =
        ((oneByOne.storeMessages singleThenGroup).setRing
          { (oneByOne.storeMessages singleThenGroup).ring with threshold := 0 }).drain.unbatched := by
  have hstands : oneByOne.ring.Stands (oneByOne.storeMessages singleThenGroup).memory.frame 0
      (singleThenGroup.flatMap Ring.Message.words) :=
    stands_storeWords (by decide +kernel) (by decide +kernel) 0 (by decide +kernel)
  have hloaded : (oneByOne.storeMessages singleThenGroup).Loaded singleThenGroup :=
    { enabled := by decide +kernel
      words := by decide +kernel
      readPtr := by decide +kernel
      count := by decide +kernel
      laid := ⟨hstands.mid [] _ _, hstands.mid [_, _] _ [], trivial⟩
      plain := Aperture.Layout.plain_of_all (by decide +kernel) }
  have hthreshold : (oneByOne.storeMessages singleThenGroup).ring.threshold = 1 := by
    decide +kernel
  have hcount : (oneByOne.storeMessages singleThenGroup).ring.entryCount = 2 := by decide +kernel
  have hspares : ∀ k < 2,
      ((oneByOne.storeMessages singleThenGroup).drainUpTo k).NextSparesRing := fun k hk =>
    hloaded.nextSparesRing_drainUpTo (Nat.le_of_lt hk)
  have hbatches := drain_batches (d := oneByOne.storeMessages singleThenGroup)
    (by rw [hthreshold]; decide) (by rw [hcount]; exact hspares)
  have htwo : ((2 : UInt32).toNat + (1 : UInt32).toNat - 1) / (1 : UInt32).toNat = 2 := by decide
  rw [hcount, hthreshold, htwo] at hbatches
  exact ⟨hthreshold, hspares, hbatches⟩

end PumaBoard.Coprocessor
