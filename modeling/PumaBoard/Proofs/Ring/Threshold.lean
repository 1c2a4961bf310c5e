import PumaBoard.Proofs.Coprocessor.Restore
import PumaBoard.Proofs.Ring.Containment
import PumaBoard.Proofs.Word.Lanes

/-!
The threshold flag. A new entry may raise the flag before the ring is drained, and the drain may
take it back at its end. Between them they leave the flag to show whether the ring holds as many
entries as the threshold says, whatever the flag was before and however far the drain has come.
-/

namespace PumaBoard.Coprocessor

/-! ### The flag -/

section Flag

variable (d : Coprocessor)

/-- The threshold flag in the status register. -/
def showsFull : Bool := Word.bit (d.readIndex 0) 16

theorem showsFull_eq : d.showsFull = d.status.ringFull := by
  have hflag : d.status.bits.toNat.testBit 16 = d.status.ringFull :=
    (Word.bit_ofNat _ (by decide)).symm.trans (congrArg (·.ringFull) d.status.ofBits_bits)
  -- the pending swaps stand above the flags
  have hpending : ((d.swap.pending &&& 7).toUInt32 <<< 28).toNat.testBit 16 = false := by
    rw [Word.testBit_shiftLeft _ (by decide)]
    rfl
  show Word.bit d.statusValue (UInt32.ofNat 16) = _
  rw [Word.bit_ofNat _ (by decide), statusValue, UInt32.toNat_or, Nat.testBit_or, hflag, hpending,
    Bool.or_false]

/-- A new entry raises the flag if a threshold is reached, and does not take it back. -/
theorem ringFull_countEntry :
    d.countEntry.status.ringFull =
      (d.status.ringFull || decide (d.ring.threshold ≠ 0) &&
        decide (d.ring.threshold ≤ d.ring.countEntry.entryCount)) := by
  rw [countEntry_eq]
  split
  · next h => exact (congrArg (d.status.ringFull || ·) h).trans (Bool.or_true _) |>.symm
  · next h =>
    refine ((congrArg (d.status.ringFull || ·) (Bool.eq_false_of_not_eq_true h)).trans ?_).symm
    exact Bool.or_false _

theorem ringFull_updateThreshold :
    d.updateThreshold.status.ringFull =
      (d.status.ringFull && decide (d.ring.threshold ≤ d.ring.entryCount)) := by
  rw [updateThreshold_eq]
  split
  · next h => rw [decide_eq_false (UInt32.not_le.mpr h), Bool.and_false]; rfl
  · next h => rw [decide_eq_true (UInt32.not_lt.mp h), Bool.and_true]

end Flag

/-! ### Drains that spare the ring -/

/-- No packet that the drain executes sets up the ring. -/
def DrainSparesRing (d : Coprocessor) : Prop :=
  ∀ xs e, d.Executes xs e → xs.length ≤ d.limit → ∀ x ∈ xs, x.SparesRing d.layout

/-- A stream of messages spares the ring. -/
theorem Loaded.sparesRing {d e : Coprocessor} {ms : List Ring.Message} {xs : List Ring.Executed}
    (h : d.Loaded ms) (hrun : d.Executes xs e) : ∀ x ∈ xs, x.SparesRing d.layout := by
  induction hrun generalizing ms with
  | none => exact List.forall_mem_nil _
  | @packet d e header p xs next rest ih =>
    cases ms with
    | nil => exact absurd (UInt32.toNat_inj.mp h.count) (next?_eq_some next).2.1
    | cons m ms =>
      have hstep : d.drainNext = d.consume m := (drainUpTo_one next).symm.trans (h.step 0)
      have hloaded : d.drainNext.Loaded ms := hstep ▸ h.consume
      have hrest := ih hloaded
      rw [layout_drainNext] at hrest
      exact List.forall_mem_cons.mpr ⟨h.nextSparesRing _ next, hrest⟩

theorem Loaded.drainSparesRing {d : Coprocessor} {ms : List Ring.Message} (h : d.Loaded ms) :
    d.DrainSparesRing := fun _ _ hrun _ => h.sparesRing hrun

/-- A drain that spares the ring leaves no more entries than there were, and takes the flag back if
they are fewer than the threshold says. -/
theorem ringFull_drain {d : Coprocessor} (hs : d.DrainSparesRing) (hon : d.ring.enabled = true)
    (hc : d.ring.entryCount ≠ 0) :
    d.drain.ring.entryCount ≤ d.ring.entryCount ∧
      d.drain.status.ringFull =
        (d.status.ringFull && decide (d.ring.threshold ≤ d.drain.ring.entryCount)) := by
  obtain ⟨xs, e, f, hrun, hlen, hend, hdrain⟩ := d.drain_ends
  obtain ⟨hpassed, hstatus⟩ := hrun.passed (hs xs e hrun hlen)
  have hentries := hpassed.entries
  rw [Drains, if_pos ⟨hon, hc⟩] at hdrain
  rw [hdrain, ringFull_updateThreshold, ring_updateThreshold, hend.ring, hend.status, hstatus,
    hpassed.threshold]
  exact ⟨UInt32.le_iff_toNat_le.mpr (by omega), rfl⟩

/-! ### Entries -/

theorem entryCount_countEntry_ne_zero (r : Ring) : r.countEntry.entryCount ≠ 0 := by
  unfold Ring.countEntry
  dsimp only
  split
  · next h => rw [h]; decide
  · next h =>
    have hlt : r.entryCount.toNat ≠ 0xFFFFFFFF := fun h' => h (UInt32.toNat_inj.mp h')
    have hbound := r.entryCount.toNat_lt
    rw [Ne, ← UInt32.toNat_inj, UInt32.toNat_add, UInt32.toNat_one, UInt32.toNat_zero]
    omega

/-- With a threshold the flag shows after an entry whether it is reached, and without one the flag
stays. -/
theorem ringFull_entry {d : Coprocessor} (hs : d.countEntry.DrainSparesRing)
    (hon : d.ring.enabled = true) :
    d.countEntry.drain.status.ringFull =
      if d.ring.threshold = 0 then d.status.ringFull
      else decide (d.ring.threshold ≤ d.countEntry.drain.ring.entryCount) := by
  obtain ⟨hle, hflag⟩ := ringFull_drain hs (by rw [ring_countEntry]; exact hon)
    (by rw [ring_countEntry]; exact entryCount_countEntry_ne_zero _)
  rw [ring_countEntry] at hle hflag
  have hthreshold : d.ring.countEntry.threshold = d.ring.threshold := rfl
  rw [hflag, ringFull_countEntry, hthreshold]
  split
  · next ht => simp [ht]
  · next ht =>
    by_cases hleft : d.ring.threshold ≤ d.countEntry.drain.ring.entryCount
    · -- what is left was there before the drain, so the entry raised the flag
      have hcounted := UInt32.le_trans hleft hle
      simp [ht, hleft, hcounted]
    · simp [hleft]

/-- **The threshold flag tells the truth.** After the second word of a pair whose drain spares the
ring, the flag shows whether the ring holds as many entries as the threshold says; without a
threshold it is what it was, and so it is after every other word written into the ring. -/
theorem threshold_flag (d : Coprocessor) (offset v : UInt32) :
    (d.ring.Accepts offset 4 → (d.storeFrame offset v).countEntry.DrainSparesRing →
      (d.ring.threshold ≠ 0 →
        ((d.writeRing offset v).showsFull = true ↔
          d.ring.threshold ≤ (d.writeRing offset v).ring.entryCount)) ∧
      (d.ring.threshold = 0 → (d.writeRing offset v).showsFull = d.showsFull)) ∧
    (¬ d.ring.Accepts offset 4 → (d.writeRing offset v).showsFull = d.showsFull) := by
  simp only [showsFull_eq]
  refine ⟨fun h hs => ?_, fun hsecond => ?_⟩
  · have hflag := ringFull_entry hs h.enabled
    rw [writeRing_second h, hflag]
    refine ⟨fun ht => ?_, fun ht => if_pos ht⟩
    rw [if_neg (show ¬ (d.storeFrame offset v).ring.threshold = 0 from ht)]
    exact decide_eq_true_iff
  · by_cases hfirst : d.ring.Accepts offset 0
    · rw [writeRing_first hfirst]
      rfl
    · obtain ⟨notice, hnotice⟩ := writeRing_refused (v := v) hfirst hsecond
      rw [hnotice, status_noteAny]

/-- A ring in the second page of the frame buffer that drains one packet at a time. -/
def oneAtATime : Coprocessor := ((create .mb8).writeIndex 0x93 0x201003).writeIndex 0x94 1

/-- Writes of two colours. -/
def twoColours : List Ring.Message :=
  [.single 0x160 0x1234 (by decide) (by decide), .single 0x158 0xFF (by decide) (by decide)]

/-- One entry is pending, and the next pair lacks its second word. -/
def halfPair : Coprocessor := oneAtATime.storeWords 0 [0x160, 0x1234, 0x158]

/-- The second of two entries raises the flag, and it stays, as one of them is left. -/
theorem threshold_flag_entry_left :
    halfPair.ring.Accepts 0x100C 4 ∧ (halfPair.storeFrame 0x100C 0xFF).countEntry.DrainSparesRing ∧
      halfPair.ring.threshold ≠ 0 ∧ (halfPair.writeRing 0x100C 0xFF).showsFull = true ∧
      (halfPair.writeRing 0x100C 0xFF).ring.entryCount = 1 := by
  have haccepts : halfPair.ring.Accepts 0x100C 4 :=
    { enabled := by decide
      start := by decide
      stop := by decide
      place := by decide }
  have hstands : oneAtATime.ring.Stands (halfPair.storeFrame 0x100C 0xFF).memory.frame 0
      (twoColours.flatMap Ring.Message.words) :=
    stands_storeWords (d := oneAtATime) (by decide) (by decide) 0 (by decide)
  have hloaded : (halfPair.storeFrame 0x100C 0xFF).countEntry.Loaded twoColours :=
    { enabled := by decide
      words := by decide
      readPtr := by decide
      count := by decide
      laid := by
        rw [ring_countEntry, memory_countEntry]
        exact ⟨hstands.mid [] _ _, hstands.mid [_, _] _ [], trivial⟩
      plain := Aperture.Layout.plain_of_all (by decide +kernel) }
  -- the drain executes the first write only
  have hcount : (halfPair.writeRing 0x100C 0xFF).ring.entryCount = 1 := by
    have hbatch : (halfPair.storeFrame 0x100C 0xFF).countEntry.ring.batch.toNat = 1 := by
      decide
    have hrun := (hloaded.run [twoColours[0]] [twoColours[1]]).1
    rw [writeRing_second haccepts, drain, if_pos (by decide), ring_updateThreshold, hbatch]
    exact congrArg (·.ring.entryCount) hrun
  have hspares := hloaded.drainSparesRing
  have hthreshold : halfPair.ring.threshold = 1 := by decide
  have hthreshold' : halfPair.ring.threshold ≠ 0 := by rw [hthreshold]; decide
  have hflag := ((threshold_flag halfPair 0x100C 0xFF).1 haccepts hspares).1 hthreshold'
  refine ⟨haccepts, hspares, hthreshold', hflag.mpr ?_, hcount⟩
  rw [hcount, hthreshold]
  decide

end PumaBoard.Coprocessor
