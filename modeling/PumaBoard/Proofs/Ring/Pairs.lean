import PumaBoard.Coprocessor.Bus
import PumaBoard.Proofs.Coprocessor.Outside
import PumaBoard.Proofs.Ring.Step

/-!
The two ways to write a register, through the ring and directly, do the same. Each pair that the
host pushes is executed at once, so between two pairs the ring is empty, and what a pair leaves
behind are its own words in the ring and a read pointer that moved on.
-/

namespace PumaBoard.Coprocessor

/-! ### A ring ready for the next pair -/

/-- The coprocessor and its ring are enabled, the ring has words, lies in the frame buffer, is
empty and is about to read a pair, and the threshold flag is clear. -/
structure RingReady (d : Coprocessor) : Prop where
  enabled : d.enabled = true
  ringEnabled : d.ring.enabled = true
  words : d.ring.words ≠ 0
  inside : d.ring.stop ≤ d.layout.frameSize
  readPtr : d.ring.readPtr < d.ring.words
  even : d.ring.readPtr.toNat % 2 = 0
  empty : d.ring.entryCount = 0
  flag : d.status.ringFull = false

/-- The address of word `w` of the ring in the aperture. -/
def ringAddress (d : Coprocessor) (w : Nat) : UInt32 := d.layout.frameStart + d.ringOffset w

theorem ringAddress_congr {d e : Coprocessor} {x : UInt32} (hlayout : e.layout = d.layout)
    (hring : e.ring = { d.ring with readPtr := x }) : e.ringAddress = d.ringAddress := by
  funext w
  rw [ringAddress, ringAddress, ringOffset, ringOffset, hlayout, hring]; rfl

/-- Pushes a pair into the ring: two words written through the aperture, at word `w` of the ring and
the word after it. -/
def pushPair (address : Nat → UInt32) (d : Coprocessor) (w : Nat) (pair : UInt32 × UInt32) :
    Coprocessor :=
  (d.write32 (address w) pair.1).write32 (address (w + 1)) pair.2

/-! ### Words of the host -/

section Words

variable {d : Coprocessor} (hw : d.ring.words ≠ 0) (w : Nat)

include hw

theorem contains_ringOffset : d.ring.contains (d.ringOffset w) = true := by
  have := d.ring.start_le_place w
  have := d.ring.place_add_four_le hw w
  simp only [Ring.contains, Bool.and_eq_true, decide_eq_true_eq, UInt32.le_iff_toNat_le,
    UInt32.lt_iff_toNat_lt, toNat_ringOffset hw]
  omega

theorem lane_ringOffset :
    (d.ringOffset w - d.ring.start) &&& 7 = UInt32.ofNat (4 * (w % 2)) := by
  have hle : d.ring.start ≤ d.ringOffset w := by
    rw [UInt32.le_iff_toNat_le, toNat_ringOffset hw]
    exact d.ring.start_le_place w
  apply UInt32.toNat_inj.mp
  rw [Ring.toNat_sub_start_and hle, toNat_ringOffset hw]
  refine (d.ring.place_sub_start_mod w).trans (UInt32.toNat_ofNat_of_lt' ?_).symm
  have := Nat.mod_lt w (show 0 < 2 by omega)
  simp only [UInt32.size]; omega

theorem decode_ringAddress (hin : d.ring.stop ≤ d.layout.frameSize) :
    d.layout.decode (d.ringAddress w) = .frame (d.ringOffset w) := by
  have hlt : d.ringOffset w < d.layout.frameSize := by
    rw [UInt32.lt_iff_toNat_lt, toNat_ringOffset hw]
    rw [UInt32.le_iff_toNat_le] at hin
    have := d.ring.place_add_four_le hw w
    omega
  have h0 : d.layout.frameStart = 0 := by
    unfold layout; cases d.memory.mode <;> rfl
  simp only [Aperture.Layout.decode, Aperture.Layout.inFrame, ringAddress, h0, UInt32.zero_add,
    UInt32.sub_zero, hlt, UInt32.zero_le, decide_true, Bool.and_self, if_true]

/-- A word written to the ring through the aperture is a word written into the ring. -/
theorem write32_ringAddress (he : d.enabled = true) (hr : d.ring.enabled = true)
    (hin : d.ring.stop ≤ d.layout.frameSize) (v : UInt32) :
    d.write32 (d.ringAddress w) v =
      if w % 2 = 0 then d.storeFrame (d.ringOffset w) v
      else (d.storeFrame (d.ringOffset w) v).countEntry.drain := by
  have hc := contains_ringOffset hw w
  simp only [write32, he, if_true, decode_ringAddress hw w hin, writeRegion, hr, hc, Bool.and_self,
    writeRing, lane_ringOffset hw w]
  rcases Nat.mod_two_eq_zero_or_one w with h | h <;> simp [h]

end Words

/-! ### One pending packet -/

theorem countEntry_or (d : Coprocessor) :
    d.countEntry = d.setRing d.ring.countEntry ∨
      d.ring.threshold ≠ 0 ∧
        d.countEntry =
          (d.setRing d.ring.countEntry).setStatus { d.status with ringFull := true } := by
  rw [countEntry_eq]
  split
  · next h => exact .inr ⟨of_decide_eq_true (Bool.and_eq_true_iff.mp h).1, rfl⟩
  · exact .inl rfl

theorem batch_pos {r : Ring} (h : r.entryCount ≠ 0) : ∃ n, r.batch.toNat = n + 1 := by
  have hb : r.batch ≠ 0 := by
    unfold Ring.batch; split
    · assumption
    · exact h
  exact Nat.exists_eq_succ_of_ne_zero fun h0 => hb (UInt32.toNat_inj.mp h0)

theorem updateThreshold_of_clear {d : Coprocessor} (h : d.status.ringFull = false) :
    d.updateThreshold = d := by
  rw [updateThreshold_eq, ← h]
  exact ite_self d

theorem updateThreshold_of_lt {d : Coprocessor} (h : d.ring.entryCount < d.ring.threshold) :
    d.updateThreshold = d.setStatus { d.status with ringFull := false } := by
  rw [updateThreshold_eq, if_pos h]

theorem drain_one {d : Coprocessor} {header : UInt32} {p : Ring.Packet}
    (he : d.ring.enabled = true) (hc : d.ring.entryCount = 1) (hf : d.fetch = .ok (header, p))
    (hs : ∀ w ∈ d.packetWrites p, d.layout.SparesRing w.1) :
    d.drain =
      (((d.noteAny (packetNotice header p)).writePages (d.packetWrites p)).setRing
        (d.ring.advance p.length).retireEntry).updateThreshold := by
  have hc0 : d.ring.entryCount ≠ 0 := by rw [hc]; decide
  have hempty : (d.ring.advance p.length).retireEntry.entryCount = 0 := by
    unfold Ring.advance Ring.retireEntry
    split <;> simp [hc]
  obtain ⟨n, hn⟩ := batch_pos hc0
  rw [drain, if_pos (by simp [he, hc]), hn, drainUpTo_step he hc0 hf hs, drainUpTo_empty hempty]

/-- The page writes of a pair whose header has the top bit clear. -/
def pairWrites (pair : UInt32 × UInt32) : List (UInt32 × UInt32) :=
  if pair.1 = 0 ∧ pair.2 = 0 then [] else [(Ring.Packet.page pair.1, pair.2)]

theorem packet_pair {pair : UInt32 × UInt32} (hsign : pair.1 &&& 0x80000000 = 0) :
    (∀ d : Coprocessor, d.packetWrites (.decode pair.1 pair.2) = pairWrites pair) ∧
      packetNotice pair.1 (.decode pair.1 pair.2) = none ∧
      (Ring.Packet.decode pair.1 pair.2).length = 2 := by
  unfold Ring.Packet.decode pairWrites
  split
  · exact ⟨fun _ => rfl, rfl, rfl⟩
  · rw [if_neg (not_not_intro hsign)]
    exact ⟨fun _ => rfl, rfl, rfl⟩

/-- A pair that stands at the read pointer is counted and drained at once: its write is carried
out, and the read pointer moves on. -/
theorem countEntry_drain {d : Coprocessor} (h : d.RingReady) {pair : UInt32 × UInt32}
    (hsign : pair.1 &&& 0x80000000 = 0) (hs : ∀ w ∈ pairWrites pair, d.layout.SparesRing w.1)
    (hh : Bytes.read32? d.memory.frame (d.ring.place d.ring.readPtr.toNat) = some pair.1)
    (hd : Bytes.read32? d.memory.frame (d.ring.place (d.ring.readPtr.toNat + 1)) = some pair.2) :
    d.countEntry.drain = (d.writePages (pairWrites pair)).setRing (d.ring.advance 2) := by
  obtain ⟨hwrites, hnotice, hlength⟩ := packet_pair hsign
  have hcount : d.ring.countEntry.entryCount = 1 := by simp [Ring.countEntry, h.empty]
  have hring : (d.ring.countEntry.advance 2).retireEntry = d.ring.advance 2 := by
    simp only [Ring.advance, show d.ring.countEntry.words = d.ring.words from rfl, if_neg h.words,
      Ring.retireEntry, hcount]
    simp [Ring.countEntry, h.empty]
  -- what a drain makes of the counted entry, whether or not counting it raised the flag
  have hstep (s : Status) : ((d.setRing d.ring.countEntry).setStatus s).drain =
      (((d.writePages (pairWrites pair)).setStatus s).setRing
        (d.ring.advance 2)).updateThreshold := by
    have hf : ((d.setRing d.ring.countEntry).setStatus s).fetch =
        .ok (pair.1, .decode pair.1 pair.2) := fetch_eq h.readPtr h.words hh hd
    have hpages : ((d.setRing d.ring.countEntry).setStatus s).writePages (pairWrites pair) =
        ((d.writePages (pairWrites pair)).setRing d.ring.countEntry).setStatus s :=
      (setStatus_writePages (d := d.setRing d.ring.countEntry) hs s).trans
        (congrArg (setStatus · s) (setRing_writePages hs d.ring.countEntry))
    rw [drain_one (d := (d.setRing d.ring.countEntry).setStatus s) h.ringEnabled hcount hf
      (by rw [hwrites]; exact hs), hwrites, hnotice, hlength, noteAny, hpages]
    exact congrArg (fun r => updateThreshold (setRing _ r)) hring
  have hclear : { d.status with ringFull := false } = d.status := by rw [← h.flag]
  have hsame : (d.writePages (pairWrites pair)).setStatus d.status =
      d.writePages (pairWrites pair) := by
    rw [← status_writePages hs]; rfl
  rcases countEntry_or d with hc | ⟨ht, hc⟩
  · have hz := hstep d.status
    rw [hsame] at hz
    rw [hc]
    refine hz.trans (updateThreshold_of_clear ?_)
    exact (congrArg (·.ringFull) (status_writePages hs)).trans h.flag
  · rw [hc, hstep]
    refine (updateThreshold_of_lt ?_).trans ?_
    · show (d.ring.advance 2).entryCount < (d.ring.advance 2).threshold
      rw [Ring.advance, if_neg h.words]
      exact h.empty ▸ UInt32.pos_iff_ne_zero.mpr ht
    · exact congrArg (setRing · (d.ring.advance 2)) ((congrArg (setStatus _) hclear).trans hsame)

/-! ### A pushed pair -/

/-- Stores a pair of words in the ring, at word `w` and the word after it. -/
def storePair (d : Coprocessor) (w : Nat) (pair : UInt32 × UInt32) : Coprocessor :=
  (d.storeFrame (d.ringOffset w) pair.1).storeFrame (d.ringOffset (w + 1)) pair.2

theorem read_storePair {d : Coprocessor} (hw : d.ring.words ≠ 0)
    (hin : d.ring.stop ≤ d.layout.frameSize) {w : Nat} (heven : w % 2 = 0)
    (pair : UInt32 × UInt32) :
    Bytes.read32? (d.storePair w pair).memory.frame (d.ring.place w) = some pair.1 ∧
      Bytes.read32? (d.storePair w pair).memory.frame (d.ring.place (w + 1)) = some pair.2 := by
  have hsize : d.memory.frame.size = d.layout.frameSize.toNat := d.memory.frame_size
  have hnext := d.ring.place_succ_of_even heven
  have hle := d.ring.place_add_four_le hw (w + 1)
  rw [UInt32.le_iff_toNat_le] at hin
  have hframe : (d.storePair w pair).memory.frame =
      Bytes.write32 (Bytes.write32 d.memory.frame (d.ring.place w) pair.1) (d.ring.place (w + 1))
        pair.2 := by
    rw [← toNat_ringOffset hw w, ← toNat_ringOffset hw (w + 1)]; rfl
  rw [hframe]
  refine ⟨?_, Bytes.read32?_write32_same (by rw [Bytes.size_write32]; omega)⟩
  rw [Bytes.read32?_write32_of_disjoint (by omega), Bytes.read32?_write32_same (by omega)]

/-- **A pushed pair is executed at once.** -/
theorem pushPair_eq {d : Coprocessor} (h : d.RingReady) {pair : UInt32 × UInt32}
    (hsign : pair.1 &&& 0x80000000 = 0) (hs : ∀ w ∈ pairWrites pair, d.layout.SparesRing w.1) :
    d.pushPair d.ringAddress d.ring.readPtr.toNat pair =
      ((d.storePair d.ring.readPtr.toNat pair).writePages (pairWrites pair)).setRing
        (d.ring.advance 2) := by
  have hodd : (d.ring.readPtr.toNat + 1) % 2 ≠ 0 := by have := h.even; omega
  obtain ⟨hh, hd⟩ := read_storePair h.words h.inside h.even pair
  rw [pushPair, write32_ringAddress h.words _ h.enabled h.ringEnabled h.inside, if_pos h.even]
  have hsecond := write32_ringAddress (d := d.storeFrame (d.ringOffset d.ring.readPtr.toNat) pair.1)
    h.words (d.ring.readPtr.toNat + 1) h.enabled h.ringEnabled h.inside pair.2
  rw [if_neg hodd] at hsecond
  have hready : (d.storePair d.ring.readPtr.toNat pair).RingReady := { h with }
  exact hsecond.trans (countEntry_drain hready hsign hs hh hd)

theorem RingReady.setRing_advance {d : Coprocessor} (h : d.RingReady) {e : Coprocessor}
    (henabled : e.enabled = d.enabled) (hlayout : e.layout = d.layout)
    (hstatus : e.status = d.status) : (e.setRing (d.ring.advance 2)).RingReady := by
  have hadvance := Ring.advance_of_lt h.readPtr (show (2 : UInt32).toNat < 0x80000000 by decide)
  have hlt := Nat.mod_lt (d.ring.readPtr.toNat + 2) (Ring.words_pos h.words)
  have hptr : (UInt32.ofNat ((d.ring.readPtr.toNat + 2) % d.ring.words.toNat)).toNat =
      (d.ring.readPtr.toNat + 2) % d.ring.words.toNat :=
    UInt32.toNat_ofNat_of_lt' (Nat.lt_trans hlt d.ring.words.toNat_lt)
  rw [hadvance]
  exact
    { enabled := henabled.trans h.enabled
      ringEnabled := h.ringEnabled
      words := h.words
      inside := le_of_le_of_eq h.inside (congrArg (·.frameSize) hlayout.symm)
      readPtr := UInt32.lt_iff_toNat_lt.mpr (lt_of_eq_of_lt hptr hlt)
      even := by
        refine (congrArg (· % 2) hptr).trans ?_
        have hdvd := Nat.dvd_of_mod_eq_zero d.ring.words_even
        rw [Nat.mod_mod_of_dvd _ hdvd, Nat.add_mod_right]
        exact h.even
      empty := h.empty
      flag := (congrArg (·.ringFull) hstatus).trans h.flag }

/-! ### The two ways side by side -/

/-- Writes a register directly, as the pair asks for: two zero words ask for nothing, and neither
does a header that names no page of the register window. -/
def writeDirect (d : Coprocessor) (pair : UInt32 × UInt32) : Coprocessor :=
  let page := (pair.1 >>> 2) &&& 0x1FFFFF
  if ¬ (pair.1 = 0 ∧ pair.2 = 0) ∧ page < d.layout.registerSize / 4096 then
    d.writeIndex (page &&& 0xFF) pair.2
  else d

/-- Pushes pairs into the ring, the first one at word `w`. -/
def pushPairs (address : Nat → UInt32) (d : Coprocessor) (w : Nat) :
    List (UInt32 × UInt32) → Coprocessor
  | [] => d
  | pair :: pairs => pushPairs address (d.pushPair address w pair) (w + 2) pairs

/-- The pair has a header with the top bit clear that names no register that sets up the ring. -/
structure PairOf (l : Aperture.Layout) (pair : UInt32 × UInt32) : Prop where
  sign : pair.1 &&& 0x80000000 = 0
  spares : l.SparesRing (Ring.Packet.page pair.1)

/-- The second coprocessor, written directly, mirrors the first one, written through its ring: they
agree outside the ring and in the status flags, and their rings in everything but the read
pointer. -/
structure Mirrors (p q : Coprocessor) : Prop where
  ready : p.RingReady
  alike : p.EqOutside p.ring.start.toNat p.ring.stop.toNat q
  status : p.status = q.status
  ring : p.ring = { q.ring with readPtr := p.ring.readPtr }

theorem register?_low (w : UInt32) : register? (w &&& 0xFF) = some (.ofWord w) := by
  have hlow : (w &&& 0xFF).toNat = w.toNat % 256 := by
    rw [UInt32.toNat_and]
    exact Nat.and_two_pow_sub_one_eq_mod w.toNat 8
  have hlt : (w &&& 0xFF).toNat < 256 := by rw [hlow]; exact Nat.mod_lt _ (by decide)
  rw [register?, dif_pos hlt]
  exact congrArg some (Fin.ext hlow)

theorem writeIndex_low (d : Coprocessor) (w v : UInt32) :
    d.writeIndex (w &&& 0xFF) v = d.writeRegister (.ofWord w) v := by
  rw [writeIndex, register?_low]

theorem pages_eq (d : Coprocessor) : d.layout.pages = d.layout.registerSize / 4096 := by
  unfold layout; cases d.memory.mode <;> rfl

/-- The page write of a pair is the direct write, up to a notice. -/
theorem writePages_pairWrites (d : Coprocessor) (pair : UInt32 × UInt32) :
    ∃ n, d.writePages (pairWrites pair) = (d.writeDirect pair).noteAny n := by
  unfold pairWrites writeDirect
  by_cases h0 : pair.1 = 0 ∧ pair.2 = 0
  · exact ⟨none, by rw [if_pos h0, if_neg (fun h => h.1 h0)]; rfl⟩
  rw [if_neg h0, ← pages_eq]
  show ∃ n, d.writePage (Ring.Packet.page pair.1) pair.2 = _
  unfold writePage Aperture.Layout.page?
  by_cases hp : Ring.Packet.page pair.1 < d.layout.pages
  · refine ⟨none, ?_⟩
    rw [if_pos hp, if_pos ⟨h0, hp⟩]
    exact (writeIndex_low ..).symm
  · exact ⟨some (.pageInvalid (Ring.Packet.page pair.1)), by
      rw [if_neg hp, if_neg (fun h => hp h.2)]; rfl⟩

namespace EqOutside

variable {lo hi : Nat} {p q : Coprocessor}

theorem of_noteAny {n : Option Notice} (h : EqOutside lo hi p (q.noteAny n)) :
    EqOutside lo hi p q := by
  cases n with
  | none => exact h
  | some n => exact { h with }

variable (h : EqOutside lo hi p q)

include h

theorem layout : p.layout = q.layout := congrArg Aperture.Mode.layout h.memory.mode

theorem writePage {page : UInt32} (hs : p.layout.SparesRing page) (v : UInt32) :
    EqOutside lo hi (p.writePage page v) (q.writePage page v) := by
  unfold Coprocessor.writePage
  rw [← h.layout]
  cases hr : p.layout.page? page with
  | none => exact h.note _ _
  | some r => exact h.writeRegister (hs r hr) v

theorem writePages {ws : List (UInt32 × UInt32)} (hs : ∀ w ∈ ws, p.layout.SparesRing w.1) :
    EqOutside lo hi (p.writePages ws) (q.writePages ws) := by
  induction ws generalizing p q with
  | nil => exact h
  | cons w ws ih =>
    obtain ⟨hw, hws⟩ := List.forall_mem_cons.mp hs
    exact ih (h.writePage hw w.2) (by rwa [layout_writePage])

end EqOutside

theorem PairOf.spares_pairWrites {l : Aperture.Layout} {pair : UInt32 × UInt32} (h : PairOf l pair) :
    ∀ w ∈ pairWrites pair, l.SparesRing w.1 := by
  intro w hw
  unfold Coprocessor.pairWrites at hw
  split at hw
  · cases hw
  · exact List.mem_singleton.mp hw ▸ h.spares

/-- A direct write that does not set up the ring leaves the ring and the status flags alone. -/
theorem writeDirect_spares {d : Coprocessor} {pair : UInt32 × UInt32} (h : PairOf d.layout pair) :
    (d.writeDirect pair).ring = d.ring ∧ (d.writeDirect pair).status = d.status := by
  obtain ⟨n, hdirect⟩ := writePages_pairWrites d pair
  refine ⟨?_, ?_⟩
  · rw [← ring_noteAny _ n, ← hdirect, ring_writePages h.spares_pairWrites]
  · rw [← status_noteAny _ n, ← hdirect, status_writePages h.spares_pairWrites]

/-- The pair goes where the read pointer stands, however many times `w` has gone around. -/
theorem pushPair_mod {d : Coprocessor} {w : Nat}
    (hw : d.ring.readPtr.toNat = w % d.ring.words.toNat) (pair : UInt32 × UInt32) :
    d.pushPair d.ringAddress w pair = d.pushPair d.ringAddress d.ring.readPtr.toNat pair := by
  have haddress (n : Nat) : d.ringAddress (w + n) = d.ringAddress (d.ring.readPtr.toNat + n) := by
    unfold ringAddress ringOffset
    rw [hw, Ring.place_add_mod]
  rw [pushPair, haddress 1, show d.ringAddress w = _ from haddress 0]; rfl

/-- Words stored in the ring are not seen outside of it. -/
theorem EqOutside.storePair_left {p q : Coprocessor}
    (h : p.EqOutside p.ring.start.toNat p.ring.stop.toNat q) (hw : p.ring.words ≠ 0) (w : Nat)
    (pair : UInt32 × UInt32) :
    (p.storePair w pair).EqOutside p.ring.start.toNat p.ring.stop.toNat q := by
  have hoff := toNat_ringOffset hw
  refine (h.storeFrame_left _ ?_ ?_).storeFrame_left _ ?_ ?_ <;> rw [hoff]
  · exact p.ring.start_le_place _
  · exact p.ring.place_add_four_le hw _
  · exact p.ring.start_le_place _
  · exact p.ring.place_add_four_le hw _

/-- **One pair keeps the two ways side by side.** -/
theorem Mirrors.push {p q : Coprocessor} (h : Mirrors p q) {pair : UInt32 × UInt32}
    (hpair : PairOf p.layout pair) {w : Nat}
    (hw : p.ring.readPtr.toNat = w % p.ring.words.toNat) :
    Mirrors (p.pushPair p.ringAddress w pair) (q.writeDirect pair) ∧
      (p.pushPair p.ringAddress w pair).ring =
        { p.ring with readPtr := UInt32.ofNat ((w + 2) % p.ring.words.toNat) } ∧
      (p.pushPair p.ringAddress w pair).layout = p.layout := by
  have hs := hpair.spares_pairWrites
  rw [pushPair_mod hw, pushPair_eq h.ready hpair.sign hs]
  obtain ⟨n, hdirect⟩ := writePages_pairWrites q pair
  obtain ⟨hring, hstatus⟩ := writeDirect_spares (d := q) (h.alike.layout ▸ hpair)
  have hwritten := (h.alike.storePair_left h.ready.words p.ring.readPtr.toNat pair).writePages hs
  rw [hdirect] at hwritten
  have hadvance :=
    Ring.advance_of_lt h.ready.readPtr (show (2 : UInt32).toNat < 0x80000000 by decide)
  refine ⟨⟨?_, ?_, ?_, ?_⟩, ?_, ?_⟩
  · exact h.ready.setRing_advance (enabled_writePages ..) (layout_writePages ..)
      (status_writePages hs)
  · rw [hadvance]
    exact hwritten.of_noteAny.setRing_left _
  · rw [hstatus, ← h.status]
    exact status_writePages (d := p.storePair p.ring.readPtr.toNat pair) hs
  · have hr (x : UInt32) : { p.ring with readPtr := x } = { q.ring with readPtr := x } :=
      congrArg (fun r : Ring => { r with readPtr := x }) h.ring
    rw [hring, hadvance]
    exact hr _
  · have hptr : (p.ring.readPtr.toNat + (2 : UInt32).toNat) % p.ring.words.toNat =
        (w + 2) % p.ring.words.toNat := by rw [hw]; exact Nat.mod_add_mod ..
    rw [← hptr]
    exact hadvance
  · exact layout_writePages ..

/-- Any number of pairs keeps the two ways side by side. -/
theorem Mirrors.pushPairs {p q : Coprocessor} (h : Mirrors p q) {w : Nat}
    (hw : p.ring.readPtr.toNat = w % p.ring.words.toNat) {pairs : List (UInt32 × UInt32)}
    (hpairs : ∀ pair ∈ pairs, PairOf p.layout pair) :
    Mirrors (pushPairs p.ringAddress p w pairs) (pairs.foldl writeDirect q) ∧
      (pushPairs p.ringAddress p w pairs).ring =
        { p.ring with
          readPtr := UInt32.ofNat ((w + 2 * pairs.length) % p.ring.words.toNat) } := by
  induction pairs generalizing p q w with
  | nil =>
    refine ⟨h, ?_⟩
    have hptr : UInt32.ofNat (w % p.ring.words.toNat) = p.ring.readPtr := by
      rw [← hw]; exact UInt32.ofNat_toNat
    show p.ring = { p.ring with readPtr := UInt32.ofNat (w % p.ring.words.toNat) }
    rw [hptr]
  | cons pair pairs ih =>
    obtain ⟨hpair, hpairs⟩ := List.forall_mem_cons.mp hpairs
    obtain ⟨hnext, hring, hlayout⟩ := h.push hpair hw
    have hptr : (p.pushPair p.ringAddress w pair).ring.readPtr.toNat =
        (w + 2) % (p.pushPair p.ringAddress w pair).ring.words.toNat := by
      rw [hring]
      exact UInt32.toNat_ofNat_of_lt' (Nat.lt_trans (Nat.mod_lt _ (Ring.words_pos h.ready.words))
        p.ring.words.toNat_lt)
    have hrest := ih hnext hptr (by rwa [hlayout])
    -- the pair moved the read pointer alone, so the words of the ring are where they were
    rw [ringAddress_congr hlayout hring] at hrest
    refine ⟨hrest.1, hrest.2.trans ?_⟩
    have hsum : w + 2 + 2 * pairs.length = w + 2 * (pairs.length + 1) := by omega
    rw [hring, List.length_cons, hsum]; rfl

theorem Mirrors.refl {d : Coprocessor} (h : d.RingReady) : Mirrors d d := ⟨h, .refl d, rfl, rfl⟩

/-- **The ring and the direct way agree.** Pairs pushed into a ready ring, any number of times
around it, leave the coprocessor as the direct writes do, and make the same calls. What differs
are the bytes of the frame buffer inside the ring, also in the frame buffer lent to a call, and the
read pointer, which has moved two words for every pair. -/
theorem pushPairs_direct {d : Coprocessor} (h : d.RingReady) {pairs : List (UInt32 × UInt32)}
    (hpairs : ∀ pair ∈ pairs, PairOf d.layout pair) :
    (d.pushPairs d.ringAddress d.ring.readPtr.toNat pairs).EqOutside
        d.ring.start.toNat d.ring.stop.toNat (pairs.foldl writeDirect d) ∧
      (d.pushPairs d.ringAddress d.ring.readPtr.toNat pairs).status =
        (pairs.foldl writeDirect d).status ∧
      (d.pushPairs d.ringAddress d.ring.readPtr.toNat pairs).ring =
        { (pairs.foldl writeDirect d).ring with
          readPtr := UInt32.ofNat
            ((d.ring.readPtr.toNat + 2 * pairs.length) % d.ring.words.toNat) } := by
  have hw : d.ring.readPtr.toNat = d.ring.readPtr.toNat % d.ring.words.toNat :=
    (Nat.mod_eq_of_lt (UInt32.lt_iff_toNat_lt.mp h.readPtr)).symm
  obtain ⟨hmirrors, hring⟩ := (Mirrors.refl h).pushPairs hw hpairs
  refine ⟨?_, hmirrors.status, ?_⟩
  · have halike := hmirrors.alike
    rw [hring] at halike
    exact halike
  · have := hmirrors.ring
    rw [hring] at this ⊢
    exact this

theorem pushPairs_direct_colour :
    ((create .mb8).writeIndex 0x93 0x1003).RingReady ∧
      ((((create .mb8).writeIndex 0x93 0x1003).pushPairs
          ((create .mb8).writeIndex 0x93 0x1003).ringAddress 0 [(0, 0), (0x158, 0xFF)]).regs.get
        Register.colour0 = 0xFF) := by
  have h : ((create .mb8).writeIndex 0x93 0x1003).RingReady :=
    { enabled := by decide +kernel
      ringEnabled := by decide +kernel
      words := by decide +kernel
      inside := by decide +kernel
      readPtr := by decide +kernel
      even := by decide +kernel
      empty := by decide +kernel
      flag := by decide +kernel }
  have hpairs : ∀ pair ∈ [((0 : UInt32), (0 : UInt32)), (0x158, 0xFF)],
      PairOf ((create .mb8).writeIndex 0x93 0x1003).layout pair := by
    intro pair hpair
    simp only [List.mem_cons, List.not_mem_nil, or_false] at hpair
    rcases hpair with rfl | rfl
    · exact ⟨by decide, by unfold Aperture.Layout.SparesRing; decide +kernel⟩
    · exact ⟨by decide, by unfold Aperture.Layout.SparesRing; decide +kernel⟩
  refine ⟨h, (congrArg (·.get Register.colour0) (pushPairs_direct h hpairs).1.regs).trans ?_⟩
  decide +kernel

end PumaBoard.Coprocessor
