import PumaBoard.Proofs.Ring.Execution

/-!
The ring keeps to its window. Whatever its setup, the words counted from the read pointer are the
dwords between its two ends, each of them once around the ring; decoding a packet reads nothing
else, and a word written into the ring changes nothing else, unless a packet starts a fast fill.
-/

namespace PumaBoard

namespace Ring

/-! ### The window -/

theorem words_eq_zero_iff (r : Ring) : r.words = 0 ↔ r.stop ≤ r.start := by
  have hwords := r.four_mul_words
  rw [UInt32.le_iff_toNat_le, ← UInt32.toNat_inj, UInt32.toNat_zero]
  omega

/-- The dword at `a` is one of the ring: it lies between the ends, a whole number of dwords from the
start. -/
structure HasDword (r : Ring) (a : UInt32) : Prop where
  start : r.start ≤ a
  stop : a.toNat + 4 ≤ r.stop.toNat
  whole : (a.toNat - r.start.toNat) % 4 = 0

/-- The words counted from the read pointer are the dwords of the ring: an empty ring has none, the
address of a word is computed without overflow, and as many words in a row as the ring holds are
different dwords that cover it. -/
structure Tiled (r : Ring) : Prop where
  none_iff : ∀ n, r.wordAddress? n = none ↔ r.stop ≤ r.start
  place : ∀ n a, r.wordAddress? n = some a →
    a.toNat = r.start.toNat + 4 * ((r.readPtr.toNat + n.toNat) % r.words.toNat)
  inside : ∀ n a, r.wordAddress? n = some a → r.HasDword a
  distinct : ∀ first, first + r.words.toNat ≤ 2 ^ 32 → ∀ i < r.words.toNat, ∀ j < r.words.toNat,
    r.wordAddress? (UInt32.ofNat (first + i)) = r.wordAddress? (UInt32.ofNat (first + j)) → i = j
  covered : ∀ first, first + r.words.toNat ≤ 2 ^ 32 →
    ∀ o, r.start.toNat ≤ o → o < r.stop.toNat →
      ∃ i < r.words.toNat, ∃ a, r.wordAddress? (UInt32.ofNat (first + i)) = some a ∧
        a.toNat ≤ o ∧ o < a.toNat + 4

section Words

variable {r : Ring} {n a : UInt32}

theorem wordAddress?_eq_none_iff : r.wordAddress? n = none ↔ r.words = 0 := by
  unfold wordAddress?
  split
  · next h => simp [h]
  · next h => simp [h]

theorem words_ne_zero_of_address (h : r.wordAddress? n = some a) : r.words ≠ 0 := by
  intro h0
  rw [wordAddress?_eq_none_iff.mpr h0] at h
  cases h

theorem toNat_of_address (h : r.wordAddress? n = some a) :
    a.toNat = r.place (r.readPtr.toNat + n.toNat) := by
  obtain ⟨b, hb, hplace⟩ := toNat_wordAddress? (words_ne_zero_of_address h) n
  rw [h] at hb
  rw [Option.some.inj hb, hplace]

theorem hasDword_of_address (h : r.wordAddress? n = some a) : r.HasDword a := by
  have hw := words_ne_zero_of_address h
  have hplace := toNat_of_address h
  refine ⟨?_, ?_, ?_⟩
  · rw [UInt32.le_iff_toNat_le, hplace]
    exact r.start_le_place _
  · rw [hplace]
    exact r.place_add_four_le hw _
  · rw [hplace, place, Nat.add_sub_cancel_left]
    exact Nat.mul_mod_right 4 _

/-- Words less than one turn apart have different addresses. -/
theorem place_ne {w k : Nat} (hk : 0 < k) (hlt : k < r.words.toNat) :
    r.place w ≠ r.place (w + k) := by
  have := r.place_disjoint (w := w) hk hlt
  omega

/-- Every dword of the ring is met within one turn from any word on. -/
theorem exists_place (hw : r.words ≠ 0) (w : Nat) {q : Nat} (hq : q < r.words.toNat) :
    ∃ i < r.words.toNat, r.place (w + i) = r.start.toNat + 4 * q := by
  have hpos := words_pos hw
  have hlt := Nat.mod_lt w hpos
  -- go on to the end of the ring, and from its start to the dword
  refine ⟨(r.words.toNat - w % r.words.toNat + q) % r.words.toNat, Nat.mod_lt _ hpos, ?_⟩
  have hturn :
      (w + (r.words.toNat - w % r.words.toNat + q) % r.words.toNat) % r.words.toNat = q := by
    rw [Nat.add_mod_mod, ← Nat.mod_add_mod,
      show w % r.words.toNat + (r.words.toNat - w % r.words.toNat + q) = q + r.words.toNat by omega,
      Nat.add_mod_right, Nat.mod_eq_of_lt hq]
  rw [place, hturn]

end Words

theorem tiled (r : Ring) : r.Tiled where
  none_iff n := wordAddress?_eq_none_iff.trans r.words_eq_zero_iff
  place n a h := toNat_of_address h
  inside n a h := hasDword_of_address h
  distinct first hfirst i hi j hj h := by
    have hw : r.words ≠ 0 := fun h0 => by rw [h0] at hi; exact Nat.not_lt_zero i hi
    have hcount {k : Nat} (hk : k < r.words.toNat) :
        (UInt32.ofNat (first + k)).toNat = first + k :=
      UInt32.toNat_ofNat_of_lt' (by simp only [UInt32.size]; omega)
    obtain ⟨a, ha, hai⟩ := toNat_wordAddress? hw (UInt32.ofNat (first + i))
    have haj := toNat_of_address (h ▸ ha)
    rw [hcount hi] at hai
    rw [hcount hj, hai] at haj
    rcases Nat.lt_trichotomy i j with hlt | heq | hgt
    · refine absurd haj ?_
      rw [show r.readPtr.toNat + (first + j) = r.readPtr.toNat + (first + i) + (j - i) by omega]
      exact place_ne (by omega) (by omega)
    · exact heq
    · refine absurd haj.symm ?_
      rw [show r.readPtr.toNat + (first + i) = r.readPtr.toNat + (first + j) + (i - j) by omega]
      exact place_ne (by omega) (by omega)
  covered first hfirst o hstart hstop := by
    have hwords := r.four_mul_words
    have hw : r.words ≠ 0 := fun h0 => by
      rw [h0, UInt32.toNat_zero] at hwords
      omega
    obtain ⟨i, hi, hplace⟩ := exists_place hw (r.readPtr.toNat + first)
      (show (o - r.start.toNat) / 4 < r.words.toNat by omega)
    have hcount : (UInt32.ofNat (first + i)).toNat = first + i :=
      UInt32.toNat_ofNat_of_lt' (by simp only [UInt32.size]; omega)
    obtain ⟨a, ha, hai⟩ := toNat_wordAddress? hw (UInt32.ofNat (first + i))
    rw [hcount, ← Nat.add_assoc, hplace] at hai
    exact ⟨i, hi, a, ha, by omega, by omega⟩

end Ring

namespace Coprocessor

/-! ### What decoding reads -/

section Decoding

variable (d : Coprocessor)

/-- The number of words that decoding the packet at the read pointer reads: the header and the word
after it, and one word for every set bit of the mask of a group. -/
def wordsDecoded : Nat :=
  match d.fetch with
  | .ok (_, .group _ mask) => 2 + (Word.setBits mask).length
  | _ => 2

/-- The dwords of the frame buffer that decoding the packet at the read pointer reads. With the read
pointer outside the ring there are none. -/
def decodeReads : List UInt32 :=
  if d.ring.readPtr < d.ring.words then
    (List.range d.wordsDecoded).filterMap fun n => d.ring.wordAddress? (UInt32.ofNat n)
  else []

/-- Decoding the packet at the read pointer reads dwords of the ring, and what it finds there is all
that it depends on. -/
structure DecodesInside : Prop where
  inside : ∀ a ∈ d.decodeReads, d.ring.HasDword a
  enough : ∀ m : Aperture.Memory,
    (∀ a ∈ d.decodeReads, m.readFrame32? a = d.memory.readFrame32? a) →
      (d.setMemory m).fetch = d.fetch ∧
        ∀ header p, d.fetch = .ok (header, p) →
          (d.setMemory m).packetWrites p = d.packetWrites p

variable {d}

/-- A word that decoding reads is the same in every memory that holds the same there. -/
theorem ringWord?_setMemory {m : Aperture.Memory}
    (h : ∀ a ∈ d.decodeReads, m.readFrame32? a = d.memory.readFrame32? a)
    (hptr : d.ring.readPtr < d.ring.words) {n : Nat} (hn : n < d.wordsDecoded) :
    (d.setMemory m).ringWord? (UInt32.ofNat n) = d.ringWord? (UInt32.ofNat n) := by
  show (d.ring.wordAddress? _).bind m.readFrame32? =
    (d.ring.wordAddress? _).bind d.memory.readFrame32?
  cases ha : d.ring.wordAddress? (UInt32.ofNat n) with
  | none => rfl
  | some a =>
    refine h a ?_
    rw [decodeReads, if_pos hptr]
    exact List.mem_filterMap.mpr ⟨n, List.mem_range.mpr hn, ha⟩

theorem two_le_wordsDecoded : 2 ≤ d.wordsDecoded := by
  unfold wordsDecoded
  split
  · exact Nat.le_add_right 2 _
  · exact Nat.le_refl 2

theorem fetch_setMemory {m : Aperture.Memory}
    (h : ∀ a ∈ d.decodeReads, m.readFrame32? a = d.memory.readFrame32? a) :
    (d.setMemory m).fetch = d.fetch := by
  by_cases hptr : d.ring.readPtr < d.ring.words
  · have hword {n : Nat} (hn : n < 2) :
        (d.setMemory m).ringWord? (UInt32.ofNat n) = d.ringWord? (UInt32.ofNat n) :=
      ringWord?_setMemory h hptr (Nat.lt_of_lt_of_le hn two_le_wordsDecoded)
    have h0 : (d.setMemory m).ringWord? 0 = d.ringWord? 0 := hword (n := 0) (by decide)
    have h1 : (d.setMemory m).ringWord? 1 = d.ringWord? 1 := hword (n := 1) (by decide)
    rw [fetch, fetch, h0, h1]
    rfl
  · have hge := UInt32.not_lt.mp hptr
    rw [fetch, fetch, if_pos hge]
    exact if_pos hge

theorem packetWrites_setMemory {m : Aperture.Memory}
    (h : ∀ a ∈ d.decodeReads, m.readFrame32? a = d.memory.readFrame32? a) {header : UInt32}
    {p : Ring.Packet} (hp : d.fetch = .ok (header, p)) :
    (d.setMemory m).packetWrites p = d.packetWrites p := by
  cases p with
  | nop | single => rfl
  | group base mask =>
    have hptr := readPtr_lt_of_fetch hp
    have hcount : d.wordsDecoded = 2 + (Word.setBits mask).length := by
      rw [wordsDecoded, hp]
    refine List.map_congr_left fun x hx => ?_
    -- the data word of bit `k` stands behind the header, the mask and `k` other words
    have hk : x.2 < (Word.setBits mask).length := by
      have := List.snd_lt_of_mem_zipIdx hx
      omega
    have hword := ringWord?_setMemory h hptr (n := 2 + x.2) (by omega)
    rw [UInt32.ofNat_add] at hword
    exact congrArg (fun w => (base + x.1, w.getD 0)) hword

theorem decodesInside (d : Coprocessor) : d.DecodesInside where
  inside a ha := by
    unfold decodeReads at ha
    split at ha
    · obtain ⟨n, -, hn⟩ := List.mem_filterMap.mp ha
      exact Ring.hasDword_of_address hn
    · cases ha
  enough m h := ⟨fetch_setMemory h, fun _ _ hp => packetWrites_setMemory h hp⟩

end Decoding

end Coprocessor

/-! ### What a word written into the ring does -/

/-- The enabled ring takes a word at the offset: one in its window, the first word of a pair with
`place` 0 and the second one with `place` 4. -/
structure Ring.Accepts (r : Ring) (offset : UInt32) (place : Nat) : Prop where
  enabled : r.enabled = true
  start : r.start ≤ offset
  stop : offset < r.stop
  place : (offset.toNat - r.start.toNat) % 8 = place

namespace Ring.Accepts

variable {r : Ring} {offset : UInt32} {place : Nat} (h : r.Accepts offset place)

include h

theorem contains : r.contains offset = true := by
  simp only [Ring.contains, h.start, h.stop, decide_true, Bool.and_self]

theorem lane : ((offset - r.start) &&& 7).toNat = place :=
  (toNat_sub_start_and h.start).trans h.place

/-- A word that the ring takes stands between its ends. -/
theorem add_four_le (hplace : place % 4 = 0) : offset.toNat + 4 ≤ r.stop.toNat := by
  have hstart := r.start_mod
  have hstop := r.stop_mod
  have hle := UInt32.le_iff_toNat_le.mp h.start
  have hlt := UInt32.lt_iff_toNat_lt.mp h.stop
  have hat := h.place
  omega

end Ring.Accepts

namespace Coprocessor

section Writing

variable {d : Coprocessor} {offset v : UInt32}

theorem writeRing_first (h : d.ring.Accepts offset 0) :
    d.writeRing offset v = d.storeFrame offset v := by
  have hlane : (offset - d.ring.start) &&& 7 = 0 := UInt32.toNat_inj.mp h.lane
  rw [writeRing, if_pos h.enabled, if_pos h.contains, hlane]
  rfl

theorem writeRing_second (h : d.ring.Accepts offset 4) :
    d.writeRing offset v = (d.storeFrame offset v).countEntry.drain := by
  have hlane : (offset - d.ring.start) &&& 7 = 4 := UInt32.toNat_inj.mp h.lane
  rw [writeRing, if_pos h.enabled, if_pos h.contains, hlane]
  rfl

/-- A word that the ring does not take is at most told of. -/
theorem writeRing_refused (hfirst : ¬ d.ring.Accepts offset 0)
    (hsecond : ¬ d.ring.Accepts offset 4) :
    ∃ notice, d.writeRing offset v = d.noteAny notice := by
  unfold writeRing
  split
  · next hon =>
    split
    · next hin =>
      rw [Ring.contains, Bool.and_eq_true, decide_eq_true_eq, decide_eq_true_eq] at hin
      have haccepts {n : Nat} (h : ((offset - d.ring.start) &&& 7).toNat = n) :
          d.ring.Accepts offset n :=
        ⟨hon, hin.1, hin.2, (Ring.toNat_sub_start_and hin.1).symm.trans h⟩
      dsimp only
      rw [if_neg fun h => hfirst (haccepts (congrArg UInt32.toNat h)),
        if_neg fun h => hsecond (haccepts (congrArg UInt32.toNat h))]
      exact ⟨some _, rfl⟩
    · exact ⟨some _, rfl⟩
  · exact ⟨none, rfl⟩

end Writing

/-! ### Bytes that a drain changes -/

/-- Byte `i` of the frame buffer. -/
def frameByte (d : Coprocessor) (i : Nat) : UInt8 := Bytes.byteD d.memory.frame i

/-- A drain from `d` comes in the state `c` to the page write `w` of a packet. -/
inductive ComesToWrite (d : Coprocessor) : Coprocessor → UInt32 × UInt32 → Prop where
  | intro {b : Coprocessor} {xs : List Ring.Executed} {header : UInt32} {p : Ring.Packet}
      {before after : List (UInt32 × UInt32)} {w : UInt32 × UInt32} (run : d.Executes xs b)
      (within : xs.length < d.limit) (next : b.next? = some (header, p))
      (writes : b.packetWrites p = before ++ w :: after) :
      ComesToWrite d (((b.noteAny (packetNotice header p)).advance p).writePages before) w

section Changes

variable {d e f : Coprocessor} {xs : List Ring.Executed} {i : Nat}

theorem frameByte_noteAny (d : Coprocessor) (n : Option Notice) (i : Nat) :
    (d.noteAny n).frameByte i = d.frameByte i := by
  cases n <;> rfl

theorem frameByte_congr (h : e.memory = d.memory) (i : Nat) : e.frameByte i = d.frameByte i :=
  congrArg (fun m : Aperture.Memory => Bytes.byteD m.frame i) h

/-- A page write that changes the frame buffer is that of the fast fill command. -/
theorem page?_of_change {page v : UInt32} (h : (d.writePage page v).frameByte i ≠ d.frameByte i) :
    d.layout.page? page = some Register.fastFillCommand := by
  unfold writePage at h
  split at h
  · next r hr =>
    by_cases hfill : r = Register.fastFillCommand
    · rw [hr, hfill]
    · exact absurd (frameByte_congr (memory_writeRegister d v hfill) i) h
  · exact absurd rfl h

/-- Of page writes that change a byte one is the first to do so. -/
theorem exists_write_of_change {ws : List (UInt32 × UInt32)}
    (h : (d.writePages ws).frameByte i ≠ d.frameByte i) :
    ∃ before w after, ws = before ++ w :: after ∧
      ((d.writePages before).writePage w.1 w.2).frameByte i ≠
        (d.writePages before).frameByte i := by
  induction ws generalizing d with
  | nil => exact absurd rfl h
  | cons w ws ih =>
    by_cases hw : (d.writePage w.1 w.2).frameByte i = d.frameByte i
    · rw [← hw] at h
      obtain ⟨before, w', after, hws, hne⟩ := ih (d := d.writePage w.1 w.2) h
      exact ⟨w :: before, w', after, by rw [hws, List.cons_append], hne⟩
    · exact ⟨[], w, ws, rfl, hw⟩

/-- Of packets that change a byte one is the first to do so. -/
theorem Executes.exists_packet_of_change (h : d.Executes xs e)
    (hne : e.frameByte i ≠ d.frameByte i) :
    ∃ ys b header p, d.Executes ys b ∧ ys.length < xs.length ∧ b.next? = some (header, p) ∧
      b.drainNext.frameByte i ≠ b.frameByte i := by
  induction h with
  | none d => exact absurd rfl hne
  | @packet d e header p xs next rest ih =>
    by_cases hd : d.drainNext.frameByte i = d.frameByte i
    · rw [← hd] at hne
      obtain ⟨ys, b, header', p', hrun, hlen, hnext, hb⟩ := ih hne
      exact ⟨_ :: ys, b, header', p', .packet next hrun, Nat.succ_lt_succ hlen, hnext, hb⟩
    · exact ⟨[], d, header, p, .none d, Nat.succ_pos _, next, hd⟩

theorem Ends.frameByte {limit k : Nat} (h : e.Ends limit k f) (i : Nat) :
    f.frameByte i = e.frameByte i := by
  cases h <;> rfl

theorem Drains.frameByte (h : d.Drains f) (i : Nat) : d.drain.frameByte i = f.frameByte i := by
  unfold Drains at h
  split at h
  · rw [h, frameByte_congr f.memory_updateThreshold]
  · rw [h.1, h.2]

/-- A drain that changes a byte of the frame buffer comes to a fast fill that changes it. -/
theorem fill_of_drain_change (h : d.drain.frameByte i ≠ d.frameByte i) :
    ∃ c w, d.ComesToWrite c w ∧ c.layout.page? w.1 = some Register.fastFillCommand ∧
      (c.writePage w.1 w.2).frameByte i ≠ c.frameByte i := by
  obtain ⟨xs, e, f, hrun, hlen, hend, hdrain⟩ := d.drain_ends
  rw [hdrain.frameByte, hend.frameByte] at h
  obtain ⟨ys, b, header, p, hys, hlt, hnext, hb⟩ := hrun.exists_packet_of_change h
  have hpacket : b.drainNext.frameByte i = (b.executePacket header p).frameByte i := by
    rw [drainNext, hnext]
    rfl
  have hbefore : b.frameByte i = ((b.noteAny (packetNotice header p)).advance p).frameByte i :=
    (b.frameByte_noteAny _ i).symm
  rw [hpacket, executePacket_eq, hbefore] at hb
  obtain ⟨before, w, after, hwrites, hne⟩ := exists_write_of_change hb
  exact ⟨_, w, .intro hys (Nat.lt_of_lt_of_le hlt hlen) hnext hwrites, page?_of_change hne, hne⟩

end Changes

/-- A word written into the ring keeps to it. At an offset outside the window or between two words
it does nothing but give a notice. A byte outside the window changes by a fast fill alone, which a
packet of the drain starts. -/
structure WritesInside (d : Coprocessor) (offset v : UInt32) : Prop where
  refused : offset < d.ring.start ∨ d.ring.stop ≤ offset ∨
      (offset.toNat - d.ring.start.toNat) % 4 ≠ 0 →
    ∃ notice, d.writeRing offset v = d.noteAny notice
  outside : ∀ i, i < d.ring.start.toNat ∨ d.ring.stop.toNat ≤ i →
    (d.writeRing offset v).frameByte i ≠ d.frameByte i →
      ∃ c w, (d.storeFrame offset v).countEntry.ComesToWrite c w ∧
        c.layout.page? w.1 = some Register.fastFillCommand ∧
        (c.writePage w.1 w.2).frameByte i ≠ c.frameByte i

section Inside

variable {d : Coprocessor} {offset : UInt32} {place : Nat}

theorem frameByte_storeFrame (h : d.ring.Accepts offset place) (hplace : place % 4 = 0)
    (v : UInt32) {i : Nat} (hi : i < d.ring.start.toNat ∨ d.ring.stop.toNat ≤ i) :
    (d.storeFrame offset v).frameByte i = d.frameByte i := by
  have hle := UInt32.le_iff_toNat_le.mp h.start
  have hend := h.add_four_le hplace
  exact Bytes.byteD_write32_of_ne (by omega)

theorem writesInside (d : Coprocessor) (offset v : UInt32) : d.WritesInside offset v where
  refused h := by
    have hnot (place : Nat) (hplace : place % 4 = 0) : ¬ d.ring.Accepts offset place := by
      intro ha
      rcases h with h | h | h
      · exact UInt32.not_le.mpr h ha.start
      · exact UInt32.not_lt.mpr h ha.stop
      · have := ha.place
        omega
    exact writeRing_refused (hnot 0 rfl) (hnot 4 rfl)
  outside i hi hne := by
    by_cases hsecond : d.ring.Accepts offset 4
    · rw [writeRing_second hsecond, ← frameByte_storeFrame hsecond rfl v hi,
        ← frameByte_congr (d.storeFrame offset v).memory_countEntry] at hne
      exact fill_of_drain_change hne
    · refine absurd ?_ hne
      by_cases hfirst : d.ring.Accepts offset 0
      · rw [writeRing_first hfirst, frameByte_storeFrame hfirst rfl v hi]
      · obtain ⟨notice, hnotice⟩ := writeRing_refused (v := v) hfirst hsecond
        rw [hnotice, frameByte_noteAny]

end Inside

/-- **The ring keeps to its window.** The words of every ring, counted from the read pointer, are
its dwords, each of them once around; decoding a packet reads nothing else, whatever the state; and
a word written into the ring changes nothing else, but for a fast fill. -/
theorem ring_contained :
    (∀ r : Ring, r.Tiled) ∧ (∀ d : Coprocessor, d.DecodesInside) ∧
      ∀ (d : Coprocessor) (offset v : UInt32), d.WritesInside offset v :=
  ⟨Ring.tiled, decodesInside, writesInside⟩

end Coprocessor

end PumaBoard
