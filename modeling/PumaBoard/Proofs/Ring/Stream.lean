import PumaBoard.Proofs.Ring.Step

/-!
Streams of packets. A message is what a packet is meant to say, with the words that say it. The
drain moves two words past a packet of two words and one word less than the group occupies past a
group, so in a stream it can read each message starts at the stride of the one before it: the last
data word of a group is the header of the next message. Drained from such a stream, the ring
gives back the writes of the messages, in order, and nothing else.
-/

namespace PumaBoard

/-! ### Messages -/

/-- A packet with all of its words. -/
inductive Ring.Message where
  /-- Two zero words. -/
  | nop
  /-- A write of one register. -/
  | single (header value : UInt32) (sign : header &&& 0x80000000 = 0)
      (nonzero : ¬ (header = 0 ∧ value = 0))
  /-- A write of one register for every set bit of the mask. -/
  | group (header mask : UInt32) (data : List UInt32) (sign : header &&& 0x80000000 ≠ 0)
      (nonempty : mask ≠ 0) (size : data.length = (Word.setBits mask).length)

namespace Ring.Message

/-- The first word. -/
def header : Message → UInt32
  | nop => 0
  | single header .. | group header .. => header

/-- The second word. -/
def second : Message → UInt32
  | nop => 0
  | single _ value .. => value
  | group _ mask .. => mask

/-- The words after the second. -/
def data : Message → List UInt32
  | nop | single .. => []
  | group _ _ data .. => data

/-- All words, in the order of the ring. -/
def words (m : Message) : List UInt32 := m.header :: m.second :: m.data

/-- The packet that the first two words decode to. -/
def packet : Message → Packet
  | nop => .nop
  | single header value .. => .single (Packet.page header) value
  | group header mask .. => .group (Packet.page header) mask

/-- The page writes of the message. -/
def writes : Message → List (UInt32 × UInt32)
  | nop => []
  | single header value .. => [(Packet.page header, value)]
  | group header mask data .. =>
    List.zipWith (fun position v => (Packet.page header + position, v)) (Word.setBits mask) data

/-- How many words after its start the next message starts. -/
def stride : Message → Nat
  | nop | single .. => 2
  | group _ _ data .. => 1 + data.length

/-- How many words after the start of the first message the one after the last starts. -/
def strides : List Message → Nat
  | [] => 0
  | m :: ms => m.stride + strides ms

theorem decode (m : Message) : Packet.decode m.header m.second = m.packet := by
  cases m with
  | nop => rfl
  | single h v sign nonzero =>
    rw [header, second, Packet.decode, if_neg nonzero, if_neg (not_not_intro sign)]; rfl
  | group h mask data sign nonempty size =>
    have h0 : ¬ (h = 0 ∧ mask = 0) := fun h => nonempty h.2
    rw [header, second, Packet.decode, if_neg h0, if_pos sign]; rfl

theorem population_ne_zero {mask : UInt32} (h : mask ≠ 0) : Word.population mask ≠ 0 := by
  intro h0
  apply Word.setBits_ne_nil h
  rw [← List.length_eq_zero_iff, ← Word.toNat_population, h0]; rfl

theorem length_packet (m : Message) : m.packet.length.toNat = m.stride := by
  cases m with
  | nop | single => rfl
  | group header mask data sign nonempty size =>
    have hle := Word.length_setBits_le mask
    rw [packet, Packet.length, if_neg (population_ne_zero nonempty), stride, size,
      ← Word.toNat_population]
    rw [← Word.toNat_population] at hle
    rw [UInt32.toNat_add]
    exact Nat.mod_eq_of_lt (by simp only [UInt32.toNat_one]; omega)

theorem stride_le (m : Message) : m.stride ≤ 33 := by
  cases m with
  | nop | single => simp [stride]
  | group header mask data sign nonempty size =>
    have := Word.length_setBits_le mask
    simp only [stride]; omega

end Ring.Message

/-! ### Streams in a ring -/

/-- The words stand in the ring from word `w` on. -/
def Ring.Stands (r : Ring) (frame : ByteArray) (w : Nat) (vs : List UInt32) : Prop :=
  ∀ k, ∀ h : k < vs.length, Bytes.read32? frame (r.place (w + k)) = some vs[k]

/-- The messages stand in the ring from word `w` on, each at the stride of the one before it. -/
def Ring.Laid (r : Ring) (frame : ByteArray) (w : Nat) : List Message → Prop
  | [] => True
  | m :: ms => r.Stands frame w m.words ∧ r.Laid frame (w + m.stride) ms

theorem Ring.Laid.congr {r s : Ring} {frame : ByteArray} {w x : Nat} {ms : List Message}
    (hplace : ∀ n, s.place (x + n) = r.place (w + n)) (h : r.Laid frame w ms) :
    s.Laid frame x ms := by
  induction ms generalizing w x with
  | nil => trivial
  | cons m ms ih =>
    refine ⟨fun k hk => ?_, ih (fun n => ?_) h.2⟩
    · rw [hplace]; exact h.1 k hk
    · rw [Nat.add_assoc, hplace, Nat.add_assoc]

theorem Ring.Stands.mid {r : Ring} {frame : ByteArray} {w : Nat} (xs ys zs : List UInt32)
    (h : r.Stands frame w (xs ++ (ys ++ zs))) : r.Stands frame (w + xs.length) ys := by
  intro k hk
  have := h (xs.length + k) (by simp only [List.length_append]; omega)
  rw [Nat.add_assoc, this, List.getElem_append_right (by omega)]
  simp [List.getElem_append_left hk]

namespace Coprocessor

/-- Stores words in the ring, the first one at word `w`. -/
def storeWords (d : Coprocessor) (w : Nat) : List UInt32 → Coprocessor
  | [] => d
  | v :: vs => (d.storeFrame (d.ringOffset w) v).storeWords (w + 1) vs

theorem read_storeWords {d : Coprocessor} (hw : d.ring.words ≠ 0) {w o : Nat} {vs : List UInt32}
    (ho : ∀ k < vs.length, d.ring.place (w + k) + 4 ≤ o ∨ o + 4 ≤ d.ring.place (w + k)) :
    Bytes.read32? (d.storeWords w vs).memory.frame o = Bytes.read32? d.memory.frame o := by
  induction vs generalizing d w with
  | nil => rfl
  | cons v vs ih =>
    have hrest := ih (d := d.storeFrame (d.ringOffset w) v) (w := w + 1) hw fun k hk => by
      rw [Nat.add_assoc, Nat.add_comm 1]
      exact ho (k + 1) (Nat.succ_lt_succ hk)
    refine hrest.trans (Bytes.read32?_write32_of_disjoint ?_)
    rw [toNat_ringOffset hw]
    exact ho 0 (Nat.succ_pos _)

/-- Words stored in a ring that is large enough for them stand there. -/
theorem stands_storeWords {d : Coprocessor} (hw : d.ring.words ≠ 0)
    (hin : d.ring.stop ≤ d.layout.frameSize) (w : Nat) {vs : List UInt32}
    (hlen : vs.length ≤ d.ring.words.toNat) :
    d.ring.Stands (d.storeWords w vs).memory.frame w vs := by
  induction vs generalizing d w with
  | nil => exact fun k hk => absurd hk (Nat.not_lt_zero k)
  | cons v vs ih =>
    have hlen' : vs.length < d.ring.words.toNat := hlen
    intro k hk
    cases k with
    | zero =>
      have hsize : d.memory.frame.size = d.layout.frameSize.toNat := d.memory.frame_size
      have hle := d.ring.place_add_four_le hw w
      rw [UInt32.le_iff_toNat_le] at hin
      -- the words stored later leave the first one alone
      refine (read_storeWords (d := d.storeFrame (d.ringOffset w) v) (w := w + 1) hw
        fun k hk => ?_).trans ?_
      · rw [Nat.add_assoc, Nat.add_comm 1]
        exact (d.ring.place_disjoint (Nat.succ_pos k) (by omega)).symm
      · have hoff := toNat_ringOffset hw w
        show Bytes.read32? (Bytes.write32 d.memory.frame (d.ringOffset w).toNat v)
          (d.ring.place w) = _
        rw [hoff]
        exact Bytes.read32?_write32_same (by omega)
    | succ k =>
      have hrest := ih (d := d.storeFrame (d.ringOffset w) v) hw hin (w + 1)
        (Nat.le_of_lt hlen') k (Nat.lt_of_succ_lt_succ hk)
      rw [Nat.add_assoc, Nat.add_comm 1] at hrest
      exact hrest

end Coprocessor

/-- A write of the page sets up the ring no more than it starts a fast fill. -/
def Aperture.Layout.Plain (l : Aperture.Layout) (page : UInt32) : Prop :=
  ∀ r, l.page? page = some r → r.controlsRing = false ∧ r ≠ Register.fastFillCommand

theorem Aperture.Layout.Plain.sparesRing {l : Aperture.Layout} {page : UInt32} (h : l.Plain page) :
    l.SparesRing page := fun r hr => (h r hr).1

instance (l : Aperture.Layout) (page : UInt32) : Decidable (l.Plain page) :=
  inferInstanceAs (Decidable (∀ r : Register,
    l.page? page = some r → r.controlsRing = false ∧ r ≠ Register.fastFillCommand))

theorem Aperture.Layout.plain_of_all {l : Aperture.Layout} {ws : List (UInt32 × UInt32)}
    (h : ws.all (fun w => decide (l.Plain w.1)) = true) : ∀ w ∈ ws, l.Plain w.1 :=
  fun w hw => of_decide_eq_true (List.all_eq_true.mp h w hw)

namespace Coprocessor

theorem memory_writePages {d : Coprocessor} {ws : List (UInt32 × UInt32)}
    (h : ∀ w ∈ ws, d.layout.Plain w.1) : (d.writePages ws).memory = d.memory := by
  induction ws generalizing d with
  | nil => rfl
  | cons w ws ih =>
    obtain ⟨hw, hws⟩ := List.forall_mem_cons.mp h
    refine (ih (d := d.writePage w.1 w.2) (by rwa [layout_writePage])).trans ?_
    unfold writePage
    split
    · next r hr => exact memory_writeRegister _ _ (hw r hr).2
    · rfl

/-- A stream of messages is ready to be drained: it stands in the enabled ring at the read pointer,
with one entry for every message. -/
structure Loaded (d : Coprocessor) (ms : List Ring.Message) : Prop where
  enabled : d.ring.enabled = true
  words : d.ring.words ≠ 0
  readPtr : d.ring.readPtr < d.ring.words
  count : d.ring.entryCount.toNat = ms.length
  laid : d.ring.Laid d.memory.frame d.ring.readPtr.toNat ms
  plain : ∀ w ∈ ms.flatMap Ring.Message.writes, d.layout.Plain w.1

section Drain

variable {d : Coprocessor} {m : Ring.Message} {ms : List Ring.Message}

theorem packetWrites_message (hw : d.ring.words ≠ 0)
    (h : d.ring.Stands d.memory.frame d.ring.readPtr.toNat m.words) :
    d.packetWrites m.packet = m.writes := by
  cases m with
  | nop | single => rfl
  | group header mask data sign nonempty size =>
    refine List.ext_getElem (by simp [Ring.Message.packet, packetWrites, groupWrites,
      Ring.Message.writes, size]) fun k hk hk' => ?_
    have hk32 : k < 32 := by
      have := Word.length_setBits_le mask
      simp only [Ring.Message.writes, List.length_zipWith] at hk'
      omega
    have hdata : k < data.length := by
      simp only [Ring.Message.writes, List.length_zipWith] at hk'
      omega
    -- a mask has at most 32 set bits, so the offset of a data word does not overflow
    have hat : (2 + UInt32.ofNat k).toNat = k + 2 := by
      rw [UInt32.toNat_add, UInt32.toNat_ofNat_of_lt' (Nat.lt_trans hk32 (by decide))]
      simp; omega
    have hread : d.ringWord? (2 + UInt32.ofNat k) = some data[k] := by
      rw [ringWord?_eq hw, hat]
      exact h (k + 2) (by simpa [Ring.Message.words, Ring.Message.data] using hdata)
    simp only [Ring.Message.packet, packetWrites, groupWrites, Ring.Message.writes,
      List.getElem_map, List.getElem_zipIdx, List.getElem_zipWith, Nat.zero_add, hread,
      Option.getD_some]

theorem packetNotice_message (m : Ring.Message) : packetNotice m.header m.packet = none := by
  cases m with
  | nop | single => rfl
  | group header mask data sign nonempty size =>
    exact if_neg (Ring.Message.population_ne_zero nonempty)

theorem Loaded.fetch (h : d.Loaded (m :: ms)) : d.fetch = .ok (m.header, m.packet) := by
  have hh := h.laid.1 0 (by simp [Ring.Message.words])
  have hd := h.laid.1 1 (by simp [Ring.Message.words])
  rw [fetch_eq h.readPtr h.words hh hd]
  exact congrArg (fun p => Except.ok (m.header, p)) m.decode

/-- Carries out the writes of a message, moves past it and retires its entry. -/
def consume (d : Coprocessor) (m : Ring.Message) : Coprocessor :=
  (d.writePages m.writes).setRing
    { d.ring with
      readPtr := UInt32.ofNat ((d.ring.readPtr.toNat + m.stride) % d.ring.words.toNat)
      entryCount := d.ring.entryCount - 1 }

theorem Loaded.count_ne_zero (h : d.Loaded (m :: ms)) : d.ring.entryCount ≠ 0 := by
  intro h0
  have := h.count
  simp [h0] at this

theorem Loaded.writes_plain (h : d.Loaded (m :: ms)) : ∀ w ∈ m.writes, d.layout.Plain w.1 :=
  fun w hw => h.plain w (List.mem_flatMap.mpr ⟨m, List.mem_cons_self, hw⟩)

/-- A drain of a stream consumes its first message first. -/
theorem Loaded.step (h : d.Loaded (m :: ms)) (n : Nat) :
    d.drainUpTo (n + 1) = (d.consume m).drainUpTo n := by
  have hwrites := packetWrites_message h.words h.laid.1
  have hlt : m.packet.length.toNat < 0x80000000 := by
    have := m.stride_le
    rw [m.length_packet]; omega
  have hring : (d.ring.advance m.packet.length).retireEntry =
      { d.ring with
        readPtr := UInt32.ofNat ((d.ring.readPtr.toNat + m.stride) % d.ring.words.toNat)
        entryCount := d.ring.entryCount - 1 } := by
    rw [Ring.retireEntry_advance h.readPtr h.count_ne_zero hlt, m.length_packet]
  have hstep := drainUpTo_step h.enabled h.count_ne_zero h.fetch
    (by rw [hwrites]; exact fun w hw => (h.writes_plain w hw).sparesRing) n
  rw [hwrites, packetNotice_message, hring] at hstep
  exact hstep

theorem Loaded.toNat_readPtr (h : d.Loaded (m :: ms)) :
    (d.consume m).ring.readPtr.toNat =
      (d.ring.readPtr.toNat + m.stride) % d.ring.words.toNat :=
  UInt32.toNat_ofNat_of_lt' (Nat.lt_trans (Nat.mod_lt _ (Ring.words_pos h.words))
    d.ring.words.toNat_lt)

/-- What is left after the first message is the rest of the stream. -/
theorem Loaded.consume (h : d.Loaded (m :: ms)) : (d.consume m).Loaded ms := by
  have hlt := Nat.mod_lt (d.ring.readPtr.toNat + m.stride) (Ring.words_pos h.words)
  have hptr := h.toNat_readPtr
  have hmemory : (d.consume m).memory = d.memory := memory_writePages h.writes_plain
  have hlayout : (d.consume m).layout = d.layout := layout_writePages ..
  refine ⟨h.enabled, h.words, UInt32.lt_iff_toNat_lt.mpr (hptr ▸ hlt), ?_, ?_, ?_⟩
  · have hle : (1 : UInt32) ≤ d.ring.entryCount := by
      have := h.count
      rw [UInt32.le_iff_toNat_le, this]; simp
    refine (UInt32.toNat_sub_of_le _ _ hle).trans ?_
    rw [h.count]; simp
  · rw [hmemory, hptr]
    exact h.laid.2.congr fun n => d.ring.place_add_mod ..
  · rw [hlayout]
    intro w hw
    exact h.plain w (by rw [List.flatMap_cons]; exact List.mem_append_right _ hw)

theorem writePages_append (d : Coprocessor) (xs ys : List (UInt32 × UInt32)) :
    d.writePages (xs ++ ys) = (d.writePages xs).writePages ys := List.foldl_append

/-- **A drain reads a stream message by message.** After as many packets as there are messages in
a front part of the stream, their writes have been carried out and the rest is ready to be
drained. -/
theorem Loaded.run (ms rest : List Ring.Message) (h : d.Loaded (ms ++ rest)) :
    d.drainUpTo ms.length =
        (d.writePages (ms.flatMap Ring.Message.writes)).setRing
          { d.ring with
            readPtr := UInt32.ofNat
              ((d.ring.readPtr.toNat + Ring.Message.strides ms) % d.ring.words.toNat)
            entryCount := UInt32.ofNat rest.length } ∧
      (d.drainUpTo ms.length).Loaded rest := by
  induction ms generalizing d with
  | nil =>
    have hptr : UInt32.ofNat (d.ring.readPtr.toNat % d.ring.words.toNat) = d.ring.readPtr := by
      rw [Nat.mod_eq_of_lt (UInt32.lt_iff_toNat_lt.mp h.readPtr)]
      exact UInt32.ofNat_toNat
    have hcount : UInt32.ofNat rest.length = d.ring.entryCount := by
      rw [show rest.length = d.ring.entryCount.toNat from h.count.symm]
      exact UInt32.ofNat_toNat
    refine ⟨?_, h⟩
    show d = d.setRing { d.ring with
      readPtr := UInt32.ofNat (d.ring.readPtr.toNat % d.ring.words.toNat)
      entryCount := UInt32.ofNat rest.length }
    rw [hptr, hcount]; rfl
  | cons m ms ih =>
    obtain ⟨hrun, hrest⟩ := ih (Loaded.consume (m := m) h)
    have hflat : ∀ w ∈ ms.flatMap Ring.Message.writes,
        (d.writePages m.writes).layout.SparesRing w.1 := by
      intro w hw
      rw [layout_writePages]
      refine (h.plain w ?_).sparesRing
      rw [List.cons_append, List.flatMap_cons, List.flatMap_append]
      exact List.mem_append_right _ (List.mem_append_left _ hw)
    rw [List.length_cons, Loaded.step (m := m) h]
    refine ⟨?_, hrest⟩
    -- page writes pass over what the first message did to the ring
    have hpages : (d.consume m).writePages (ms.flatMap Ring.Message.writes) =
        ((d.writePages m.writes).writePages (ms.flatMap Ring.Message.writes)).setRing
          (d.consume m).ring := setRing_writePages hflat _
    have hptr : ((d.consume m).ring.readPtr.toNat + Ring.Message.strides ms) % d.ring.words.toNat =
        (d.ring.readPtr.toNat + Ring.Message.strides (m :: ms)) % d.ring.words.toNat := by
      rw [Loaded.toNat_readPtr (m := m) h, Nat.mod_add_mod, Nat.add_assoc]; rfl
    rw [hrun, hpages, List.flatMap_cons, writePages_append, ← hptr]
    rfl

/-- Without a threshold one drain reads the whole stream. -/
theorem Loaded.drain_eq (h : d.Loaded ms) (ht : d.ring.threshold = 0) :
    d.drain = d.drainUpTo ms.length := by
  have hrun := (Loaded.run ms [] (by rwa [List.append_nil])).1
  by_cases hc : d.ring.entryCount = 0
  · have hempty : ms = [] := List.eq_nil_of_length_eq_zero (by rw [← h.count, hc]; rfl)
    rw [drain, if_neg (by simp [hc]), hempty]; rfl
  · have hbatch : d.ring.batch.toNat = ms.length := by
      rw [Ring.batch, if_neg (not_not_intro ht)]; exact h.count
    rw [drain, if_pos (by simp [h.enabled, UInt32.pos_iff_ne_zero.mpr hc]), hbatch, hrun,
      updateThreshold_eq, if_neg]
    show ¬ UInt32.ofNat 0 < d.ring.threshold
    rw [ht]; decide

/-- **A drain undoes the laying of a stream.** One drain of a stream in the ring carries out
exactly the writes of its messages, in their order, reads every message where it was laid, and
leaves an empty ring whose read pointer is where the stream ends. -/
theorem drain_stream (h : d.Loaded ms) (ht : d.ring.threshold = 0) :
    d.drain =
        (d.writePages (ms.flatMap Ring.Message.writes)).setRing
          { d.ring with
            readPtr := UInt32.ofNat
              ((d.ring.readPtr.toNat + Ring.Message.strides ms) % d.ring.words.toNat)
            entryCount := 0 } ∧
      ∀ k, ∀ hk : k < ms.length,
        (d.drainUpTo k).ring.readPtr =
            UInt32.ofNat
              ((d.ring.readPtr.toNat + Ring.Message.strides (ms.take k)) % d.ring.words.toNat) ∧
          (d.drainUpTo k).fetch = .ok (ms[k].header, ms[k].packet) := by
  refine ⟨?_, fun k hk => ?_⟩
  · rw [h.drain_eq ht, (Loaded.run ms [] (by rwa [List.append_nil])).1]; rfl
  · have hsplit : ms.take k ++ ms[k] :: ms.drop (k + 1) = ms := by
      rw [← List.drop_eq_getElem_cons hk, List.take_append_drop]
    rw [← hsplit] at h
    obtain ⟨hrun, hrest⟩ := Loaded.run _ _ h
    rw [List.length_take_of_le (Nat.le_of_lt hk)] at hrun hrest
    exact ⟨congrArg (·.ring.readPtr) hrun, hrest.fetch⟩

end Drain

/-- A ring in the second page of the frame buffer, with two entries. -/
def twoEntries : Coprocessor := ((create .mb8).writeIndex 0x93 0x1003).writeIndex 0x94 2

/-- Stores messages word after word, from the first word of the ring on. -/
def storeMessages (d : Coprocessor) (ms : List Ring.Message) : Coprocessor :=
  d.storeWords 0 (ms.flatMap Ring.Message.words)

/-- A write of the second colour, then one of the first colour and the fog colour. -/
def singleThenGroup : List Ring.Message :=
  [.single 0x15C 0x1234 (by decide) (by decide),
    .group 0x80000158 5 [0x112233, 0x445566] (by decide) (by decide) (by decide)]

theorem drain_stream_colours :
    (twoEntries.storeMessages singleThenGroup).Loaded singleThenGroup ∧
      (twoEntries.storeMessages singleThenGroup).ring.threshold = 0 ∧
      (twoEntries.storeMessages singleThenGroup).drain.regs.get Register.fogColour = 0x445566 := by
  have hstands : twoEntries.ring.Stands (twoEntries.storeMessages singleThenGroup).memory.frame 0
      (singleThenGroup.flatMap Ring.Message.words) :=
    stands_storeWords (by decide +kernel) (by decide +kernel) 0 (by decide +kernel)
  have hloaded : (twoEntries.storeMessages singleThenGroup).Loaded singleThenGroup :=
    { enabled := by decide +kernel
      words := by decide +kernel
      readPtr := by decide +kernel
      count := by decide +kernel
      laid := ⟨hstands.mid [] _ _, hstands.mid [_, _] _ [], trivial⟩
      plain := Aperture.Layout.plain_of_all (by decide +kernel) }
  refine ⟨hloaded, by decide +kernel, ?_⟩
  rw [(drain_stream hloaded (by decide +kernel)).1]
  decide +kernel

/-! ### Messages laid word after word -/

/-- Messages stand in the ring word after word, with one entry for each of them. -/
structure LaidWordAfterWord (d : Coprocessor) (ms : List Ring.Message) : Prop where
  enabled : d.ring.enabled = true
  inside : d.ring.stop ≤ d.layout.frameSize
  readPtr : d.ring.readPtr < d.ring.words
  fits : (ms.flatMap Ring.Message.words).length ≤ d.ring.words.toNat
  count : d.ring.entryCount.toNat = ms.length
  threshold : d.ring.threshold = 0
  stands :
    d.ring.Stands d.memory.frame d.ring.readPtr.toNat (ms.flatMap Ring.Message.words)
  plain : ∀ w ∈ ms.flatMap Ring.Message.writes, d.layout.Plain w.1

/-- A write of the first colour as a group, then one of the second colour. -/
def groupThenSingle : List Ring.Message :=
  [.group 0x80000158 1 [0xFF00] (by decide) (by decide) (by decide),
    .single 0x15C 0x1234 (by decide) (by decide)]

/-- A group has one word more than its stride. The drain takes its last data word for the header of
the message after it, whose write is lost, and stops one word before the end. -/
theorem drain_group_stops_short :
    (twoEntries.storeMessages groupThenSingle).LaidWordAfterWord groupThenSingle ∧
      (twoEntries.storeMessages groupThenSingle).drain.ring.readPtr ≠
        UInt32.ofNat (groupThenSingle.flatMap Ring.Message.words).length ∧
      (twoEntries.storeMessages groupThenSingle).drain.regs.get Register.colour1 ≠
        ((twoEntries.storeMessages groupThenSingle).writePages
          (groupThenSingle.flatMap Ring.Message.writes)).regs.get Register.colour1 := by
  have hstands : twoEntries.ring.Stands (twoEntries.storeMessages groupThenSingle).memory.frame 0
      (groupThenSingle.flatMap Ring.Message.words) :=
    stands_storeWords (by decide +kernel) (by decide +kernel) 0 (by decide +kernel)
  have hlaid : (twoEntries.storeMessages groupThenSingle).LaidWordAfterWord groupThenSingle :=
    { enabled := by decide +kernel
      inside := by decide +kernel
      readPtr := by decide +kernel
      fits := by decide +kernel
      count := by decide +kernel
      threshold := by decide +kernel
      stands := hstands
      plain := Aperture.Layout.plain_of_all (by decide +kernel) }
  -- the same words as the drain reads them
  have hloaded : (twoEntries.storeMessages groupThenSingle).Loaded
      [.group 0x80000158 1 [0xFF00] (by decide) (by decide) (by decide),
        .single 0xFF00 0x15C (by decide) (by decide)] :=
    { enabled := hlaid.enabled
      words := by decide +kernel
      readPtr := hlaid.readPtr
      count := hlaid.count
      laid := ⟨hstands.mid [] _ _, hstands.mid [_, _] [_, _] [_], trivial⟩
      plain := Aperture.Layout.plain_of_all (by decide +kernel) }
  have hdrain := hloaded.drain_eq hlaid.threshold
  rw [(Loaded.run _ [] hloaded).1] at hdrain
  rw [hdrain]
  exact ⟨hlaid, by decide +kernel, by decide +kernel⟩

end Coprocessor

end PumaBoard
