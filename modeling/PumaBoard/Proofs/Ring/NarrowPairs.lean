import PumaBoard.Proofs.Coprocessor.NarrowAccess
import PumaBoard.Proofs.Memory.Flat
import PumaBoard.Proofs.Ring.Pairs
import PumaBoard.Proofs.Ring.Stream

/-!
Pairs written into the ring by narrow accesses. The first word of a pair may be written in parts;
the second one may not, because each of its parts is a write of the second word, which counts an
entry and drains the ring.
-/

namespace PumaBoard.Coprocessor

/-- The coprocessor and its ring are enabled, the ring lies in the frame buffer, is empty and is
about to read a pair. -/
structure AwaitsPair (d : Coprocessor) : Prop where
  enabled : d.enabled = true
  ringEnabled : d.ring.enabled = true
  inside : d.ring.stop ≤ d.layout.frameSize
  readPtr : d.ring.readPtr < d.ring.words
  even : d.ring.readPtr.toNat % 2 = 0
  empty : d.ring.entryCount = 0

theorem AwaitsPair.words {d : Coprocessor} (h : d.AwaitsPair) : d.ring.words ≠ 0 := by
  intro h0
  have hlt := h.readPtr
  rw [h0] at hlt
  exact UInt32.not_lt_zero hlt

theorem RingReady.storeFrame {d : Coprocessor} (h : d.RingReady) (o v : UInt32) :
    (d.storeFrame o v).RingReady := { h with }

theorem RingReady.awaitsPair {d : Coprocessor} (h : d.RingReady) : d.AwaitsPair := { h with }

/-! ### Words of the ring -/

section Words

variable {d : Coprocessor} (hw : d.ring.words ≠ 0) (w : Nat)

include hw

theorem toNat_ringAddress : (d.ringAddress w).toNat = d.ring.place w := by
  have h0 : d.layout.frameStart = 0 := by
    unfold layout; cases d.memory.mode <;> rfl
  rw [ringAddress, h0, UInt32.zero_add, toNat_ringOffset hw]

theorem ringAddress_mod : (d.ringAddress w).toNat % 4 = 0 := by
  have hstart := d.ring.start_mod
  rw [toNat_ringAddress hw, Ring.place]
  omega

theorem aligned_ringOffset : d.ringOffset w &&& ~~~3 = d.ringOffset w := by
  have hstart := d.ring.start_mod
  apply UInt32.toNat_inj.mp
  rw [Word.toNat_alignWord, toNat_ringOffset hw, Ring.place]
  omega

theorem peek_ringAddress (he : d.enabled = true) (hin : d.ring.stop ≤ d.layout.frameSize) :
    d.peek (d.ringAddress w) = (Bytes.read32? d.memory.frame (d.ring.place w)).getD 0 := by
  rw [peek, if_pos he, decode_ringAddress hw w hin, regionValue, aligned_ringOffset hw,
    Aperture.Memory.readFrame32?, toNat_ringOffset hw]

end Words

theorem storeFrame_storeFrame (d : Coprocessor) (o u v : UInt32) :
    (d.storeFrame o u).storeFrame o v = d.storeFrame o v := by
  have hmemory : (d.memory.writeFrame32 o u).writeFrame32 o v = d.memory.writeFrame32 o v := by
    simp only [Aperture.Memory.writeFrame32, Bytes.write32_write32]
  exact congrArg d.setMemory hmemory

/-! ### The first word -/

section Header

variable {d : Coprocessor} (h : d.AwaitsPair) (v : UInt32)

include h

theorem AwaitsPair.decode_valid (w : Nat) : d.layout.decode (d.ringAddress w) ≠ .invalid := by
  rw [decode_ringAddress h.words w h.inside]
  exact Aperture.Region.noConfusion

theorem AwaitsPair.write32_header :
    d.write32 (d.ringAddress d.ring.readPtr.toNat) v =
      d.storeFrame (d.ringOffset d.ring.readPtr.toNat) v := by
  rw [write32_ringAddress h.words _ h.enabled h.ringEnabled h.inside, if_pos h.even]

theorem AwaitsPair.peek_header :
    (d.storeFrame (d.ringOffset d.ring.readPtr.toNat) v).peek
      (d.ringAddress d.ring.readPtr.toNat) = v := by
  have hin := h.inside
  have hplace := d.ring.place_add_four_le h.words d.ring.readPtr.toNat
  have hsize : d.memory.frame.size = d.layout.frameSize.toNat := d.memory.frame_size
  rw [UInt32.le_iff_toNat_le] at hin
  refine (peek_ringAddress (d := d.storeFrame _ v) h.words _ h.enabled h.inside).trans ?_
  show (Bytes.read32? (Bytes.write32 d.memory.frame _ v) (d.ring.place _)).getD 0 = v
  rw [toNat_ringOffset h.words, Bytes.read32?_write32_same (by omega), Option.getD_some]

/-- A part of the first word is stored next to the parts before it. -/
theorem AwaitsPair.writeParts_header (u : UInt32) (j n : Nat) (parts : List (Nat × Nat)) :
    (d.storeFrame (d.ringOffset d.ring.readPtr.toNat) u).writeParts
        (d.ringAddress d.ring.readPtr.toNat) v ((j, n) :: parts) =
      (d.storeFrame (d.ringOffset d.ring.readPtr.toNat) (Word.splice u v j n)).writeParts
        (d.ringAddress d.ring.readPtr.toNat) v parts := by
  have hstored : (d.storeFrame (d.ringOffset d.ring.readPtr.toNat) u).AwaitsPair := { h with }
  have hwrite : (d.storeFrame (d.ringOffset d.ring.readPtr.toNat) u).write32
      (d.ringAddress d.ring.readPtr.toNat) (Word.splice u v j n) = d.storeFrame _ _ :=
    (hstored.write32_header _).trans (storeFrame_storeFrame ..)
  rw [writeParts, List.foldl_cons, h.peek_header]
  exact congrArg (writeParts · _ v parts) hwrite

/-- **The first word of a pair may be written at any width.** -/
theorem AwaitsPair.write_header :
    d.write32Halves (d.ringAddress d.ring.readPtr.toNat) v =
        d.write32 (d.ringAddress d.ring.readPtr.toNat) v ∧
      d.write32Bytes (d.ringAddress d.ring.readPtr.toNat) v =
        d.write32 (d.ringAddress d.ring.readPtr.toNat) v := by
  have haddr := ringAddress_mod h.words d.ring.readPtr.toNat
  have hvalid := h.decode_valid d.ring.readPtr.toNat
  have hfirst (n : Nat) (parts : List (Nat × Nat)) :
      d.writeParts (d.ringAddress d.ring.readPtr.toNat) v ((0, n) :: parts) =
        (d.storeFrame (d.ringOffset d.ring.readPtr.toNat)
            (Word.splice (d.peek (d.ringAddress d.ring.readPtr.toNat)) v 0 n)).writeParts
          (d.ringAddress d.ring.readPtr.toNat) v parts := by
    rw [writeParts, List.foldl_cons, h.write32_header]
    rfl
  constructor
  · rw [write32Halves_eq haddr hvalid, hfirst, h.writeParts_header, Word.splice_splice _ _ 0 2 2,
      Word.splice_all, h.write32_header]
    rfl
  · rw [write32Bytes_eq haddr hvalid, hfirst, h.writeParts_header, Word.splice_splice _ _ 0 1 1,
      h.writeParts_header, Word.splice_splice _ _ 0 2 1, h.writeParts_header,
      Word.splice_splice _ _ 0 3 1, Word.splice_all, h.write32_header]
    rfl

end Header

/-! ### The second word -/

section Data

variable {d : Coprocessor} (h : d.AwaitsPair)

include h

/-- The second word reads as before once the first one is written. -/
theorem AwaitsPair.peek_data (header : UInt32) :
    (d.write32 (d.ringAddress d.ring.readPtr.toNat) header).peek
        (d.ringAddress (d.ring.readPtr.toNat + 1)) =
      d.peek (d.ringAddress (d.ring.readPtr.toNat + 1)) := by
  have hnext := d.ring.place_succ_of_even h.even
  rw [h.write32_header, peek_ringAddress h.words _ h.enabled h.inside]
  refine (peek_ringAddress (d := d.storeFrame _ header) h.words _ h.enabled h.inside).trans ?_
  show (Bytes.read32? (Bytes.write32 d.memory.frame _ header) (d.ring.place _)).getD 0 = _
  rw [toNat_ringOffset h.words, Bytes.read32?_write32_of_disjoint (by omega)]

/-- The first part of the second word completes a pair, and the other parts come after it. -/
theorem AwaitsPair.writeParts_data (pair : UInt32 × UInt32) (n : Nat) (parts : List (Nat × Nat)) :
    (d.write32 (d.ringAddress d.ring.readPtr.toNat) pair.1).writeParts
        (d.ringAddress (d.ring.readPtr.toNat + 1)) pair.2 ((0, n) :: parts) =
      (d.pushPair d.ringAddress d.ring.readPtr.toNat (pair.1,
          Word.splice (d.peek (d.ringAddress (d.ring.readPtr.toNat + 1))) pair.2 0 n)).writeParts
        (d.ringAddress (d.ring.readPtr.toNat + 1)) pair.2 parts := by
  rw [writeParts, List.foldl_cons, h.peek_data]
  rfl

/-- A pair is counted and drained at once, and is the packet that the drain takes first. -/
theorem AwaitsPair.drains (pair : UInt32 × UInt32) :
    d.pushPair d.ringAddress d.ring.readPtr.toNat pair =
        (d.storePair d.ring.readPtr.toNat pair).countEntry.drain ∧
      (d.storePair d.ring.readPtr.toNat pair).countEntry.ring.entryCount = 1 ∧
      (d.storePair d.ring.readPtr.toNat pair).countEntry.fetch =
        .ok (pair.1, .decode pair.1 pair.2) := by
  have hodd : ¬ (d.ring.readPtr.toNat + 1) % 2 = 0 := by
    have heven := h.even
    omega
  have hstored : (d.storePair d.ring.readPtr.toNat pair).AwaitsPair := { h with }
  have hcount : d.ring.countEntry.entryCount = 1 := by simp [Ring.countEntry, h.empty]
  obtain ⟨hh, hd⟩ := read_storePair h.words h.inside h.even pair
  refine ⟨?_, ?_, ?_⟩
  · rw [pushPair, h.write32_header]
    have hsecond := write32_ringAddress
      (d := d.storeFrame (d.ringOffset d.ring.readPtr.toNat) pair.1) h.words
      (d.ring.readPtr.toNat + 1) h.enabled h.ringEnabled h.inside pair.2
    rw [if_neg hodd] at hsecond
    exact hsecond
  · rcases countEntry_or (d.storePair d.ring.readPtr.toNat pair) with hc | ⟨-, hc⟩
    · rw [hc]; exact hcount
    · rw [hc]; exact hcount
  · rcases countEntry_or (d.storePair d.ring.readPtr.toNat pair) with hc | ⟨-, hc⟩
    · rw [hc]; exact fetch_eq h.readPtr h.words hh hd
    · rw [hc]; exact fetch_eq h.readPtr h.words hh hd

end Data

/-- **Only the second word of a pair depends on the width.** Its first word in parts and its second
one in one access is the pair in two words. With both in parts, the pair pushed has the first part
of the second word over what the ring held there, and each other part is one more write of the
second word; the pushed pair is counted and drained, as the first packet of the drain. -/
theorem push_narrow {d : Coprocessor} (h : d.AwaitsPair) (pair : UInt32 × UInt32) :
    let w := d.ring.readPtr.toNat
    let first := d.ringAddress w
    let second := d.ringAddress (w + 1)
    let push := d.pushPair d.ringAddress w
    ((d.write32Halves first pair.1).write32 second pair.2 = push pair ∧
        (d.write32Bytes first pair.1).write32 second pair.2 = push pair) ∧
      ((d.write32Halves first pair.1).write32Halves second pair.2 =
          (push (pair.1, Word.splice (d.peek second) pair.2 0 2)).writeParts second pair.2
            [(2, 2)] ∧
        (d.write32Bytes first pair.1).write32Bytes second pair.2 =
          (push (pair.1, Word.splice (d.peek second) pair.2 0 1)).writeParts second pair.2
            [(1, 1), (2, 1), (3, 1)]) ∧
      ∀ data, push (pair.1, data) = (d.storePair w (pair.1, data)).countEntry.drain ∧
        (d.storePair w (pair.1, data)).countEntry.ring.entryCount = 1 ∧
        (d.storePair w (pair.1, data)).countEntry.fetch =
          .ok (pair.1, .decode pair.1 data) := by
  intro w first second push
  obtain ⟨hhalves, hbytes⟩ := h.write_header pair.1
  have haddr := ringAddress_mod h.words (d.ring.readPtr.toNat + 1)
  have hvalid : (d.write32 first pair.1).layout.decode second ≠ .invalid := by
    rw [layout_write32]
    exact h.decode_valid _
  refine ⟨⟨?_, ?_⟩, ⟨?_, ?_⟩, fun data => h.drains (pair.1, data)⟩
  · exact congrArg (write32 · second pair.2) hhalves
  · exact congrArg (write32 · second pair.2) hbytes
  · rw [hhalves, write32Halves_eq haddr hvalid]
    exact h.writeParts_data pair 2 _
  · rw [hbytes, write32Bytes_eq haddr hvalid]
    exact h.writeParts_data pair 1 _

/-! ### A pair that loses half of its second word -/

/-- A coprocessor after power-on with a ring of one page. -/
def onePage : Coprocessor := (create .mb8).writeIndex 0x93 0x1003

theorem onePage_ready : onePage.RingReady where
  enabled := by decide
  ringEnabled := by decide
  words := by decide
  inside := by decide
  readPtr := by decide
  even := by decide
  empty := by decide
  flag := by decide

theorem onePage_memory : onePage.memory = .zeroed .mb8 := rfl

/-- A pair pushed there for the first colour register stores its words and writes the register. -/
theorem pushPair_onePage (data : UInt32) :
    onePage.pushPair onePage.ringAddress 0 (0x158, data) =
      ((onePage.storePair 0 (0x158, data)).writePages [(0x56, data)]).setRing
        (onePage.ring.advance 2) := by
  have hwrites : pairWrites (0x158, data) = [(0x56, data)] := by
    have hpage : Ring.Packet.page 0x158 = 0x56 := by decide
    rw [pairWrites, if_neg (by simp), hpage]
  have hspares : onePage.layout.SparesRing 0x56 := by
    unfold Aperture.Layout.SparesRing
    decide +kernel
  have hpages : ∀ w ∈ pairWrites (0x158, data), onePage.layout.SparesRing w.1 := by
    intro w hw
    rw [hwrites] at hw
    rwa [List.mem_singleton.mp hw]
  have hpush := pushPair_eq onePage_ready
    (show (0x158, data).1 &&& 0x80000000 = 0 from (by decide : (0x158 : UInt32) &&& _ = 0)) hpages
  rw [hwrites] at hpush
  exact hpush

theorem push_narrow_header :
    onePage.AwaitsPair ∧
      ((onePage.write32Halves (onePage.ringAddress 0) 0x158).write32 (onePage.ringAddress 1)
        0x20001).regs.get Register.colour0 = 0x20001 := by
  refine ⟨onePage_ready.awaitsPair, ?_⟩
  have h := (push_narrow onePage_ready.awaitsPair (0x158, 0x20001)).1.1
  refine (congrArg (fun d : Coprocessor => d.regs.get Register.colour0) h).trans ?_
  refine (congrArg (fun d : Coprocessor => d.regs.get Register.colour0)
    (pushPair_onePage 0x20001)).trans ?_
  decide +kernel

/-- The ring of zeros reads as zeros. -/
theorem read_zeros {n o : Nat} (h : o + 4 ≤ n) : Bytes.read32? (Bytes.zeros n) o = some 0 := by
  rw [Bytes.read32?_eq, Bytes.size_zeros, if_pos h]
  simp only [Bytes.byteD_zeros]
  rfl

/-- The state after a pair of the colour register and 1. -/
def halfPushed : Coprocessor :=
  ((onePage.storePair 0 (0x158, 1)).writePages [(0x56, 1)]).setRing (onePage.ring.advance 2)

theorem halfPushed_ready : halfPushed.RingReady := by
  refine onePage_ready.setRing_advance ?_ ?_ ?_
  · decide
  · decide
  · decide

theorem halfPushed_frame :
    halfPushed.memory.frame =
      Bytes.write32 (Bytes.write32 (Bytes.zeros 0x400000) 0x1000 0x158) 0x1004 1 := by
  have hplain : ∀ w ∈ [((0x56 : UInt32), (1 : UInt32))],
      (onePage.storePair 0 (0x158, 1)).layout.Plain w.1 :=
    Aperture.Layout.plain_of_all (by decide +kernel)
  have hmemory : halfPushed.memory = (onePage.storePair 0 (0x158, 1)).memory :=
    memory_writePages hplain
  have hfirst : onePage.ringOffset 0 = 0x1000 := by decide
  have hsecond : onePage.ringOffset 1 = 0x1004 := by decide
  rw [hmemory, storePair, hfirst, hsecond]
  show Bytes.write32 (Bytes.write32 onePage.memory.frame _ _) _ _ = _
  rw [onePage_memory]
  rfl

theorem second_write_onePage :
    (halfPushed.write32 (onePage.ringAddress 1) 0x20001).regs.get Register.colour0 = 1 := by
  have haddr : onePage.ringAddress 1 = halfPushed.ringAddress 1 := by decide
  have hoffset : halfPushed.ringOffset 1 = 0x1004 := by decide
  have hwrite := write32_ringAddress halfPushed_ready.words 1 halfPushed_ready.enabled
    halfPushed_ready.ringEnabled halfPushed_ready.inside 0x20001
  rw [← haddr, hoffset, if_neg (by decide)] at hwrite
  have hready : (halfPushed.storeFrame 0x1004 0x20001).RingReady :=
    halfPushed_ready.storeFrame ..
  have hzero (o : Nat) (h : 0x1008 ≤ o ∧ o + 4 ≤ 0x400000) :
      Bytes.read32? (halfPushed.storeFrame 0x1004 0x20001).memory.frame o = some 0 := by
    show Bytes.read32? (Bytes.write32 halfPushed.memory.frame 0x1004 0x20001) o = some 0
    rw [halfPushed_frame, Bytes.read32?_write32_of_disjoint (by omega),
      Bytes.read32?_write32_of_disjoint (by omega), Bytes.read32?_write32_of_disjoint (by omega),
      read_zeros h.2]
  have hplace : (halfPushed.storeFrame 0x1004 0x20001).ring.place
      (halfPushed.storeFrame 0x1004 0x20001).ring.readPtr.toNat = 0x1008 := by decide
  have hplace' : (halfPushed.storeFrame 0x1004 0x20001).ring.place
      ((halfPushed.storeFrame 0x1004 0x20001).ring.readPtr.toNat + 1) = 0x100C := by
    decide
  have hdrain := countEntry_drain hready (show ((0, 0) : UInt32 × UInt32).1 &&& _ = 0 by decide)
    (by simp [pairWrites]) (by rw [hplace]; exact hzero _ (by omega))
    (by rw [hplace']; exact hzero _ (by omega))
  rw [hwrite, hdrain]
  decide

/-- Two halfwords of the second word over the zeros of the ring push the pair with the low one, and
then write the word with both. -/
theorem narrow_onePage :
    (onePage.write32Halves (onePage.ringAddress 0) 0x158).write32Halves (onePage.ringAddress 1)
        0x20001 =
      halfPushed.write32 (onePage.ringAddress 1) 0x20001 := by
  have h := onePage_ready.awaitsPair
  have hptr : onePage.ring.readPtr.toNat = 0 := by decide
  have hplace : onePage.ring.place 1 = 0x1004 := by decide
  have hplace' : halfPushed.ring.place 1 = 0x1004 := by decide
  have haddr : onePage.ringAddress 1 = halfPushed.ringAddress 1 := by decide
  have hzero : onePage.peek (onePage.ringAddress 1) = 0 := by
    rw [peek_ringAddress h.words 1 h.enabled h.inside, onePage_memory, hplace]
    exact congrArg (Option.getD · 0) (read_zeros (by decide))
  have hone : halfPushed.peek (onePage.ringAddress 1) = 1 := by
    have hready := halfPushed_ready
    rw [haddr, peek_ringAddress hready.words 1 hready.enabled hready.inside, hplace',
      halfPushed_frame, Bytes.read32?_write32_same (by simp [Bytes.size_zeros]), Option.getD_some]
  have hheader := (h.write_header 0x158).1
  have hdata := h.writeParts_data (0x158, 0x20001) 2 [(2, 2)]
  rw [hptr] at hheader hdata
  have hvalid : (onePage.write32 (onePage.ringAddress 0) 0x158).layout.decode
      (onePage.ringAddress 1) ≠ .invalid := by
    rw [layout_write32]
    exact h.decode_valid 1
  have hlow : Word.splice 0 0x20001 0 2 = 1 := by decide
  have hboth : Word.splice 1 0x20001 2 2 = 0x20001 := by decide
  have hlast : halfPushed.writeParts (onePage.ringAddress 1) 0x20001 [(2, 2)] =
      halfPushed.write32 (onePage.ringAddress 1) 0x20001 := by
    rw [writeParts, List.foldl_cons, List.foldl_nil, hone, hboth]
  rw [hheader, write32Halves_eq (ringAddress_mod h.words 1) hvalid, hdata, hzero, hlow,
    pushPair_onePage]
  exact hlast

theorem push_narrow_loses :
    onePage.AwaitsPair ∧
      ((onePage.write32Halves (onePage.ringAddress 0) 0x158).write32Halves (onePage.ringAddress 1)
        0x20001).regs.get Register.colour0 = 1 ∧
      ((onePage.write32 (onePage.ringAddress 0) 0x158).write32 (onePage.ringAddress 1)
        0x20001).regs.get Register.colour0 = 0x20001 := by
  refine ⟨onePage_ready.awaitsPair, ?_, ?_⟩
  · rw [narrow_onePage]
    exact second_write_onePage
  · show (onePage.pushPair onePage.ringAddress 0 (0x158, 0x20001)).regs.get _ = _
    rw [pushPair_onePage]
    decide +kernel

end PumaBoard.Coprocessor
