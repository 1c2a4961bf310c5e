import Mathlib.Algebra.Group.Nat.Defs
import PumaBoard.Proofs.Ring.Stream

/-!
A group of register writes as one snapshot. Which pages a group writes, and with which words, is
settled by the mask and by the ring as it stands before the packet; the read pointer moves first,
the writes follow in the order of the set bits, and the entry goes last. No write is excepted: one
may fill the ring, move it, empty it or switch it off, and the rest of the group is still written.
-/

namespace PumaBoard

/-! ### The set bits of a mask -/

namespace Word

/-- The positions of the set bits of a word as numbers, lowest first. -/
def positions (w : UInt32) : List Nat := (List.range 32).filter w.toNat.testBit

variable (w : UInt32)

theorem setBits_eq_positions : setBits w = (positions w).map UInt32.ofNat := by
  unfold setBits positions
  rw [List.filter_map]
  refine congrArg _ (List.filter_congr fun n hn => ?_)
  exact bit_ofNat w (List.mem_range.mp hn)

theorem length_positions : (positions w).length = (population w).toNat := by
  rw [toNat_population, setBits_eq_positions, List.length_map]

theorem length_positions_le : (positions w).length ≤ 32 := by
  rw [length_positions, toNat_population]
  exact length_setBits_le w

variable {w}

theorem lt_of_mem_positions {n : Nat} (h : n ∈ positions w) : n < 32 :=
  List.mem_range.mp (List.mem_filter.mp h).1

end Word

namespace Coprocessor

/-! ### What a group says -/

section Snapshot

variable (d : Coprocessor)

/-- Word `w` of the ring, counted around it; outside the frame buffer it counts as zero. -/
def ringWordD (w : Nat) : UInt32 := (Bytes.read32? d.memory.frame (d.ring.place w)).getD 0

/-- The pages that a group writes, with their words: the first word after the mask is for the
lowest set bit. -/
def groupSnapshot (base mask : UInt32) : List (Nat × UInt32) :=
  ((Word.positions mask).zipIdx 1).map fun (i, j) =>
    (base.toNat + i, d.ringWordD (d.ring.readPtr.toNat + 1 + j))

/-- The number of register pages. -/
def pageCount : Nat := d.layout.registerSize.toNat / 4096

/-- Writes the register of a page by its index. A page past the last is only told of. -/
def writeBelow (pages : Nat) (w : Nat × UInt32) : Coprocessor :=
  if w.1 < pages then d.writeIndex (UInt32.ofNat (w.1 % 256)) w.2
  else d.note (.pageInvalid (UInt32.ofNat w.1))

/-- The state with the read pointer past a group of `n` writes. -/
def passGroup (n : Nat) : Coprocessor :=
  d.setRing { d.ring with
    readPtr := UInt32.ofNat ((d.ring.readPtr.toNat + 1 + n) % d.ring.words.toNat) }

/-- The state with one entry less, if there is one. -/
def dropEntry : Coprocessor :=
  d.setRing { d.ring with entryCount := UInt32.ofNat (d.ring.entryCount.toNat - 1) }

/-- What a group comes to: the read pointer moves, the writes that the ring held are carried out
in order, and the entry is retired. -/
def writeGroup (base mask : UInt32) : Coprocessor :=
  ((d.groupSnapshot base mask).foldl (writeBelow · d.pageCount)
    (d.passGroup (Word.positions mask).length)).dropEntry

/-! ### Pages by number -/

theorem pages_toNat (l : Aperture.Layout) : l.pages.toNat = l.registerSize.toNat / 4096 := by
  rw [Aperture.Layout.pages, UInt32.toNat_shiftRight]
  exact Nat.shiftRight_eq_div_pow ..

theorem register?_ofNat_mod (n : Nat) :
    register? (UInt32.ofNat (n % 256)) = some (Fin.ofNat 256 n) := by
  have hlt : n % 256 < 256 := Nat.mod_lt _ (by decide)
  have hn : (UInt32.ofNat (n % 256)).toNat = n % 256 :=
    UInt32.toNat_ofNat_of_lt' (Nat.lt_trans hlt (by decide))
  rw [register?, dif_pos (by rw [hn]; exact hlt)]
  exact congrArg some (Fin.ext hn)

theorem writePage_ofNat {n : Nat} (hn : n < 2 ^ 32) (v : UInt32) :
    d.writePage (UInt32.ofNat n) v = d.writeBelow d.pageCount (n, v) := by
  have hnat : (UInt32.ofNat n).toNat = n := UInt32.toNat_ofNat_of_lt' hn
  have hpage : UInt32.ofNat n < d.layout.pages ↔ n < d.pageCount := by
    rw [UInt32.lt_iff_toNat_lt, hnat, pages_toNat]
    rfl
  unfold writePage writeBelow
  rw [Aperture.Layout.page?]
  by_cases h : n < d.pageCount
  · rw [if_pos (hpage.mpr h), if_pos h, writeIndex, register?_ofNat_mod, Register.ofWord, hnat]
  · rw [if_neg (mt hpage.mp h), if_neg h]

theorem pageCount_writePage (page v : UInt32) : (d.writePage page v).pageCount = d.pageCount := by
  rw [pageCount, layout_writePage]
  rfl

/-- Writes through pages are writes by number, and the number of pages stays what it was before
the first of them. -/
theorem writePages_ofNat {ws : List (Nat × UInt32)} (h : ∀ w ∈ ws, w.1 < 2 ^ 32) :
    d.writePages (ws.map fun w => (UInt32.ofNat w.1, w.2)) =
      ws.foldl (writeBelow · d.pageCount) d := by
  induction ws generalizing d with
  | nil => rfl
  | cons w ws ih =>
    obtain ⟨hw, hws⟩ := List.forall_mem_cons.mp h
    have hrest := ih (d.writePage (UInt32.ofNat w.1) w.2) hws
    rw [pageCount_writePage, writePage_ofNat d hw] at hrest
    rw [List.foldl_cons, ← hrest, ← writePage_ofNat d hw]
    rfl

end Snapshot

/-! ### The group at the read pointer -/

/-- A drain is about to execute a group. -/
structure AtGroup (d : Coprocessor) (header base mask : UInt32) : Prop where
  enabled : d.ring.enabled = true
  pending : d.ring.entryCount ≠ 0
  fetch : d.fetch = .ok (header, .group base mask)

section Group

variable {d : Coprocessor} {header base mask : UInt32}

theorem readPtr_lt_of_fetch {found : UInt32 × Ring.Packet} (h : d.fetch = .ok found) :
    d.ring.readPtr < d.ring.words := by
  rw [fetch] at h
  split at h
  · cases h
  · next hge => exact UInt32.not_le.mp hge

theorem words_ne_zero_of_fetch {found : UInt32 × Ring.Packet} (h : d.fetch = .ok found) :
    d.ring.words ≠ 0 := by
  intro h0
  have hlt := readPtr_lt_of_fetch h
  rw [h0] at hlt
  exact UInt32.not_lt_zero hlt

/-- A group is next when the ring holds its header and its mask at the read pointer. -/
theorem fetch_eq_group_iff :
    d.fetch = .ok (header, .group base mask) ↔
      d.ring.readPtr < d.ring.words ∧
        Bytes.read32? d.memory.frame (d.ring.place d.ring.readPtr.toNat) = some header ∧
        Bytes.read32? d.memory.frame (d.ring.place (d.ring.readPtr.toNat + 1)) = some mask ∧
        header &&& 0x80000000 ≠ 0 ∧ base = Ring.Packet.page header := by
  constructor
  · intro h
    have hr := readPtr_lt_of_fetch h
    have hw := words_ne_zero_of_fetch h
    rw [fetch, if_neg (UInt32.not_le.mpr hr)] at h
    split at h
    · next first second h0 h1 =>
      injection h with hfound
      injection hfound with hheader hpacket
      obtain ⟨hsign, hbase, hmask⟩ := Ring.Packet.decode_eq_group_iff.mp hpacket
      rw [ringWord?_eq hw] at h0 h1
      rw [hmask, ← hheader]
      exact ⟨hr, h0, h1, hsign, hbase⟩
    · cases h
  · rintro ⟨hr, hheader, hmask, hsign, hbase⟩
    have hw : d.ring.words ≠ 0 := fun h0 => UInt32.not_lt_zero (h0 ▸ hr)
    rw [fetch_eq hr hw hheader hmask, Ring.Packet.decode_eq_group_iff.mpr ⟨hsign, hbase, rfl⟩]

theorem AtGroup.base_lt (h : d.AtGroup header base mask) : base.toNat < 2 ^ 21 := by
  obtain ⟨-, -, -, -, hbase⟩ := fetch_eq_group_iff.mp h.fetch
  rw [hbase]
  exact Ring.Packet.toNat_page_lt header

theorem groupSnapshot_lt (hb : base.toNat < 2 ^ 21) :
    ∀ w ∈ d.groupSnapshot base mask, w.1 < 2 ^ 32 := by
  intro w hw
  obtain ⟨⟨i, j⟩, hmem, rfl⟩ := List.mem_map.mp hw
  have hi : i < 32 := Word.lt_of_mem_positions (List.fst_mem_of_mem_zipIdx hmem)
  show base.toNat + i < 2 ^ 32
  omega

/-- The words that the packet takes are the words of the ring before the packet. -/
theorem groupWrites_eq_snapshot (hw : d.ring.words ≠ 0) :
    d.groupWrites base mask =
      (d.groupSnapshot base mask).map fun w => (UInt32.ofNat w.1, w.2) := by
  unfold groupWrites groupSnapshot
  rw [Word.setBits_eq_positions, List.map_map]
  refine List.ext_getElem (by simp) fun k hk hk' => ?_
  have hlen : k < (Word.positions mask).length := by simpa using hk
  have hle := Word.length_positions_le mask
  have hat : (2 + UInt32.ofNat k).toNat = k + 2 := by
    rw [UInt32.toNat_add, UInt32.toNat_ofNat_of_lt' (Nat.lt_trans
      (Nat.lt_of_lt_of_le hlen hle) (by decide))]
    simp; omega
  have hsum : d.ring.readPtr.toNat + (k + 2) = d.ring.readPtr.toNat + 1 + (1 + k) := by omega
  simp only [List.getElem_map, List.getElem_zipIdx, Function.comp_apply, Nat.zero_add,
    ringWord?_eq hw, hat, hsum, ringWordD, UInt32.ofNat_add, UInt32.ofNat_toNat]

/-- The read pointer moves past the header and the data words. -/
theorem advance_group (hr : d.ring.readPtr < d.ring.words) (hm : mask ≠ 0) :
    d.advance (.group base mask) = d.passGroup (Word.positions mask).length := by
  have hpop : Word.population mask ≠ 0 := Ring.Message.population_ne_zero hm
  have hle := Word.length_positions_le mask
  have hlen := Word.length_positions mask
  have hlength : (Ring.Packet.group base mask).length.toNat =
      1 + (Word.positions mask).length := by
    rw [Ring.Packet.length, if_neg hpop, UInt32.toNat_add, ← hlen]
    exact Nat.mod_eq_of_lt (by simp only [UInt32.toNat_one]; omega)
  rw [advance_eq, Ring.advance_of_lt hr (by omega), hlength, ← Nat.add_assoc]
  rfl

theorem retire_eq_dropEntry (d : Coprocessor) : d.retire = d.dropEntry := by
  have hcount : (if d.ring.entryCount = 0 then 0 else d.ring.entryCount - 1) =
      UInt32.ofNat (d.ring.entryCount.toNat - 1) := by
    split
    · next h0 => rw [h0]; rfl
    · next h0 =>
      have hle : (1 : UInt32) ≤ d.ring.entryCount := by
        have hpos : 0 < d.ring.entryCount.toNat := UInt32.pos_iff_ne_zero.mpr h0
        exact UInt32.le_iff_toNat_le.mpr hpos
      rw [← UInt32.toNat_one, ← UInt32.toNat_sub_of_le _ _ hle, UInt32.ofNat_toNat]
  rw [retire_eq, Ring.retireEntry, hcount]
  rfl

/-- **A group is one snapshot of ordered writes.** A drain that comes to a group moves the read
pointer past it, writes the words that stood in the ring before, in the order of the mask and
leaving out the pages past the register window, and then retires the entry, whatever the writes do
to the ring. -/
theorem drain_group (h : d.AtGroup header base mask) (hm : mask ≠ 0) :
    (d.executePacket header (.group base mask)).retire = d.writeGroup base mask ∧
      ∀ n, d.drainUpTo (n + 1) = (d.writeGroup base mask).drainUpTo n := by
  have hr := readPtr_lt_of_fetch h.fetch
  have hw := words_ne_zero_of_fetch h.fetch
  have hexecute : d.executePacket header (.group base mask) =
      (d.groupSnapshot base mask).foldl (writeBelow · d.pageCount)
        (d.passGroup (Word.positions mask).length) := by
    rw [executePacket_group, if_neg (Ring.Message.population_ne_zero hm), advance_group hr hm,
      groupWrites_eq_snapshot hw]
    exact writePages_ofNat _ (groupSnapshot_lt h.base_lt)
  have hgroup : (d.executePacket header (.group base mask)).retire = d.writeGroup base mask := by
    rw [hexecute, retire_eq_dropEntry]
    rfl
  refine ⟨hgroup, fun n => ?_⟩
  have hpos : d.ring.entryCount > 0 := UInt32.pos_iff_ne_zero.mpr h.pending
  rw [drainUpTo, if_pos (by simp [h.enabled, hpos]), h.fetch]
  dsimp only
  rw [hgroup]

end Group

/-- A group at the start of the ring that moves the read pointer, switches the ring off and names
one page past the register window. -/
def stopsRing : Coprocessor := twoEntries.storeWords 0 [0x800007A0, 0x01000028, 0x10, 0, 7]

theorem stands_stopsRing :
    stopsRing.ring.Stands stopsRing.memory.frame 0 [0x800007A0, 0x01000028, 0x10, 0, 7] :=
  stands_storeWords (d := twoEntries) (by decide +kernel) (by decide +kernel) 0 (by decide +kernel)

theorem snapshot_stopsRing :
    stopsRing.groupSnapshot 0x1E8 0x01000028 = [(0x1EB, 0x10), (0x1ED, 0), (0x200, 7)] := by
  have hpositions : Word.positions 0x01000028 = [3, 5, 24] := by decide +kernel
  have hptr : stopsRing.ring.readPtr.toNat = 0 := by decide +kernel
  have hword (k : Nat) (h : k < 5) :
      stopsRing.ringWordD k = [0x800007A0, 0x01000028, 0x10, 0, 7][k] := by
    have hstands := stands_stopsRing k h
    rw [Nat.zero_add] at hstands
    rw [ringWordD, hstands, Option.getD_some]
  rw [groupSnapshot, hpositions, hptr]
  simp [hword]

theorem drain_group_stops_ring :
    stopsRing.AtGroup 0x800007A0 0x1E8 0x01000028 ∧ (0x01000028 : UInt32) ≠ 0 ∧
      (stopsRing.drainUpTo 2).ring =
        { twoEntries.ring with enabled := false, readPtr := 0x10, entryCount := 1 } := by
  have hgroup : stopsRing.AtGroup 0x800007A0 0x1E8 0x01000028 :=
    { enabled := by decide +kernel
      pending := by decide +kernel
      fetch := by
        have hptr : stopsRing.ring.readPtr.toNat = 0 := by decide +kernel
        rw [fetch_eq_group_iff, hptr]
        refine ⟨by decide +kernel, ?_, ?_, by decide, by decide⟩
        · exact stands_stopsRing 0 (by decide)
        · exact stands_stopsRing 1 (by decide) }
  refine ⟨hgroup, by decide, ?_⟩
  rw [(drain_group hgroup (by decide)).2 1, writeGroup, snapshot_stopsRing]
  decide +kernel

end Coprocessor

end PumaBoard
