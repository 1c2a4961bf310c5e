import PumaBoard.Coprocessor.Drain
import PumaBoard.Proofs.Memory.Words

/-!
The geometry of the command ring in natural numbers: how many words it has, at which byte of the
frame buffer a word stands, and that every word lies between the two ends of the ring.
-/

namespace PumaBoard

namespace Ring

/-! ### Words -/

theorem slots_toNat (r : Ring) : r.slots.toNat = (r.stop.toNat - r.start.toNat) / 8 := by
  unfold slots
  split
  · next h => simp [Nat.shiftRight_eq_div_pow, UInt32.toNat_sub_of_le _ _ h]
  · next h =>
    have : r.stop.toNat < r.start.toNat := by simpa [UInt32.le_iff_toNat_le] using h
    simp; omega

theorem words_toNat (r : Ring) : r.words.toNat = 2 * ((r.stop.toNat - r.start.toNat) / 8) := by
  have := r.stop.toNat_lt
  rw [words, UInt32.toNat_mul, slots_toNat]
  simp; omega

theorem words_even (r : Ring) : r.words.toNat % 2 = 0 := by
  rw [words_toNat]; omega

theorem words_pos {r : Ring} (h : r.words ≠ 0) : 0 < r.words.toNat := by
  have : r.words.toNat ≠ 0 := fun h0 => h (UInt32.toNat_inj.mp h0)
  omega

theorem toNat_page_mod (page : UInt32) : (page <<< 12).toNat % 4096 = 0 := by
  rw [UInt32.toNat_shiftLeft]
  show page.toNat <<< 12 % 2 ^ 32 % 4096 = 0
  omega

theorem start_mod (r : Ring) : r.start.toNat % 4096 = 0 := toNat_page_mod r.bottomPage

theorem stop_mod (r : Ring) : r.stop.toNat % 4096 = 0 := toNat_page_mod r.topPage

/-- The two ends of a ring are ends of pages, so its words fill the window. -/
theorem four_mul_words (r : Ring) : 4 * r.words.toNat = r.stop.toNat - r.start.toNat := by
  have hstart := r.start_mod
  have hstop := r.stop_mod
  have hwords := r.words_toNat
  omega

/-- The low three bits of an offset from the start are its place within the 64-bit slots. -/
theorem toNat_sub_start_and {r : Ring} {offset : UInt32} (h : r.start ≤ offset) :
    ((offset - r.start) &&& 7).toNat = (offset.toNat - r.start.toNat) % 8 := by
  rw [UInt32.toNat_and, UInt32.toNat_sub_of_le _ _ h, show (7 : UInt32).toNat = 2 ^ 3 - 1 from rfl,
    Nat.and_two_pow_sub_one_eq_mod]

/-! ### Places -/

/-- The byte of the frame buffer at which word `w` of the ring starts, counted around the ring. -/
def place (r : Ring) (w : Nat) : Nat := r.start.toNat + 4 * (w % r.words.toNat)

theorem place_add_four_le {r : Ring} (h : r.words ≠ 0) (w : Nat) :
    r.place w + 4 ≤ r.stop.toNat := by
  have hw := Nat.mod_lt w (words_pos h)
  have := r.words_toNat
  unfold place; omega

theorem start_le_place (r : Ring) (w : Nat) : r.start.toNat ≤ r.place w := Nat.le_add_right ..

theorem place_add_mod (r : Ring) (w n : Nat) :
    r.place (w % r.words.toNat + n) = r.place (w + n) := by
  rw [place, place, Nat.mod_add_mod]

theorem toNat_wordAddress? {r : Ring} (h : r.words ≠ 0) (n : UInt32) :
    ∃ a, r.wordAddress? n = some a ∧ a.toNat = r.place (r.readPtr.toNat + n.toNat) := by
  refine ⟨_, if_neg h, ?_⟩
  have hle := r.place_add_four_le h (r.readPtr.toNat + n.toNat)
  have := r.stop.toNat_lt
  unfold place at hle ⊢
  simp only [UInt32.toNat_add, UInt32.toNat_mul, UInt32.toNat_ofNat']
  simp; omega

theorem toNat_ofNat_place {r : Ring} (h : r.words ≠ 0) (w : Nat) :
    (UInt32.ofNat (r.place w)).toNat = r.place w := by
  have := r.place_add_four_le h w
  have := r.stop.toNat_lt
  exact UInt32.toNat_ofNat_of_lt' (by simp only [UInt32.size]; omega)

/-- The two words of a pair are neighbours: no pair wraps around. -/
theorem place_succ_of_even (r : Ring) {w : Nat} (hw : w % 2 = 0) :
    r.place (w + 1) = r.place w + 4 := by
  have heven := r.words_even
  have hsum : (w % r.words.toNat + 1) % r.words.toNat = (w + 1) % r.words.toNat :=
    Nat.mod_add_mod ..
  have hpar : w % r.words.toNat % 2 = w % 2 := Nat.mod_mod_of_dvd _ (Nat.dvd_of_mod_eq_zero heven)
  rcases Nat.eq_zero_or_pos r.words.toNat with h0 | hpos
  · simp only [place, h0, Nat.mod_zero]; omega
  · have hlt := Nat.mod_lt w hpos
    rw [Nat.mod_eq_of_lt (by omega)] at hsum
    unfold place; omega

theorem place_sub_start_mod (r : Ring) (w : Nat) :
    (r.place w - r.start.toNat) % 8 = 4 * (w % 2) := by
  have hpar : w % r.words.toNat % 2 = w % 2 :=
    Nat.mod_mod_of_dvd _ (Nat.dvd_of_mod_eq_zero r.words_even)
  unfold place; omega

/-- Two words of the ring do not overlap unless they are the same. -/
theorem place_disjoint (r : Ring) {w k : Nat} (hk : 0 < k) (hlt : k < r.words.toNat) :
    r.place w + 4 ≤ r.place (w + k) ∨ r.place (w + k) + 4 ≤ r.place w := by
  have hsum : (w % r.words.toNat + k) % r.words.toNat = (w + k) % r.words.toNat :=
    Nat.mod_add_mod ..
  have hw := Nat.mod_lt w (show 0 < r.words.toNat by omega)
  -- the second word lies behind the first one, or in front of it once around the ring
  rcases Nat.lt_or_ge (w % r.words.toNat + k) r.words.toNat with h | h
  · rw [Nat.mod_eq_of_lt h] at hsum
    unfold place; omega
  · rw [Nat.mod_eq_sub_mod h, Nat.mod_eq_of_lt (by omega)] at hsum
    unfold place; omega

/-! ### The read pointer -/

theorem advance_of_lt {r : Ring} (hr : r.readPtr < r.words) {n : UInt32}
    (hn : n.toNat < 0x80000000) :
    r.advance n =
      { r with readPtr := UInt32.ofNat ((r.readPtr.toNat + n.toNat) % r.words.toNat) } := by
  have hlt : r.readPtr.toNat < r.words.toNat := UInt32.lt_iff_toNat_lt.mp hr
  have hwords := r.words_toNat
  have hstop := r.stop.toNat_lt
  have h0 : r.words ≠ 0 := fun h => by rw [h] at hlt; simp at hlt
  -- a ring has less than 2 ^ 30 words, so the sum does not overflow
  have hsum : (r.readPtr + n).toNat = r.readPtr.toNat + n.toNat := by
    rw [UInt32.toNat_add]
    exact Nat.mod_eq_of_lt (by omega)
  have hptr : (r.readPtr + n) % r.words =
      UInt32.ofNat ((r.readPtr.toNat + n.toNat) % r.words.toNat) := by
    apply UInt32.toNat_inj.mp
    rw [UInt32.toNat_mod, hsum, UInt32.toNat_ofNat']
    exact (Nat.mod_eq_of_lt (Nat.lt_trans (Nat.mod_lt _ (by omega)) r.words.toNat_lt)).symm
  rw [advance, if_neg h0, hptr]

/-- An executed packet moves the read pointer and takes an entry. -/
theorem retireEntry_advance {r : Ring} (hr : r.readPtr < r.words) (hc : r.entryCount ≠ 0)
    {n : UInt32} (hn : n.toNat < 0x80000000) :
    (r.advance n).retireEntry =
      { r with
        readPtr := UInt32.ofNat ((r.readPtr.toNat + n.toNat) % r.words.toNat)
        entryCount := r.entryCount - 1 } := by
  rw [advance_of_lt hr hn, retireEntry]
  simp only [if_neg hc]

/-! ### Packets -/

namespace Packet

theorem toNat_page_lt (header : UInt32) : (page header).toNat < 0x200000 := by
  rw [page, UInt32.toNat_and]
  exact Nat.lt_of_le_of_lt Nat.and_le_right (by decide)

theorem decode_eq_group_iff {header data base mask : UInt32} :
    decode header data = .group base mask ↔
      header &&& 0x80000000 ≠ 0 ∧ base = page header ∧ mask = data := by
  unfold decode
  split
  · next h0 => simp [h0.1]
  · split
    · next hsign => simp [hsign, eq_comm]
    · next hsign => simp [Decidable.not_not.mp hsign]

theorem length_lt (p : Packet) : p.length.toNat < 0x80000000 := by
  cases p with
  | nop => decide
  | single page value =>
    show (2 : UInt32).toNat < 0x80000000
    decide
  | group base mask =>
    show (if Word.population mask = 0 then 2 else 1 + Word.population mask).toNat < 0x80000000
    split
    · decide
    · have hpop := Word.toNat_population mask
      have hlen := Word.length_setBits_le mask
      rw [UInt32.toNat_add, UInt32.toNat_one]
      omega

end Packet

end Ring

namespace Coprocessor

theorem ringWord?_eq {d : Coprocessor} (h : d.ring.words ≠ 0) (n : UInt32) :
    d.ringWord? n =
      Bytes.read32? d.memory.frame (d.ring.place (d.ring.readPtr.toNat + n.toNat)) := by
  obtain ⟨a, ha, hn⟩ := Ring.toNat_wordAddress? h n
  rw [ringWord?, ha, Option.bind_some, Aperture.Memory.readFrame32?, hn]

/-- The offset in the frame buffer of word `w` of the ring. -/
def ringOffset (d : Coprocessor) (w : Nat) : UInt32 := UInt32.ofNat (d.ring.place w)

theorem toNat_ringOffset {d : Coprocessor} (h : d.ring.words ≠ 0) (w : Nat) :
    (d.ringOffset w).toNat = d.ring.place w := Ring.toNat_ofNat_place h w

end Coprocessor

end PumaBoard
