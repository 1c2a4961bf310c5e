import PumaBoard.Proofs.Host.Events
import PumaBoard.Proofs.Host.Reads

/-!
The register window as a store of bytes. Whatever the accesses are, each byte of the window reads as
it was last written, but for the two start bits, which are never seen set, and for what an enabled
coprocessor shows through. The engines are idle between accesses, and the video memory changes by
linear writes and by the start of a rectangle fill alone.
-/

namespace PumaBoard

namespace HostChip

open Host (Registers)
open Host.Registers (place)

/-- The byte last written to a place; zero if none has been. -/
def lastByte (log : List Store) (p : Nat) : UInt8 :=
  ((log.filter (·.1 = p)).getLast?.map Prod.snd).getD 0

theorem lastByte_concat (log : List Store) (s : Store) (p : Nat) :
    lastByte (log ++ [s]) p = if s.1 = p then s.2 else lastByte log p := by
  unfold lastByte
  rw [List.filter_append]
  by_cases h : s.1 = p
  · simp [h]
  · simp [h]

/-- A host chip just made or just reset. -/
def Fresh (h : HostChip) : Prop :=
  (∃ size coprocessor, h = create size coprocessor) ∨ ∃ e : HostChip, h = e.reset

/-! ### Reads -/

/-- The low byte of the status of an enabled coprocessor; zero without one. -/
def statusLow (h : HostChip) : UInt8 :=
  match h.coprocessor with
  | some d => if d.enabled then UInt8.ofNat (d.readIndex 0).toNat else 0
  | none => 0

theorem statusByte_eq (h : HostChip) (stored : UInt8) :
    h.statusByte stored = stored ||| h.statusLow := by
  have hstatus (d : Coprocessor) : d.statusValue.toUInt8 = UInt8.ofNat (d.readIndex 0).toNat := by
    rw [← UInt8.toNat_inj, UInt32.toNat_toUInt8, UInt8.toNat_ofNat']
    rfl
  unfold statusByte statusLow
  cases h.coprocessor with
  | none => exact (UInt8.or_zero).symm
  | some d =>
    dsimp only
    cases d.enabled with
    | true => rw [if_pos rfl, if_pos rfl, hstatus]
    | false => exact (UInt8.or_zero).symm

/-- Where no enabled coprocessor is asked, a byte reads as it is stored, with its status mixed into
one of them. -/
theorem windowRead8_eq (h : HostChip) {o : UInt32}
    (ho : ¬ (h.coprocessorEnabled = true ∧ 0x40C ≤ place o ∧ place o ≤ 0x40F)) :
    (h.windowRead8 o).1 =
      if place o = 0x405 then h.regs.byte o ||| h.statusLow else h.regs.byte o := by
  have hbyte : h.regs.byte (o &&& 0xFFFF) = h.regs.byte o := byte_congr _ (place_cut o)
  have hread : (h.windowRead8 o).1 = (h.fetch8 (o &&& 0xFFFF)).1 := rfl
  have hplace : (bridgeData ≤ o &&& 0xFFFF && o &&& 0xFFFF ≤ 0x40F) = true ↔
      0x40C ≤ place o ∧ place o ≤ 0x40F := by
    simp only [Bool.and_eq_true, decide_eq_true_eq]
    exact Iff.rfl
  rw [hread]
  by_cases hdata : 0x40C ≤ place o ∧ place o ≤ 0x40F
  · have hoff : ¬ h.coprocessorEnabled = true := fun hon => ho ⟨hon, hdata⟩
    rw [fetch8_data h (hplace.mpr hdata), askEnabled, if_neg hoff, if_neg (by omega)]
    exact hbyte
  · rw [fetch8_stored h (mt hplace.mp hdata), hbyte, statusByte_eq]
    exact if_congr cut_eq_iff rfl rfl

/-! ### Runs -/

/-- The window holds the bytes of a log as they are shown, and the engines are idle. -/
structure Stored (h : HostChip) (log : List Store) : Prop where
  byte : ∀ o, h.regs.byte o = shown (place o) (lastByte log (place o))
  busy : h.busy = {}

section Runs

variable {h : HostChip} {log : List Store}

theorem stored_zeroed {e : HostChip} (hregs : e.regs = .zeroed) (hbusy : e.busy = {}) :
    Stored e [] := by
  refine ⟨fun o => ?_, hbusy⟩
  have hzero : shown (place o) 0 = 0 := by
    unfold shown
    split <;> rfl
  rw [hregs, Registers.byte_eq, Registers.zeroed, Bytes.byteD_zeros]
  exact hzero.symm

theorem stored_reset (h : HostChip) : Stored h.reset [] :=
  stored_zeroed (SameWindow.reset h).regs (SameWindow.reset h).busy

theorem kept_stored : Kept Stored where
  same {h e log} hs hsame :=
    { byte := fun o => by rw [hsame.regs, hs.byte]
      busy := hsame.busy.trans hs.busy }
  write {h log} offset v hs := by
    refine ⟨fun o => ?_, busy_windowWrite8 hs.busy offset v⟩
    rw [byte_windowWrite8, lastByte_concat, hs.byte]
    dsimp only
    split <;> rfl
  video hs _ := ⟨hs.byte, hs.busy⟩
  reset h := stored_reset h

theorem Fresh.stored (hh : h.Fresh) : Stored h [] := by
  rcases hh with ⟨size, coprocessor, rfl⟩ | ⟨e, rfl⟩
  · exact stored_zeroed rfl rfl
  · exact stored_reset e

/-- The start bit of a command is clear. -/
theorem Stored.start_clear (hs : Stored h log) {base : UInt32}
    (hbase : place (base + 3) = 0x043 ∨ place (base + 3) = 0x303) :
    h.regs.word base &&& 0x80000000 = 0 := by
  rw [word_top, hs.byte, shown, if_pos hbase, Word.byte_and_low7]
  exact Nat.mod_lt _ (by decide)

/-- Cycles that keep their hands off the video memory change it by starting a fill. -/
theorem Stored.video_cycles (hs : Stored h log) {cs : List Cycle}
    (hcs : ∀ edit, .video edit ∈ cs → ∀ m, edit m = m)
    (hv : (cs.foldl HostChip.cycle h).video ≠ h.video) :
    ∃ pre v post, cs.flatMap Cycle.stores = pre ++ (0x043, v) :: post ∧ 128 ≤ v.toNat ∧
      (lastByte (log ++ pre) 0x040).toNat % 16 = 1 := by
  induction cs generalizing h log with
  | nil => exact absurd rfl hv
  | cons c cs ih =>
    have hsized : c.Sized := by
      rintro edit rfl m
      rw [hcs edit List.mem_cons_self m]
    by_cases hc : (h.cycle c).video = h.video
    · rw [List.foldl_cons, ← hc] at hv
      obtain ⟨pre, v, post, hstores, htop, hcode⟩ :=
        ih (kept_stored.cycle hs hsized) (fun edit hedit => hcs edit (.tail c hedit)) hv
      refine ⟨c.stores ++ pre, v, post, ?_, htop, ?_⟩
      · rw [List.flatMap_cons, hstores, List.append_assoc]
      · rwa [← List.append_assoc]
    · cases c with
      | write offset v =>
        obtain ⟨hplace, htop, hcode⟩ := video_windowWrite8 hc
        refine ⟨[], v, cs.flatMap Cycle.stores, ?_, htop, ?_⟩
        · rw [List.flatMap_cons, Cycle.stores, hplace]
          rfl
        · rw [List.append_nil]
          rwa [hs.byte] at hcode
      | video edit => exact absurd (hcs edit List.mem_cons_self h.video) hc
      | _ => exact absurd (SameWindow.cycle h (by simp) (by simp)).video hc

theorem Stored.video_event (hs : Stored h log) {e : Event} (hv : (h.event e).video ≠ h.video) :
    ∃ a, e = .access a ∧ (a.writesVideo = true ∨
      ∃ pre v post, a.stores = pre ++ (0x043, v) :: post ∧ 128 ≤ v.toNat ∧
        (lastByte (log ++ pre) 0x040).toNat % 16 = 1) := by
  cases e with
  | reset => exact absurd (SameWindow.reset h).video hv
  | coprocessor op => exact absurd ((SameWindow.refl h).withCoprocessor _).video hv
  | access a =>
    refine ⟨a, rfl, ?_⟩
    cases hlinear : a.writesVideo with
    | true => exact .inl rfl
    | false =>
      right
      rw [← stores_cycles]
      refine hs.video_cycles (video_keeps hlinear) ?_
      rwa [← access_cycles]

end Runs

/-- **The window is a store of bytes.** In every run from a new or reset host chip each byte of the
window reads as it was last written, with the two start bits cleared and the status of an enabled
coprocessor mixed into one byte; only the data word of the bridge is asked of such a coprocessor.
Between accesses no engine is busy and no start bit set, and the video memory changes by linear
writes and by writes that start the filling of a rectangle alone. -/
theorem window_stores {h : HostChip} (hh : h.Fresh) (es : List Event) :
    (∀ o : UInt32,
      ¬ ((h.events es).coprocessorEnabled = true ∧ 0x40C ≤ o.toNat % 65536 ∧
        o.toNat % 65536 ≤ 0x40F) →
      ((h.events es).windowRead8 o).1 =
        if o.toNat % 65536 = 0x405 then
          lastByte (written es) 0x405 ||| (h.events es).statusLow
        else if o.toNat % 65536 = 0x043 ∨ o.toNat % 65536 = 0x303 then
          lastByte (written es) (o.toNat % 65536) &&& 0x7F
        else lastByte (written es) (o.toNat % 65536)) ∧
    (h.events es).busy = {} ∧
    (h.events es).regs.word Host.Draw.control &&& Host.Draw.start = 0 ∧
    (h.events es).regs.word commandSet &&& commandStart = 0 ∧
    ∀ e, ((h.events es).event e).video ≠ (h.events es).video →
      ∃ a, e = .access a ∧ (a.writesVideo = true ∨
        ∃ pre v post, a.stores = pre ++ (0x043, v) :: post ∧ 128 ≤ v.toNat ∧
          (lastByte (written es ++ pre) 0x040).toNat % 16 = 1) := by
  have hs : Stored (h.events es) (written es) := kept_stored.events hh.stored es
  refine ⟨fun o ho => ?_, hs.busy, hs.start_clear (by decide), hs.start_clear (by decide),
    fun e hv => hs.video_event hv⟩
  rw [← place_eq] at ho ⊢
  rw [windowRead8_eq _ ho, hs.byte]
  unfold shown
  split
  · next hstatus => rw [hstatus, if_neg (by decide)]
  · rfl

/-- A word over four places of the window, two before and two after its drawing command. -/
def straddlingWrite : List Event := [.access (.write32 0x10042 0xAABB8055)]

theorem window_stores_straddlingWrite :
    let h : HostChip := create .mb1 (some (.mb8, {}))
    ((h.events straddlingWrite).windowRead8 0x043).1 = 0 ∧
      ((h.events straddlingWrite).windowRead8 0x045).1 = 0xAA := by
  intro h
  obtain ⟨hread, -⟩ := window_stores (h := h) (.inl ⟨_, _, rfl⟩) straddlingWrite
  have hother (o : UInt32) (ho : o.toNat % 65536 < 0x100) :
      ((h.events straddlingWrite).windowRead8 o).1 =
        shown (o.toNat % 65536) (lastByte (written straddlingWrite) (o.toNat % 65536)) := by
    rw [hread o (by omega), if_neg (by omega)]
    rfl
  exact ⟨(hother 0x043 (by decide)).trans (by decide),
    (hother 0x045 (by decide)).trans (by decide)⟩

end HostChip

end PumaBoard
