import PumaBoard.Proofs.Host.Events

/-!
The cursor beside its registers. It is read anew on writes to eleven bytes of the window only, and
these are all the bytes it is made of: whatever else happens changes neither the cursor nor what its
registers say.
-/

namespace PumaBoard

/-! ### The bytes of the cursor -/

/-- The places in the window that hold the control, the position, the address and the hotspot of the
cursor. -/
def Host.Cursor.occupies (p : Nat) : Bool :=
  p = 0x140 ∨ (0x142 ≤ p ∧ p ≤ 0x145) ∨ (0x148 ≤ p ∧ p ≤ 0x14D)

namespace HostChip

open Host (Registers Cursor)
open Host.Registers (place)

theorem dependsOn_eq (offset : UInt32) :
    Cursor.dependsOn offset = Cursor.occupies offset.toNat := by
  have heq (o : UInt32) : offset = o ↔ offset.toNat = o.toNat := UInt32.toNat_inj.symm
  have hle (o e : UInt32) : o ≤ e ↔ o.toNat ≤ e.toNat := Iff.rfl
  rw [Bool.eq_iff_iff]
  simp only [Cursor.dependsOn, Cursor.occupies, heq, hle, Bool.or_eq_true, Bool.and_eq_true,
    decide_eq_true_eq, Cursor.control, Cursor.positionX, Cursor.address, Cursor.hotspotXOffset,
    Cursor.hotspotYOffset, UInt32.reduceToNat]
  omega

/-- The cursor is made of the bytes at its places. -/
theorem ofRegisters_congr {r s : Registers}
    (h : ∀ o : UInt32, Cursor.occupies (place o) = true → r.byte o = s.byte o) (mask : UInt32) :
    Cursor.ofRegisters r mask = Cursor.ofRegisters s mask := by
  have hcontrol := h Cursor.control rfl
  have hx : r.half Cursor.positionX = s.half Cursor.positionX := by
    rw [Registers.half, Registers.half, h Cursor.positionX rfl, h (Cursor.positionX + 1) rfl]
  have hy : r.half Cursor.positionY = s.half Cursor.positionY := by
    rw [Registers.half, Registers.half, h Cursor.positionY rfl, h (Cursor.positionY + 1) rfl]
  have haddr : r.word Cursor.address = s.word Cursor.address := by
    rw [Registers.word, Registers.word, h Cursor.address rfl, h (Cursor.address + 1) rfl,
      h (Cursor.address + 2) rfl, h (Cursor.address + 3) rfl]
  rw [Cursor.ofRegisters, Cursor.ofRegisters, hcontrol, hx, hy, haddr, h Cursor.hotspotXOffset rfl,
    h Cursor.hotspotYOffset rfl]

/-- What the registers say of the cursor. -/
def derivedCursor (h : HostChip) : Cursor := .ofRegisters h.regs h.video.mask

theorem derivedCursor_eq (h : HostChip) :
    h.derivedCursor = .ofRegisters h.regs (UInt32.ofNat (h.video.bytes.size - 1)) := by
  rw [derivedCursor, VideoMemory.mask, h.video.size_eq]

/-- The registers say the same when their bytes at the places of the cursor are the same. -/
theorem derivedCursor_congr {h e : HostChip}
    (hbyte : ∀ o : UInt32, Cursor.occupies (place o) = true → e.regs.byte o = h.regs.byte o)
    (hsize : e.video.size = h.video.size) : e.derivedCursor = h.derivedCursor := by
  rw [derivedCursor, derivedCursor, VideoMemory.mask, VideoMemory.mask, hsize,
    ofRegisters_congr hbyte]

/-! ### Writes to the window -/

section Writes

variable (h : HostChip)

/-- A drawing command leaves the cursor and the size of the video memory alone. -/
theorem startDraw_keeps :
    h.startDraw.cursor = h.cursor ∧ h.startDraw.video.size = h.video.size := by
  unfold startDraw
  dsimp only
  split
  · have hrun := runDraw_keeps { h with busy := { h.busy with draw2d := true } }
    exact ⟨hrun.cursor, hrun.size⟩
  · exact ⟨rfl, rfl⟩

/-- A write to a place of the cursor reads it anew, and no other effect reaches it. -/
theorem cursor_affect (o : UInt32) :
    (h.affect o).cursor = if Cursor.occupies o.toNat then h.derivedCursor else h.cursor := by
  rw [← dependsOn_eq]
  rcases h.affect_cases o with ⟨rfl, heq⟩ | ⟨rfl, heq⟩ | ⟨⟨-, -, hnone⟩, hsame⟩ | ⟨hcursor, heq⟩
  · rw [heq]
    exact h.startDraw_keeps.1
  · rw [heq]
    exact h.startRender_keeps.1
  · rw [hnone]
    exact hsame.cursor
  · rw [heq, hcursor]
    rfl

theorem size_affect (o : UInt32) : (h.affect o).video.size = h.video.size := by
  rcases h.affect_cases o with ⟨-, heq⟩ | ⟨-, heq⟩ | ⟨-, hsame⟩ | ⟨-, heq⟩
  · rw [heq, h.startDraw_keeps.2]
  · rw [heq, h.startRender_keeps.2]
  · rw [hsame.video]
  · rw [heq]

/-- No effect reaches the registers of the cursor. -/
theorem derivedCursor_affect (o : UInt32) : (h.affect o).derivedCursor = h.derivedCursor := by
  refine derivedCursor_congr (fun k hk => ?_) (h.size_affect o)
  rw [byte_affect, if_neg]
  rintro ⟨ho, hplace⟩
  rw [hplace] at hk
  rcases ho with rfl | rfl <;> exact absurd hk (by decide)

/-- A write to a place of the cursor leaves it as its registers have it then. -/
theorem cursor_windowWrite8 {offset : UInt32} (v : UInt8)
    (hoffset : Cursor.occupies (place offset) = true) :
    (h.windowWrite8 offset v).cursor = (h.windowWrite8 offset v).derivedCursor := by
  unfold windowWrite8
  dsimp only
  rw [cursor_affect, derivedCursor_affect]
  exact if_pos hoffset

/-- A write to any other place leaves alone both the cursor and what its registers say. -/
theorem cursor_windowWrite8_of_not {offset : UInt32} (v : UInt8)
    (hoffset : ¬ Cursor.occupies (place offset) = true) :
    (h.windowWrite8 offset v).cursor = h.cursor ∧
      (h.windowWrite8 offset v).derivedCursor = h.derivedCursor := by
  constructor
  · unfold windowWrite8
    dsimp only
    rw [cursor_affect]
    exact if_neg hoffset
  · refine derivedCursor_congr (fun k hk => ?_) (size_affect _ _)
    rw [byte_windowWrite8, if_neg]
    intro hplace
    exact hoffset (hplace ▸ hk)

end Writes

/-! ### Runs -/

/-- A byte of the cursor is among those of the log. -/
def touched (log : List Store) : Bool := log.any fun s => Cursor.occupies s.1

/-- The cursor is what its registers say, its size unknown until one of its bytes is written. -/
def Follows (h : HostChip) (log : List Store) : Prop :=
  h.cursor = { h.derivedCursor with size := if touched log then Cursor.imageSize else 0 }

theorem follows_zeroed {e : HostChip} (hregs : e.regs = .zeroed) (hcursor : e.cursor = {}) :
    Follows e [] := by
  have hbyte (o : UInt32) : e.regs.byte o = 0 := by
    rw [hregs, Registers.byte_eq, Registers.zeroed, Bytes.byteD_zeros]
  have haddr : (Word.ofLanes 0 0 0 0 &&& e.video.mask : UInt32) = 0 := UInt32.zero_and
  rw [Follows, hcursor, derivedCursor, Cursor.ofRegisters, Registers.half, Registers.half,
    Registers.word]
  simp only [hbyte, haddr]
  rfl

theorem kept_follows : Kept Follows where
  same {h e log} hf hsame := by
    have hderived : e.derivedCursor = h.derivedCursor := by
      rw [derivedCursor, derivedCursor, hsame.regs, hsame.video]
    rw [Follows, hsame.cursor, hderived]
    exact hf
  write {h log} offset v hf := by
    have htouched : touched (log ++ [(place offset, v)]) =
        (touched log || Cursor.occupies (place offset)) := by
      rw [touched, List.any_append, List.any_cons, List.any_nil, Bool.or_false]
      rfl
    by_cases hoffset : Cursor.occupies (place offset) = true
    · rw [Follows, htouched, hoffset, Bool.or_true, h.cursor_windowWrite8 v hoffset]
      rfl
    · obtain ⟨hcursor, hderived⟩ := h.cursor_windowWrite8_of_not v hoffset
      rw [Follows, htouched, Bool.eq_false_iff.mpr hoffset, Bool.or_false, hcursor, hderived]
      exact hf
  video {h log edit} hf hsize := by
    have hderived : (h.withVideo edit).derivedCursor = h.derivedCursor :=
      derivedCursor_congr (fun _ _ => rfl) (hsize h.video)
    rw [Follows, hderived]
    exact hf
  reset h := follows_zeroed (SameWindow.reset h).regs (SameWindow.reset h).cursor

/-- **The cursor never lags behind its registers.** In every run it is what the registers say at the
time, whatever the widths and offsets of the accesses are; only its size is unknown until one of its
bytes is written. -/
theorem cursor_follows (size : VideoSize) (coprocessor : Option (Aperture.Mode × Window))
    (es : List Event) :
    let h := (create size coprocessor).events es
    let c := Cursor.ofRegisters h.regs (UInt32.ofNat (h.video.bytes.size - 1))
    (h.cursor.enabled = c.enabled ∧ h.cursor.x = c.x ∧ h.cursor.y = c.y ∧
      h.cursor.hotspotX = c.hotspotX ∧ h.cursor.hotspotY = c.hotspotY ∧
      h.cursor.addr = c.addr) ∧
    (h.cursor = c ↔ ∃ s ∈ written es,
      s.1 = 0x140 ∨ (0x142 ≤ s.1 ∧ s.1 ≤ 0x145) ∨ (0x148 ≤ s.1 ∧ s.1 ≤ 0x14D)) := by
  intro h c
  have hf : Follows h (written es) := kept_follows.events (follows_zeroed rfl rfl) es
  have hc : h.derivedCursor = c := h.derivedCursor_eq
  rw [Follows, hc] at hf
  refine ⟨by rw [hf]; exact ⟨rfl, rfl, rfl, rfl, rfl, rfl⟩, ?_⟩
  have htouched : touched (written es) = true ↔ ∃ s ∈ written es,
      s.1 = 0x140 ∨ (0x142 ≤ s.1 ∧ s.1 ≤ 0x145) ∨ (0x148 ≤ s.1 ∧ s.1 ≤ 0x14D) := by
    simp only [touched, List.any_eq_true, Cursor.occupies, decide_eq_true_eq]
  rw [← htouched, hf]
  cases touched (written es) with
  | true => exact ⟨fun _ => rfl, fun _ => rfl⟩
  | false =>
    -- the size that registers give is never zero
    have hne (heq : { c with size := 0 } = c) : False := by
      have hsize : 0 = Cursor.imageSize := congrArg Cursor.size heq
      exact absurd hsize (by decide)
    exact ⟨fun heq => (hne heq).elim, fun htouch => Bool.noConfusion htouch⟩

end HostChip

end PumaBoard
