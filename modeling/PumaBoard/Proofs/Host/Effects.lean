import PumaBoard.Proofs.Host.Bridge
import PumaBoard.Proofs.Word.Lanes

/-!
What a byte written to the register window does there. It is seen at its place and nowhere else, its
start bit cleared if it is one of the two that have one; the engine it starts is idle again when the
write is done, and the video memory changes only if a rectangle is filled.
-/

namespace PumaBoard

namespace HostChip

open Host (Registers Cursor)
open Host.Registers (place)

theorem place_eq (offset : UInt32) : place offset = offset.toNat % 65536 := by
  rw [place, UInt32.toNat_and]
  exact Nat.and_two_pow_sub_one_eq_mod _ 16

/-! ### What accesses of other parts leave alone -/

/-- The second host chip has the registers, the video memory, the cursor and the engines of the
first. -/
structure SameWindow (h e : HostChip) : Prop where
  regs : e.regs = h.regs
  video : e.video = h.video
  cursor : e.cursor = h.cursor
  busy : e.busy = h.busy

namespace SameWindow

variable {h e : HostChip}

theorem refl (h : HostChip) : SameWindow h h := ⟨rfl, rfl, rfl, rfl⟩

theorem note (hs : SameWindow h e) (n : Notice) : SameWindow h (e.note n) :=
  ⟨hs.regs, hs.video, hs.cursor, hs.busy⟩

theorem withCoprocessor (hs : SameWindow h e) (f : Coprocessor → Coprocessor) :
    SameWindow h (e.withCoprocessor f) := by
  unfold HostChip.withCoprocessor
  split
  · exact ⟨hs.regs, hs.video, hs.cursor, hs.busy⟩
  · exact hs

theorem withEnabled (hs : SameWindow h e) (f : Coprocessor → Coprocessor) :
    SameWindow h (e.withEnabled f) := by
  unfold HostChip.withEnabled
  split
  · exact hs.withCoprocessor f
  · exact hs

/-- A read of the window changes nothing in it. -/
theorem windowRead8 (h : HostChip) (offset : UInt32) : SameWindow h (h.windowRead8 offset).2 := by
  have hfetch : SameWindow h (h.fetch8 (offset &&& 0xFFFF)).2 := by
    rw [fetch8_snd]
    split
    · exact (refl h).withEnabled _
    · exact refl h
  exact hfetch.note _

theorem updateBridge (hs : SameWindow h e) : SameWindow h e.updateBridge := by
  unfold HostChip.updateBridge
  cases e.coprocessor with
  | some d => exact (hs.withCoprocessor _).note _
  | none =>
    dsimp only
    split
    · exact hs.note _
    · exact hs

theorem sendBridge (hs : SameWindow h e) : SameWindow h e.sendBridge := hs.withEnabled _

theorem reset (h : HostChip) :
    SameWindow { h with regs := .zeroed, cursor := {}, busy := {} } h.reset :=
  ((refl _).withCoprocessor Coprocessor.reset).note .hostReset

/-- A cycle that neither writes to the window nor changes the video memory leaves both alone. -/
theorem cycle (h : HostChip) {c : Cycle} (hwrite : ∀ offset v, c ≠ .write offset v)
    (hvideo : ∀ edit, c ≠ .video edit) : SameWindow h (h.cycle c) := by
  cases c with
  | write offset v => exact absurd rfl (hwrite offset v)
  | video edit => exact absurd rfl (hvideo edit)
  | read offset => exact windowRead8 h offset
  | apertureRead addr =>
    show SameWindow h (h.askEnabled (·.read32 addr)).2
    rw [askEnabled_snd]
    exact (refl h).withEnabled _
  | apertureWrite addr v => exact (refl h).withEnabled _
  | vsync => exact (refl h).withEnabled _

end SameWindow

/-! ### The byte writes -/

/-- What a byte of the window holds after a write: the two start bits are cleared at once. -/
def shown (p : Nat) (v : UInt8) : UInt8 := if p = 0x043 ∨ p = 0x303 then v &&& 0x7F else v

section Writes

variable (r : Registers)

theorem byte_congr {o k : UInt32} (h : place o = place k) : r.byte o = r.byte k := by
  rw [Registers.byte_eq, Registers.byte_eq, h]

/-- The word's top bit is clear when its last byte is below 128. -/
theorem word_top (base : UInt32) :
    r.word base &&& 0x80000000 = 0 ↔ (r.byte (base + 3)).toNat < 128 := Word.and_top_eq_zero ..

/-- The registers when an engine has answered to the start bit of its word. -/
def answered (base : UInt32) : Registers :=
  if r.word base &&& 0x80000000 ≠ 0 then r.setWord base (r.word base &&& ~~~0x80000000) else r

theorem place_add {base : UInt32} (hbase : place base + 3 < 65536) {n : Nat} (hn : n ≤ 3) :
    place (base + UInt32.ofNat n) = place base + n := by
  rw [place_eq] at hbase
  rw [place_eq, place_eq, UInt32.toNat_add, UInt32.toNat_ofNat']
  omega

/-- An engine that answers clears the top bit of the last byte of its word. -/
theorem byte_answered {base : UInt32} (hbase : place base + 3 < 65536) (k : UInt32) :
    (answered r base).byte k =
      if place k = place base + 3 then r.byte k &&& 0x7F else r.byte k := by
  have hlanes := Word.lanes_clear_top (r.byte base) (r.byte (base + 1)) (r.byte (base + 2))
    (r.byte (base + 3))
  simp only [Word.lanes, List.cons.injEq, and_true] at hlanes
  obtain ⟨h0, h1, h2, h3⟩ := hlanes
  have p1 : place (base + 1) = place base + 1 := place_add hbase (n := 1) (by decide)
  have p2 : place (base + 2) = place base + 2 := place_add hbase (n := 2) (by decide)
  have p3 : place (base + 3) = place base + 3 := place_add hbase (n := 3) (by decide)
  unfold answered
  by_cases htop : r.word base &&& 0x80000000 = 0
  · rw [if_neg (not_not_intro htop)]
    split
    · next hk =>
      rw [byte_congr r (hk.trans p3.symm), Word.byte_low7_eq ((word_top r base).mp htop)]
    · rfl
  · rw [if_pos htop, Registers.setWord, Registers.byte_setByte, Registers.byte_setByte,
      Registers.byte_setByte, Registers.byte_setByte, Registers.word, h0, h1, h2, h3, p1, p2, p3]
    by_cases hk : place k = place base + 3
    · rw [if_pos hk.symm, if_pos hk, byte_congr r (p3.trans hk.symm)]
    · rw [if_neg (Ne.symm hk), if_neg hk]
      -- the other bytes of the word are written back as they were
      split
      · next hk => rw [byte_congr r (p2.trans hk)]
      · split
        · next hk => rw [byte_congr r (p1.trans hk)]
        · split
          · next hk => rw [byte_congr r hk]
          · rfl

variable (h : HostChip)

/-- The second host chip has all that a drawing command leaves alone. -/
structure DrawKeeps (h e : HostChip) : Prop where
  regs : e.regs = h.regs
  cursor : e.cursor = h.cursor
  busy : e.busy = h.busy
  size : e.video.size = h.video.size

theorem runDraw_keeps : DrawKeeps h h.runDraw := by
  unfold runDraw
  split <;> exact ⟨rfl, rfl, rfl, rfl⟩

theorem regs_startDraw : h.startDraw.regs = answered h.regs Host.Draw.control := by
  unfold startDraw answered
  dsimp only
  by_cases hstart : h.regs.word Host.Draw.control &&& 0x80000000 ≠ 0
  · rw [if_pos hstart]
    refine (congrArg HostChip.regs (if_pos hstart)).trans ?_
    dsimp only
    rw [(runDraw_keeps _).regs]
    rfl
  · rw [if_neg hstart]
    exact congrArg HostChip.regs (if_neg hstart)

theorem regs_startRender : h.startRender.regs = answered h.regs commandSet := by
  unfold startRender answered
  dsimp only
  by_cases hstart : h.regs.word commandSet &&& 0x80000000 ≠ 0
  · rw [if_pos hstart]
    exact (congrArg HostChip.regs (if_pos hstart)).trans rfl
  · rw [if_neg hstart]
    exact congrArg HostChip.regs (if_neg hstart)

theorem startRender_keeps : h.startRender.cursor = h.cursor ∧ h.startRender.video = h.video := by
  unfold startRender
  dsimp only
  split <;> exact ⟨rfl, rfl⟩

/-- What a byte starts when it is stored: one of the two engines, something that the window does not
show, or the cursor being read anew. -/
theorem affect_cases (o : UInt32) :
    (o = 0x043 ∧ h.affect o = h.startDraw) ∨ (o = 0x303 ∧ h.affect o = h.startRender) ∨
      ((o ≠ 0x043 ∧ o ≠ 0x303 ∧ Cursor.dependsOn o = false) ∧ SameWindow h (h.affect o)) ∨
      (Cursor.dependsOn o = true ∧
        h.affect o = { h with cursor := .ofRegisters h.regs h.video.mask }) := by
  unfold affect
  by_cases hdraw : o = 0x043
  · exact .inl ⟨hdraw, if_pos hdraw⟩
  rw [if_neg hdraw]
  by_cases hrender : o = 0x303
  · exact .inr (.inl ⟨hrender, if_pos hrender⟩)
  rw [if_neg hrender]
  right; right
  by_cases hswitch : o = 0x403
  · subst hswitch
    exact .inl ⟨⟨hdraw, hrender, rfl⟩, (SameWindow.refl h).updateBridge⟩
  rw [if_neg hswitch]
  by_cases hsend : o = 0x40F
  · subst hsend
    exact .inl ⟨⟨hdraw, hrender, rfl⟩, (SameWindow.refl h).sendBridge⟩
  rw [if_neg hsend]
  cases hcursor : Cursor.dependsOn o with
  | true => exact .inr ⟨rfl, if_pos rfl⟩
  | false => exact .inl ⟨⟨hdraw, hrender, rfl⟩, .refl h⟩

/-- The effect of a write of the last byte of a command is to clear its start bit; no other effect
reaches the registers. -/
theorem byte_affect (o k : UInt32) :
    (h.affect o).regs.byte k =
      if (o = 0x043 ∨ o = 0x303) ∧ place k = place o then h.regs.byte k &&& 0x7F
      else h.regs.byte k := by
  rcases h.affect_cases o with ⟨rfl, heq⟩ | ⟨rfl, heq⟩ | ⟨⟨hdraw, hrender, -⟩, hsame⟩ |
    ⟨hcursor, heq⟩
  · rw [heq, regs_startDraw]
    refine (byte_answered h.regs (by decide) k).trans ?_
    exact if_congr (and_iff_right (.inl rfl)).symm rfl rfl
  · rw [heq, regs_startRender]
    refine (byte_answered h.regs (by decide) k).trans ?_
    exact if_congr (and_iff_right (.inr rfl)).symm rfl rfl
  · rw [hsame.regs, if_neg fun hk => hk.1.elim hdraw hrender]
  · have hnone : ¬ ((o = 0x043 ∨ o = 0x303) ∧ place k = place o) := by
      rintro ⟨rfl | rfl, -⟩ <;> exact absurd hcursor (by decide)
    rw [heq, if_neg hnone]

theorem place_cut (offset : UInt32) : place (offset &&& 0xFFFF) = place offset := by
  unfold place
  rw [UInt32.and_assoc, UInt32.and_self]

theorem cut_eq_iff {offset o : UInt32} : offset &&& 0xFFFF = o ↔ place offset = o.toNat := by
  rw [← UInt32.toNat_inj]
  rfl

/-- **A write of a byte is seen at its place, and nowhere else.** -/
theorem byte_windowWrite8 (offset : UInt32) (v : UInt8) (k : UInt32) :
    (h.windowWrite8 offset v).regs.byte k =
      if place offset = place k then shown (place k) v else h.regs.byte k := by
  have hstart : (offset &&& 0xFFFF = 0x043 ∨ offset &&& 0xFFFF = 0x303) ↔
      (place offset = 0x043 ∨ place offset = 0x303) :=
    or_congr cut_eq_iff cut_eq_iff
  simp only [windowWrite8, byte_affect, hstart, place_cut, Registers.byte_setByte]
  unfold shown
  by_cases hk : place offset = place k
  · rw [if_pos hk, if_pos hk, hk]
    by_cases htop : place k = 0x043 ∨ place k = 0x303
    · rw [if_pos ⟨htop, rfl⟩, if_pos htop]
    · rw [if_neg fun h => htop h.1, if_neg htop]
  · rw [if_neg hk, if_neg hk, if_neg fun h => hk h.2.symm]
    rfl

/-! ### The engines -/

variable {h}

theorem busy_startDraw (hb : h.busy = {}) : h.startDraw.busy = {} := by
  unfold startDraw
  dsimp only
  split
  · rw [(runDraw_keeps _).busy, hb]
  · exact hb

theorem busy_startRender (hb : h.busy = {}) : h.startRender.busy = {} := by
  unfold startRender
  dsimp only
  split
  · show { h.busy with render3d := false } = _
    rw [hb]
  · exact hb

theorem busy_affect (hb : h.busy = {}) (o : UInt32) : (h.affect o).busy = {} := by
  rcases h.affect_cases o with ⟨-, heq⟩ | ⟨-, heq⟩ | ⟨-, hsame⟩ | ⟨-, heq⟩
  · rw [heq, busy_startDraw hb]
  · rw [heq, busy_startRender hb]
  · exact hsame.busy.trans hb
  · rw [heq]
    exact hb

/-- The engines are idle again when a write is done. -/
theorem busy_windowWrite8 (hb : h.busy = {}) (offset : UInt32) (v : UInt8) :
    (h.windowWrite8 offset v).busy = {} := by
  unfold windowWrite8
  exact busy_affect (h := { h.note _ with regs := h.regs.setByte _ v }) hb _

/-! ### The video memory -/

theorem ofControl_word (r : Registers) (control : UInt32) :
    Host.DrawCommand.ofControl (r.word control) = .rectFill ↔
      (r.byte control).toNat % 16 = 1 := by
  have hlane : Word.lane (r.word control) 0 = r.byte control := by
    have hlanes := Word.lanes_ofLanes (r.byte control) (r.byte (control + 1))
      (r.byte (control + 2)) (r.byte (control + 3))
    exact (List.cons.inj hlanes).1
  have hcode : ((r.word control &&& 0x0F).toUInt8).toNat = (r.byte control).toNat % 16 := by
    have hcut : (r.word control &&& 0x0F).toUInt8 = Word.lane (r.word control &&& 0x0F) 0 := by
      rw [Word.lane, UInt32.mul_zero, UInt32.shiftRight_zero]
    rw [hcut, Word.lane_and, hlane, UInt8.toNat_and]
    exact Nat.and_two_pow_sub_one_eq_mod _ 4
  rw [← hcode, Host.DrawCommand.ofControl]
  have hone : (r.word control &&& 0x0F).toUInt8 = 1 ↔
      ((r.word control &&& 0x0F).toUInt8).toNat = 1 := by
    rw [← UInt8.toNat_inj]
    rfl
  rw [← hone]
  split
  · next h => exact ⟨fun _ => h, fun _ => rfl⟩
  · next h => exact ⟨fun hc => Host.DrawCommand.noConfusion hc, fun hc => absurd hc h⟩

/-- A drawing command changes the video memory when it fills a rectangle. -/
theorem video_startDraw (hv : h.startDraw.video ≠ h.video) :
    128 ≤ (h.regs.byte 0x043).toNat ∧ (h.regs.byte 0x040).toNat % 16 = 1 := by
  have hrun (e : HostChip) (he : e.runDraw.video ≠ e.video) :
      (e.regs.byte 0x040).toNat % 16 = 1 := by
    rw [← show Host.Draw.control = 0x040 from rfl, ← ofControl_word]
    unfold runDraw at he
    split at he
    · assumption
    · exact absurd rfl he
  unfold startDraw at hv
  dsimp only at hv
  split at hv
  · next hstart =>
    refine ⟨?_, hrun { h with busy := { h.busy with draw2d := true } } hv⟩
    have htop := mt (word_top h.regs Host.Draw.control).mpr hstart
    exact Nat.le_of_not_lt htop
  · exact absurd rfl hv

theorem video_affect {o : UInt32} (hv : (h.affect o).video ≠ h.video) :
    o = 0x043 ∧ h.startDraw.video ≠ h.video := by
  rcases h.affect_cases o with ⟨ho, heq⟩ | ⟨-, heq⟩ | ⟨-, hsame⟩ | ⟨-, heq⟩
  · exact ⟨ho, heq ▸ hv⟩
  · rw [heq] at hv
    exact absurd h.startRender_keeps.2 hv
  · exact absurd hsame.video hv
  · rw [heq] at hv
    exact absurd rfl hv

/-- A write of the window changes the video memory when it starts the filling of a rectangle. -/
theorem video_windowWrite8 {offset : UInt32} {v : UInt8}
    (hv : (h.windowWrite8 offset v).video ≠ h.video) :
    place offset = 0x043 ∧ 128 ≤ v.toNat ∧ (h.regs.byte 0x040).toNat % 16 = 1 := by
  obtain ⟨hcut, hdraw⟩ := video_affect (h := { h.note _ with regs := h.regs.setByte _ v }) hv
  have hplace : place offset = 0x043 := cut_eq_iff.mp hcut
  obtain ⟨htop, hcode⟩ := video_startDraw hdraw
  dsimp only at htop hcode
  rw [Registers.byte_setByte, place_cut, hplace, if_pos (by decide)] at htop
  rw [Registers.byte_setByte, place_cut, hplace, if_neg (by decide)] at hcode
  exact ⟨hplace, htop, hcode⟩

end Writes

end HostChip

end PumaBoard
