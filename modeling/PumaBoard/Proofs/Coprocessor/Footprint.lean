import PumaBoard.Proofs.Memory.Painted
import PumaBoard.Proofs.Render.Described

/-!
The footprint of a fast fill. The stored registers give each of the two buffers a set of halfwords
of the frame buffer, row by row and column by column. Main statement: a fill paints these and
changes nothing else; where the two buffers overlap a byte comes from one of them.
-/

namespace PumaBoard

open Word

/-! ### What the loops paint -/

namespace FastFill

open Bytes (Painted PutsHalf)

/-- What a pixel of a target puts into a frame buffer of `size` bytes. -/
def Puts (size : Nat) (target : Option FillTarget) (row x : UInt32) (o : Nat) (v : UInt8) : Prop :=
  ∃ t ∈ target, PutsHalf size (t.buffer.row row false + x * 2).toNat t.value o v

theorem painted_paint (target : Option FillTarget) (row x : UInt32) (m : Aperture.Memory) :
    Painted (Puts m.frame.size target row x) m.frame (paint target row x m).frame := by
  cases target with
  | none => exact .nothing fun o v ⟨t, ht, _⟩ => nomatch ht
  | some t =>
    refine (Painted.write16 m.frame (t.buffer.row row false + x * 2).toNat t.value).congr
      fun o v => ?_
    exact ⟨fun h => ⟨t, rfl, h⟩, fun ⟨t', ht', h⟩ => Option.some.inj ht' ▸ h⟩

variable (f : FastFill)

/-- What the pixels of both targets put. -/
def PutsBoth (size : Nat) (row x : UInt32) (o : Nat) (v : UInt8) : Prop :=
  Puts size f.colour row x o v ∨ Puts size f.aux row x o v

theorem painted_paintRow (row : UInt32) (x : Nat) (m : Aperture.Memory) (n : Nat) :
    Painted (fun o v => ∃ c, x ≤ c ∧ c < x + n ∧ f.PutsBoth m.frame.size row (.ofNat c) o v)
      m.frame (f.paintRow row (.ofNat x) m n).frame := by
  induction n generalizing x m with
  | zero => exact .nothing fun o v ⟨c, hlo, hhi, _⟩ => by omega
  | succ n ih =>
    have hcolour := painted_paint f.colour row (.ofNat x) m
    have haux := painted_paint f.aux row (.ofNat x) (paint f.colour row (.ofNat x) m)
    rw [hcolour.size] at haux
    have hpixel := hcolour.trans haux
    have hrest := ih (x + 1) (paint f.aux row (.ofNat x) (paint f.colour row (.ofNat x) m))
    rw [hpixel.size, UInt32.ofNat_add] at hrest
    exact hpixel.cons hrest

/-- What the pixels of row `y` of the rectangle put. -/
def PutsRow (size y : Nat) (o : Nat) (v : UInt8) : Prop :=
  ∃ c, f.clip.left.toNat ≤ c ∧ c < f.clip.right.toNat ∧
    f.PutsBoth size (f.bufferRow (.ofNat y)) (.ofNat c) o v

theorem painted_paintRows (y : Nat) (m : Aperture.Memory) (n : Nat) :
    Painted (fun o v => ∃ k, y ≤ k ∧ k < y + n ∧ f.PutsRow m.frame.size k o v)
      m.frame (f.paintRows (.ofNat y) m n).frame := by
  induction n generalizing y m with
  | zero => exact .nothing fun o v ⟨k, hlo, hhi, _⟩ => by omega
  | succ n ih =>
    have hrow := f.painted_paintRow (f.bufferRow (.ofNat y)) f.clip.left.toNat m
      (f.clip.right.toNat - f.clip.left.toNat)
    rw [UInt32.ofNat_toNat] at hrow
    have hrow' : Painted (f.PutsRow m.frame.size y) m.frame _ := hrow.congr fun o v =>
      ⟨fun ⟨c, hlo, hhi, h⟩ => ⟨c, hlo, by omega, h⟩, fun ⟨c, hlo, hhi, h⟩ => ⟨c, hlo, by omega, h⟩⟩
    have hrest := ih (y + 1) (f.paintRow (f.bufferRow (.ofNat y)) f.clip.left m
      (f.clip.right.toNat - f.clip.left.toNat))
    rw [hrow'.size, UInt32.ofNat_add] at hrest
    exact hrow'.cons hrest

/-- What a fill puts into the frame buffer. -/
def PutsAll (size : Nat) (o : Nat) (v : UInt8) : Prop :=
  ∃ y, f.clip.top.toNat ≤ y ∧ y < f.clip.bottom.toNat ∧ f.PutsRow size y o v

theorem painted_execute (m : Aperture.Memory) :
    Painted (f.PutsAll m.frame.size) m.frame (f.execute m).frame := by
  unfold execute
  split
  · have hrows := f.painted_paintRows f.clip.top.toNat m
      (f.clip.bottom.toNat - f.clip.top.toNat)
    rw [UInt32.ofNat_toNat] at hrows
    exact hrows.congr fun o v =>
      ⟨fun ⟨y, hlo, hhi, h⟩ => ⟨y, hlo, by omega, h⟩, fun ⟨y, hlo, hhi, h⟩ => ⟨y, hlo, by omega, h⟩⟩
  · next hidle =>
    -- without a target no pixel puts anything, and an empty rectangle has no pixel
    refine .nothing fun o v ⟨y, htop, hbottom, c, hleft, hright, hput⟩ => hidle ?_
    have htarget : f.colour.isSome || f.aux.isSome := by
      rcases hput with ⟨t, ht, -⟩ | ⟨t, ht, -⟩ <;> rw [Option.mem_def.mp ht] <;> simp
    have hclip : f.clip.isEmpty = false := by
      simp only [Surface.Clip.isEmpty, ge_iff_le, UInt32.le_iff_toNat_le, Bool.or_eq_false_iff,
        decide_eq_false_iff_not]
      omega
    rw [htarget, hclip]
    rfl

end FastFill

/-! ### The footprint that the registers describe -/

section Described

open Bytes (PutsHalf)

variable (reg : UInt32 → UInt32)

/-- A buffer that a fill can paint. -/
structure FillPlane where
  /-- The register of its base and its stride. -/
  setup : UInt32
  /-- The bit of the fill mode that lets it be written. -/
  mask : Nat
  /-- What its pixels receive. -/
  value : UInt16

/-- The colour buffer receives the colour register, cut to 16 bits. -/
def FillPlane.colour : FillPlane := ⟨0x60, 9, Surface.fillColour (reg 0x56)⟩

/-- The aux buffer receives the low half of the depth colour. -/
def FillPlane.aux : FillPlane := ⟨0x61, 10, .ofNat (bitsAt (reg 0x59) 0 16)⟩

/-- The buffer as the target of a fill, if it may be written. -/
def FillPlane.target (b : FillPlane) : Option FillTarget :=
  if (reg 0x54).toNat.testBit b.mask then some ⟨.ofRegister (reg b.setup), b.value⟩ else none

/-- The row of the buffers that row `y` of the clip rectangle is drawn to: with the flip switch,
bit 17 of the fill mode, rows count up from the bottom edge. -/
def fillRow (y : Nat) : Nat :=
  if (reg 0x54).toNat.testBit 17 then bitsAt (reg 0x63) 16 11 - 1 - y else y

/-- The rows that a fill draws to. -/
def FillRow (row : Nat) : Prop :=
  ∃ y, bitsAt (reg 0x63) 0 11 ≤ y ∧ y < bitsAt (reg 0x63) 16 11 ∧ row = fillRow reg y

/-- The columns of the clip rectangle. -/
def FillColumn (col : Nat) : Prop := bitsAt (reg 0x62) 0 11 ≤ col ∧ col < bitsAt (reg 0x62) 16 11

/-- Where a pixel of a buffer starts, from the word of its setup: the base in bits 0 to 21, the
stride in words in bits 22 to 30. -/
def pixelPlace (setup : UInt32) (row col : Nat) : Nat :=
  bitsAt setup 0 22 + row * (4 * bitsAt setup 22 9) + 2 * col

/-- What a pixel puts into a buffer: its halfword, if that lies wholly inside the frame buffer and
the buffer may be written. -/
def FillPlane.PaintsAt (b : FillPlane) (size row col o : Nat) (v : UInt8) : Prop :=
  (reg 0x54).toNat.testBit b.mask = true ∧
    PutsHalf size (pixelPlace (reg b.setup) row col) b.value o v

/-- What a fill puts into a buffer. -/
def FillPlane.Paints (b : FillPlane) (size o : Nat) (v : UInt8) : Prop :=
  ∃ row col, FillRow reg row ∧ FillColumn reg col ∧ b.PaintsAt reg size row col o v

/-- A fill of these registers has nothing to paint: the clip rectangle is empty or inverted, or
neither buffer may be written. -/
def FillIdle : Prop :=
  bitsAt (reg 0x62) 16 11 ≤ bitsAt (reg 0x62) 0 11 ∨
    bitsAt (reg 0x63) 16 11 ≤ bitsAt (reg 0x63) 0 11 ∨
    (reg 0x54).toNat.testBit 9 = false ∧ (reg 0x54).toNat.testBit 10 = false

variable {reg}

theorem FillPlane.not_paints_of_idle {size o : Nat} {v : UInt8} (h : FillIdle reg) :
    ¬ (FillPlane.colour reg).Paints reg size o v ∧ ¬ (FillPlane.aux reg).Paints reg size o v := by
  rcases h with hcols | hrows | ⟨hcolour, haux⟩
  · constructor <;> rintro ⟨row, col, -, ⟨hleft, hright⟩, -⟩ <;> omega
  · constructor <;> rintro ⟨row, col, ⟨y, htop, hbottom, -⟩, -⟩ <;> omega
  · constructor
    · rintro ⟨row, col, -, -, hon, -⟩
      exact Bool.false_ne_true (hcolour.symm.trans hon)
    · rintro ⟨row, col, -, -, hon, -⟩
      exact Bool.false_ne_true (haux.symm.trans hon)

/-- The halfwords of one buffer coincide or are disjoint: all start at the parity of its base. -/
theorem FillPlane.paints_inj {b : FillPlane} {size o : Nat} {v w : UInt8}
    (hv : b.Paints reg size o v) (hw : b.Paints reg size o w) : v = w := by
  have hparity (row col : Nat) :
      pixelPlace (reg b.setup) row col % 2 = bitsAt (reg b.setup) 0 22 % 2 := by
    rw [pixelPlace, Nat.mul_left_comm]
    omega
  obtain ⟨row, col, -, -, -, -, hv⟩ := hv
  obtain ⟨row', col', -, -, -, -, hw⟩ := hw
  have hp := hparity row col
  have hp' := hparity row' col'
  rcases hv with ⟨ho, rfl⟩ | ⟨ho, rfl⟩ <;> rcases hw with ⟨ho', rfl⟩ | ⟨ho', rfl⟩
  · rfl
  · omega
  · omega
  · rfl

end Described

/-! ### The fill of a coprocessor -/

namespace FastFill

open Bytes (Painted PutsHalf)

/-- Coordinates have eleven bits, so the address of a pixel does not wrap. -/
theorem toNat_pixel (setup : UInt32) {row col : Nat} (hrow : row < 2048) (hcol : col < 2048) :
    ((Surface.Buffer.ofRegister setup).row (.ofNat row) false + .ofNat col * 2).toNat =
      pixelPlace setup row col := by
  have hbase := bitsAt_lt setup 0 22
  have hstride := bitsAt_lt setup 22 9
  have hoffset : row * (bitsAt setup 22 9 * 4) ≤ 2048 * 2048 :=
    Nat.mul_le_mul (by omega) (by omega)
  have hplace : pixelPlace setup row col =
      bitsAt setup 0 22 + row * (bitsAt setup 22 9 * 4) + col * 2 := by
    rw [pixelPlace, Nat.mul_comm 4, Nat.mul_comm 2]
  have hword : (Surface.Buffer.ofRegister setup).row (.ofNat row) false + .ofNat col * 2 =
      UInt32.ofNat (pixelPlace setup row col) := by
    rw [Render.Buffer.ofRegister_eq]
    show UInt32.ofNat (bitsAt setup 0 22) + .ofNat row * .ofNat (bitsAt setup 22 9 * 4) +
      .ofNat col * .ofNat 2 = _
    rw [← UInt32.ofNat_mul, ← UInt32.ofNat_mul, ← UInt32.ofNat_add, ← UInt32.ofNat_add, hplace]
  rw [hword, UInt32.toNat_ofNat_of_lt']
  rw [hplace]
  exact Nat.lt_of_le_of_lt (by omega) (show 2 ^ 22 + 2048 * 2048 + 4096 < 2 ^ 32 by decide)

/-- What a pixel puts into a buffer. -/
theorem puts_target {reg : UInt32 → UInt32} (b : FillPlane) {row col : Nat} (hrow : row < 2048)
    (hcol : col < 2048) {size o : Nat} {v : UInt8} :
    Puts size (b.target reg) (.ofNat row) (.ofNat col) o v ↔ b.PaintsAt reg size row col o v := by
  rw [FillPlane.PaintsAt, ← toNat_pixel _ hrow hcol, FillPlane.target]
  split
  · next hon => simp [Puts, hon]
  · next hoff => simp [Puts, hoff]

end FastFill

namespace Coprocessor

section Fill

open Bytes (Painted PutsHalf)

variable (d : Coprocessor)

/-! ### What the registers say -/

theorem clip_ofRegisters :
    (FastFill.ofRegisters d.regs).clip = Render.Clip.described d.storedIndex :=
  Render.Clip.ofRegisters_eq _ _

/-- A switch of the fill mode is a bit of its register. -/
theorem fillMode_bit {n : Nat} (hn : n < 32) :
    Word.bit (d.regs.get Register.fillMode) (.ofNat n) = (d.storedIndex 0x54).toNat.testBit n :=
  Word.bit_ofNat _ hn

theorem colour_ofRegisters :
    (FastFill.ofRegisters d.regs).colour =
      (FillPlane.colour d.storedIndex).target d.storedIndex := by
  rw [FillPlane.target, FillPlane.colour, ← d.fillMode_bit (show 9 < 32 by decide)]
  rfl

theorem aux_ofRegisters :
    (FastFill.ofRegisters d.regs).aux = (FillPlane.aux d.storedIndex).target d.storedIndex := by
  have hdepth : UInt16.ofNat (bitsAt (d.storedIndex 0x59) 0 16) =
      (d.regs.get Register.depthColour).toUInt16 := by
    rw [← UInt16.toNat_inj, UInt32.toNat_toUInt16, bitsAt, Nat.pow_zero, Nat.div_one,
      UInt16.toNat_ofNat', Nat.mod_mod]
    rfl
  rw [FillPlane.target, FillPlane.aux, ← d.fillMode_bit (show 10 < 32 by decide), hdepth]
  rfl

section Pixel

variable {d} {y col : Nat} (hy : y < bitsAt (d.storedIndex 0x63) 16 11)

include hy

theorem bufferRow_ofRegisters :
    (FastFill.ofRegisters d.regs).bufferRow (.ofNat y) = .ofNat (fillRow d.storedIndex y) := by
  have hflip : (FastFill.ofRegisters d.regs).flip = (d.storedIndex 0x54).toNat.testBit 17 :=
    d.fillMode_bit (by decide)
  rw [FastFill.bufferRow, hflip, clip_ofRegisters, fillRow]
  split
  · rw [UInt32.ofNat_sub (by omega), UInt32.ofNat_sub (by omega)]
    rfl
  · rfl

theorem fillRow_lt : fillRow d.storedIndex y < 2048 := by
  have hbottom := bitsAt_lt (d.storedIndex 0x63) 16 11
  rw [fillRow]
  split <;> omega

theorem putsBoth_ofRegisters (hcol : col < bitsAt (d.storedIndex 0x62) 16 11) (size o : Nat)
    (v : UInt8) :
    (FastFill.ofRegisters d.regs).PutsBoth size
        ((FastFill.ofRegisters d.regs).bufferRow (.ofNat y)) (.ofNat col) o v ↔
      (FillPlane.colour d.storedIndex).PaintsAt d.storedIndex size (fillRow d.storedIndex y) col o
          v ∨
        (FillPlane.aux d.storedIndex).PaintsAt d.storedIndex size (fillRow d.storedIndex y) col o
          v := by
  have hcol' : col < 2048 := Nat.lt_trans hcol (bitsAt_lt _ 16 11)
  rw [bufferRow_ofRegisters hy, FastFill.PutsBoth, colour_ofRegisters, aux_ofRegisters,
    FastFill.puts_target _ (fillRow_lt hy) hcol', FastFill.puts_target _ (fillRow_lt hy) hcol']

end Pixel

/-- What a fill puts into the two buffers. -/
theorem putsAll_ofRegisters (size o : Nat) (v : UInt8) :
    (FastFill.ofRegisters d.regs).PutsAll size o v ↔
      (FillPlane.colour d.storedIndex).Paints d.storedIndex size o v ∨
        (FillPlane.aux d.storedIndex).Paints d.storedIndex size o v := by
  have hedge (n : UInt32) (low : Nat) :
      (UInt32.ofNat (bitsAt (d.storedIndex n) low 11)).toNat = bitsAt (d.storedIndex n) low 11 :=
    UInt32.toNat_ofNat_of_lt' (Nat.lt_trans (bitsAt_lt _ _ _) (by decide))
  simp only [FastFill.PutsAll, FastFill.PutsRow, clip_ofRegisters, Render.Clip.described, hedge]
  constructor
  · rintro ⟨y, htop, hy, col, hleft, hcol, hput⟩
    rw [putsBoth_ofRegisters hy hcol] at hput
    exact hput.imp (fun h => ⟨_, col, ⟨y, htop, hy, rfl⟩, ⟨hleft, hcol⟩, h⟩)
      fun h => ⟨_, col, ⟨y, htop, hy, rfl⟩, ⟨hleft, hcol⟩, h⟩
  · rintro (⟨_, col, ⟨y, htop, hy, rfl⟩, ⟨hleft, hcol⟩, h⟩ |
      ⟨_, col, ⟨y, htop, hy, rfl⟩, ⟨hleft, hcol⟩, h⟩)
    · exact ⟨y, htop, hy, col, hleft, hcol, (putsBoth_ofRegisters hy hcol size o v).mpr (.inl h)⟩
    · exact ⟨y, htop, hy, col, hleft, hcol, (putsBoth_ofRegisters hy hcol size o v).mpr (.inr h)⟩

/-! ### The fill -/

theorem painted_fastFill (hon : d.enabled = true) :
    Painted
      (fun o v => (FillPlane.colour d.storedIndex).Paints d.storedIndex d.memory.frame.size o v ∨
        (FillPlane.aux d.storedIndex).Paints d.storedIndex d.memory.frame.size o v)
      d.memory.frame d.fastFill.memory.frame := by
  rw [fastFill_eq, if_pos hon]
  exact ((FastFill.ofRegisters d.regs).painted_execute d.memory).congr
    (d.putsAll_ofRegisters d.memory.frame.size)

/-- A fill changes the frame buffer and gives a notice. -/
theorem fastFill_frame :
    d.fastFill = { d with memory := d.fastFill.memory, notices := d.fastFill.notices } ∧
      d.fastFill.memory.mode = d.memory.mode ∧
      d.fastFill.memory.texture = d.memory.texture := by
  have htexture (f : FastFill) : (f.execute d.memory).texture = d.memory.texture :=
    FastFill.rel_execute (R := fun m _ => m.texture = d.memory.texture) (fun _ _ h => h) f
      (n := d.memory) rfl
  rw [fastFill_eq]
  split
  · exact ⟨rfl, FastFill.mode_execute .., htexture _⟩
  · exact ⟨rfl, rfl, rfl⟩

/-- **A fast fill paints exactly its footprint.** It changes the frame buffer alone, and there the
bytes that its registers give to one of the two buffers: a byte of one buffer receives the matching
byte of its value, a byte of both one of the two. With nothing to paint the memory is as before,
and a coprocessor that is switched off is as before altogether. -/
theorem fastFill_paints :
    (∃ (m : Aperture.Memory) (notices : Array Notice),
      d.fastFill = { d with memory := m, notices := notices } ∧
      m.mode = d.memory.mode ∧ m.texture = d.memory.texture ∧
      (FillIdle d.storedIndex → m = d.memory) ∧
      (d.enabled = true →
        let colour := (FillPlane.colour d.storedIndex).Paints d.storedIndex d.memory.frame.size
        let aux := (FillPlane.aux d.storedIndex).Paints d.storedIndex d.memory.frame.size
        ∀ o,
          ((∀ v, ¬ colour o v) → (∀ v, ¬ aux o v) →
            Bytes.byteD m.frame o = Bytes.byteD d.memory.frame o) ∧
          (∀ v, colour o v → (∀ w, ¬ aux o w) → Bytes.byteD m.frame o = v) ∧
          (∀ v, aux o v → (∀ w, ¬ colour o w) → Bytes.byteD m.frame o = v) ∧
          ∀ v w, colour o v → aux o w → Bytes.byteD m.frame o = v ∨ Bytes.byteD m.frame o = w)) ∧
    (d.enabled = false → d.fastFill = d) := by
  have hoff (h : d.enabled = false) : d.fastFill = d := by rw [fastFill_eq, h]; rfl
  obtain ⟨heq, hmode, htexture⟩ := d.fastFill_frame
  refine ⟨⟨_, _, heq, hmode, htexture, fun hidle => ?_, fun hon o => ?_⟩, hoff⟩
  · refine Aperture.Memory.eq_of_parts hmode ?_ htexture
    cases hon : d.enabled with
    | false => rw [hoff hon]
    | true =>
      have hnone (o : Nat) (v : UInt8) :
          ¬ ((FillPlane.colour d.storedIndex).Paints d.storedIndex d.memory.frame.size o v ∨
            (FillPlane.aux d.storedIndex).Paints d.storedIndex d.memory.frame.size o v) :=
        not_or.mpr (FillPlane.not_paints_of_idle hidle)
      exact (d.painted_fastFill hon).eq (.nothing hnone) fun hv => absurd hv (hnone _ _)
  · have h := d.painted_fastFill hon
    refine ⟨fun hcolour haux => h.byte_of_not fun v hv => hv.elim (hcolour v) (haux v),
      fun v hv haux => ?_, fun v hv hcolour => ?_, fun v w hv hw => ?_⟩
    · rcases h.byte_of (.inl hv) with hc | ha
      · exact FillPlane.paints_inj hc hv
      · exact absurd ha (haux _)
    · rcases h.byte_of (.inr hv) with hc | ha
      · exact absurd hc (hcolour _)
      · exact FillPlane.paints_inj ha hv
    · exact (h.byte_of (.inl hv)).imp (FillPlane.paints_inj · hv) (FillPlane.paints_inj · hw)

/-- A coprocessor whose fill has one pixel, at an odd place of the colour buffer. -/
def onePixel : Coprocessor :=
  ((create .mb8).run
    [.writeIndex 0x54 0x200, .writeIndex 0x56 0xF8, .writeIndex 0x60 0x1001,
      .writeIndex 0x62 0x00020001, .writeIndex 0x63 0x00020001]).2

theorem fastFill_paints_onePixel :
    onePixel.enabled = true ∧ Bytes.byteD onePixel.fastFill.memory.frame 0x1004 = 0xF8 := by
  have hon : onePixel.enabled = true := by decide +kernel
  have hmode : onePixel.memory.mode = .mb8 := by decide +kernel
  have hsize : onePixel.memory.frame.size = 0x400000 := by
    rw [onePixel.memory.frame_size, hmode]
    rfl
  have hcolour : (FillPlane.colour onePixel.storedIndex).Paints onePixel.storedIndex
      onePixel.memory.frame.size 0x1004 0xF8 := by
    rw [hsize]
    exact ⟨1, 1, ⟨1, by decide +kernel⟩, ⟨by decide +kernel, by decide +kernel⟩,
      by decide +kernel, by decide +kernel, .inr ⟨by decide +kernel, by decide +kernel⟩⟩
  have haux (w : UInt8) : ¬ (FillPlane.aux onePixel.storedIndex).Paints onePixel.storedIndex
      onePixel.memory.frame.size 0x1004 w := by
    rintro ⟨row, col, -, -, hmask, -⟩
    exact absurd hmask (by decide +kernel)
  obtain ⟨⟨m, notices, heq, -, -, -, hfill⟩, -⟩ := fastFill_paints onePixel
  refine ⟨hon, ?_⟩
  rw [heq]
  exact (hfill hon 0x1004).2.1 0xF8 hcolour haux

end Fill

end Coprocessor

end PumaBoard
