import Mathlib.Algebra.BigOperators.Group.Finset.Piecewise
import Mathlib.Algebra.BigOperators.Group.Finset.Sigma
import Mathlib.Order.Interval.Finset.Nat
import PumaBoard.Host.RectFill
import PumaBoard.Proofs.Memory.Painted

/-!
The pixels of a rectangle fill. A fill works row by row on spans of bytes; what it leaves is told
pixel by pixel: those of the rectangle that the clip rectangle lets through and whose byte lies in
the memory receive the colour, each counted once, and nothing else changes. So a loop over the
pixels does the same, and clipping a fill and filling the intersection are the same.
-/

namespace PumaBoard.Host

/-- The clip rectangle holds a pixel. -/
def DrawClip.Holds (c : DrawClip) (px py : Nat) : Prop :=
  c.left.toNat ≤ px ∧ px < c.right.toNat ∧ c.top.toNat ≤ py ∧ py < c.bottom.toNat

instance (c : DrawClip) (px py : Nat) : Decidable (c.Holds px py) := by
  unfold DrawClip.Holds; infer_instance

namespace RectFill

open Bytes (Painted)

/-! ### Pixels -/

/-- The rectangle covers a pixel; it may go on past the largest coordinate of a register. -/
def Covers (f : RectFill) (px py : Nat) : Prop :=
  (f.x.toNat ≤ px ∧ px < f.x.toNat + f.width.toNat) ∧
    f.y.toNat ≤ py ∧ py < f.y.toNat + f.height.toNat

/-- The clip rectangle, if there is one, lets a pixel through. -/
def Admits (f : RectFill) (px py : Nat) : Prop := ∀ c ∈ f.clip, c.Holds px py

instance (f : RectFill) (px py : Nat) : Decidable (f.Admits px py) := by
  unfold Admits; infer_instance

/-- The byte of a pixel, counted without wrap-around. -/
def place (f : RectFill) (px py : Nat) : Nat := py * f.pitch.toNat + px

/-- The pixels that a fill writes in a memory of `size` bytes, by their steps from the corner of
the rectangle. -/
def drawn (f : RectFill) (size : Nat) : Finset (Nat × Nat) :=
  (Finset.range f.width.toNat ×ˢ Finset.range f.height.toNat).filter fun p =>
    f.Admits (f.x.toNat + p.1) (f.y.toNat + p.2) ∧
      f.place (f.x.toNat + p.1) (f.y.toNat + p.2) < size

/-- The pixels that a fill writes. -/
def pixels (f : RectFill) (size : Nat) : Finset (Nat × Nat) :=
  (f.drawn size).image fun p => (f.x.toNat + p.1, f.y.toNat + p.2)

section Fill

variable (f : RectFill)

theorem mem_pixels {size px py : Nat} :
    (px, py) ∈ f.pixels size ↔
      (f.Covers px py ∧ f.Admits px py) ∧ f.place px py < size := by
  simp only [pixels, drawn, Finset.mem_image, Finset.mem_filter, Finset.mem_product,
    Finset.mem_range, Prod.exists, Prod.mk.injEq]
  constructor
  · rintro ⟨x, y, ⟨⟨hx, hy⟩, hadmits, hsize⟩, rfl, rfl⟩
    exact ⟨⟨⟨⟨by omega, by omega⟩, by omega, by omega⟩, hadmits⟩, hsize⟩
  · rintro ⟨⟨⟨⟨hleft, hright⟩, htop, hbottom⟩, hadmits⟩, hsize⟩
    have hx : f.x.toNat + (px - f.x.toNat) = px := by omega
    have hy : f.y.toNat + (py - f.y.toNat) = py := by omega
    refine ⟨px - f.x.toNat, py - f.y.toNat, ⟨⟨by omega, by omega⟩, ?_⟩, hx, hy⟩
    rw [hx, hy]
    exact ⟨hadmits, hsize⟩

theorem card_pixels (size : Nat) : (f.pixels size).card = (f.drawn size).card := by
  refine Finset.card_image_of_injective _ fun p q hpq => ?_
  simp only [Prod.mk.injEq, Nat.add_left_cancel_iff] at hpq
  exact Prod.ext hpq.1 hpq.2

/-! ### Spans -/

/-- The columns of a row are those of the rectangle that the clip rectangle lets through. -/
theorem column_iff {px row : Nat} :
    (f.x.toNat ≤ px ∧ px < f.x.toNat + f.width.toNat) ∧ f.Admits px row ↔
      f.admitsRow row = true ∧ f.firstColumn ≤ px ∧ px < f.endColumn := by
  unfold Admits admitsRow firstColumn endColumn
  cases f.clip with
  | none => simp
  | some c =>
    simp only [Option.mem_def, Option.some.injEq, forall_eq', DrawClip.Holds, Bool.and_eq_true,
      decide_eq_true_eq]
    omega

/-- The bytes of a row that a fill writes. -/
theorem span_iff {size row o : Nat} :
    (row * f.pitch.toNat + f.firstColumn ≤ o ∧
        o < row * f.pitch.toNat + f.firstColumn + f.spanLength size row) ↔
      ∃ px, ((f.x.toNat ≤ px ∧ px < f.x.toNat + f.width.toNat) ∧ f.Admits px row) ∧
        o = f.place px row ∧ o < size := by
  simp only [column_iff, place, spanLength]
  constructor
  · rintro ⟨hlo, hhi⟩
    split at hhi
    · next hrow => exact ⟨o - row * f.pitch.toNat, ⟨hrow, by omega, by omega⟩, by omega, by omega⟩
    · omega
  · rintro ⟨px, ⟨hrow, hfirst, hend⟩, rfl, hsize⟩
    rw [if_pos hrow]
    omega

theorem le_firstColumn : f.x.toNat ≤ f.firstColumn := by
  unfold firstColumn
  cases f.clip with
  | none => exact Nat.le_refl _
  | some c => exact Nat.le_max_left ..

/-- The length of a span is the number of pixels of its row that are drawn. -/
theorem card_row (size row : Nat) :
    ((Finset.range f.width.toNat).filter fun j =>
        f.Admits (f.x.toNat + j) row ∧ f.place (f.x.toNat + j) row < size).card =
      f.spanLength size row := by
  have hfirst := f.le_firstColumn
  have hspan : ((Finset.range f.width.toNat).filter fun j =>
        f.Admits (f.x.toNat + j) row ∧ f.place (f.x.toNat + j) row < size) =
      Finset.Ico (f.firstColumn - f.x.toNat)
        (f.firstColumn - f.x.toNat + f.spanLength size row) := by
    ext j
    have hbyte := @span_iff f size row (f.place (f.x.toNat + j) row)
    simp only [Finset.mem_filter, Finset.mem_range, Finset.mem_Ico]
    constructor
    · rintro ⟨hj, hadmits, hsize⟩
      have := hbyte.mpr ⟨f.x.toNat + j, ⟨⟨by omega, by omega⟩, hadmits⟩, rfl, hsize⟩
      rw [place] at this
      omega
    · rintro ⟨hlo, hhi⟩
      obtain ⟨px, ⟨hcolumn, hadmits⟩, hplace, hsize⟩ :=
        hbyte.mp ⟨by rw [place]; omega, by rw [place]; omega⟩
      obtain rfl : f.x.toNat + j = px := by
        rw [place, place] at hplace
        omega
      exact ⟨by omega, hadmits, hsize⟩
  rw [hspan, Nat.card_Ico, Nat.add_sub_cancel_left]

/-! ### Rows -/

/-- What the pixels of a row put into a memory of `size` bytes. -/
def PutsRow (size row o : Nat) (v : UInt8) : Prop :=
  (∃ px, ((f.x.toNat ≤ px ∧ px < f.x.toNat + f.width.toNat) ∧ f.Admits px row) ∧
    o = f.place px row ∧ o < size) ∧ v = f.colour

/-- A row paints the bytes of its pixels. -/
theorem painted_span (vram : ByteArray) (row : Nat) :
    Painted (f.PutsRow vram.size row) vram
      (Bytes.fill vram (row * f.pitch.toNat + f.firstColumn) f.colour
        (f.spanLength vram.size row)) := by
  refine (Painted.fill vram _ _ f.colour).congr fun o v => ?_
  rw [PutsRow, ← span_iff]
  constructor
  · rintro ⟨hlo, hhi, -, hv⟩
    exact ⟨⟨hlo, hhi⟩, hv⟩
  · rintro ⟨⟨hlo, hhi⟩, hv⟩
    obtain ⟨-, -, -, hsize⟩ := f.span_iff.mp ⟨hlo, hhi⟩
    exact ⟨hlo, hhi, hsize, hv⟩

theorem painted_rows (row count : Nat) (vram : ByteArray) (n : Nat) :
    Painted (fun o v => ∃ py, row ≤ py ∧ py < row + n ∧ f.PutsRow vram.size py o v) vram
      (f.rows row count vram n).2 := by
  induction n generalizing row count vram with
  | zero => exact .nothing fun o v ⟨py, hlo, hhi, _⟩ => by omega
  | succ n ih =>
    have hspan := f.painted_span vram row
    have hrest := ih (row + 1) (count + f.spanLength vram.size row)
      (Bytes.fill vram (row * f.pitch.toNat + f.firstColumn) f.colour
        (f.spanLength vram.size row))
    rw [hspan.size] at hrest
    exact hspan.cons hrest

theorem count_rows (row count : Nat) (vram : ByteArray) (n : Nat) :
    (f.rows row count vram n).1 =
      count + ∑ k ∈ Finset.range n, f.spanLength vram.size (row + k) := by
  induction n generalizing row count vram with
  | zero => rfl
  | succ n ih =>
    have hshift : ∑ k ∈ Finset.range n, f.spanLength vram.size (row + (k + 1)) =
        ∑ k ∈ Finset.range n, f.spanLength vram.size (row + 1 + k) :=
      Finset.sum_congr rfl fun k _ => by rw [Nat.add_right_comm row 1 k, Nat.add_assoc]
    rw [rows, ih, Bytes.size_fill, Finset.sum_range_succ', Nat.add_zero row, hshift]
    omega

/-! ### The whole fill -/

/-- A fill paints the bytes of its pixels. -/
theorem painted_execute (vram : ByteArray) :
    Painted
      (fun o v => (∃ p ∈ f.pixels vram.size, o = f.place p.1 p.2) ∧ v = f.colour)
      vram (f.execute vram).2 := by
  refine (f.painted_rows f.y.toNat 0 vram f.height.toNat).congr fun o v => ⟨?_, ?_⟩
  · rintro ⟨py, htop, hbottom, ⟨px, ⟨hcolumn, hadmits⟩, rfl, hsize⟩, hv⟩
    exact ⟨⟨(px, py), f.mem_pixels.mpr ⟨⟨⟨hcolumn, htop, hbottom⟩, hadmits⟩, hsize⟩, rfl⟩, hv⟩
  · rintro ⟨⟨⟨px, py⟩, hp, rfl⟩, hv⟩
    obtain ⟨⟨⟨hcolumn, htop, hbottom⟩, hadmits⟩, hsize⟩ := f.mem_pixels.mp hp
    exact ⟨py, htop, hbottom, ⟨px, ⟨hcolumn, hadmits⟩, rfl, hsize⟩, hv⟩

/-- A fill counts its pixels. -/
theorem count_execute (vram : ByteArray) :
    (f.execute vram).1 = (f.drawn vram.size).card := by
  rw [execute, count_rows, Nat.zero_add, drawn, Finset.card_filter, Finset.sum_product_right]
  refine Finset.sum_congr rfl fun k _ => ?_
  rw [← Finset.card_filter]
  exact (f.card_row vram.size _).symm

/-! ### Pixel by pixel -/

/-- Writes one pixel and counts it, if the clip rectangle lets it through and its byte lies in the
memory. -/
def pixel (px py : Nat) (acc : Nat × ByteArray) : Nat × ByteArray :=
  if f.Admits px py ∧ f.place px py < acc.2.size then
    (acc.1 + 1, Bytes.put acc.2 (f.place px py) f.colour)
  else acc

/-- Writes `n` pixels of a row from column `px` on. -/
def columns (px py : Nat) (acc : Nat × ByteArray) : Nat → Nat × ByteArray
  | 0 => acc
  | n + 1 => columns (px + 1) py (f.pixel px py acc) n

/-- Writes the pixels of `n` rows of the rectangle from row `py` on. -/
def pixelRows (py : Nat) (acc : Nat × ByteArray) : Nat → Nat × ByteArray
  | 0 => acc
  | n + 1 => pixelRows (py + 1) (f.columns f.x.toNat py acc f.width.toNat) n

theorem painted_pixel (px py : Nat) (acc : Nat × ByteArray) :
    Painted
      (fun o v => f.Admits px py ∧ o = f.place px py ∧ o < acc.2.size ∧ v = f.colour)
      acc.2 (f.pixel px py acc).2 := by
  unfold pixel
  split
  · next h =>
    refine (Painted.put acc.2 _ f.colour).congr fun o v => ⟨fun hput => ⟨h.1, hput⟩, And.right⟩
  · next h =>
    refine .nothing fun o v ⟨hadmits, ho, hsize, _⟩ => h ⟨hadmits, ho ▸ hsize⟩

theorem painted_columns (px py : Nat) (acc : Nat × ByteArray) (n : Nat) :
    Painted
      (fun o v => ∃ c, px ≤ c ∧ c < px + n ∧
        f.Admits c py ∧ o = f.place c py ∧ o < acc.2.size ∧ v = f.colour)
      acc.2 (f.columns px py acc n).2 := by
  induction n generalizing px acc with
  | zero => exact .nothing fun o v ⟨c, hlo, hhi, _⟩ => by omega
  | succ n ih =>
    have hpixel := f.painted_pixel px py acc
    have hrest := ih (px + 1) (f.pixel px py acc)
    rw [hpixel.size] at hrest
    exact hpixel.cons hrest

theorem count_columns (px py : Nat) (acc : Nat × ByteArray) (n : Nat) :
    (f.columns px py acc n).1 =
      acc.1 + ((Finset.range n).filter fun j =>
        f.Admits (px + j) py ∧ f.place (px + j) py < acc.2.size).card := by
  induction n generalizing px acc with
  | zero => rfl
  | succ n ih =>
    have hshift (j : Nat) : px + 1 + j = px + (j + 1) := by omega
    have hpixel : (f.pixel px py acc).1 =
        acc.1 + if f.Admits px py ∧ f.place px py < acc.2.size then 1 else 0 := by
      unfold pixel
      split <;> rfl
    rw [columns, ih, (f.painted_pixel px py acc).size, hpixel, Finset.card_filter,
      Finset.card_filter, Finset.sum_range_succ']
    simp only [hshift, Nat.add_zero]
    omega

/-- The pixels of a row, one after the other, fill its span. -/
theorem columns_eq (row : Nat) (acc : Nat × ByteArray) :
    f.columns f.x.toNat row acc f.width.toNat =
      (acc.1 + f.spanLength acc.2.size row,
        Bytes.fill acc.2 (row * f.pitch.toNat + f.firstColumn) f.colour
          (f.spanLength acc.2.size row)) := by
  have hspan : Painted (f.PutsRow acc.2.size row) acc.2
      (f.columns f.x.toNat row acc f.width.toNat).2 := by
    refine (f.painted_columns f.x.toNat row acc f.width.toNat).congr fun o v => ⟨?_, ?_⟩
    · rintro ⟨c, hleft, hright, hadmits, ho, hsize, hv⟩
      exact ⟨⟨c, ⟨⟨hleft, hright⟩, hadmits⟩, ho, hsize⟩, hv⟩
    · rintro ⟨⟨c, ⟨⟨hleft, hright⟩, hadmits⟩, ho, hsize⟩, hv⟩
      exact ⟨c, hleft, hright, hadmits, ho, hsize, hv⟩
  refine Prod.ext ?_ ?_
  · rw [count_columns, card_row]
  · exact hspan.eq (f.painted_span acc.2 row) fun hv hw => hv.2.trans hw.2.symm

theorem rows_eq_pixelRows (row count : Nat) (vram : ByteArray) (n : Nat) :
    f.rows row count vram n = f.pixelRows row (count, vram) n := by
  induction n generalizing row count vram with
  | zero => rfl
  | succ n ih => rw [rows, ih, pixelRows, columns_eq]

/-- The fill by spans is the fill pixel by pixel. -/
theorem execute_eq_pixelRows (vram : ByteArray) :
    f.execute vram = f.pixelRows f.y.toNat (0, vram) f.height.toNat :=
  f.rows_eq_pixelRows ..

/-! ### Clipped fills -/

/-- The fill of the intersection of the rectangle and the clip rectangle, without a clip
rectangle. -/
def cut : RectFill :=
  match f.clip with
  | none => f
  | some c =>
    let left := max f.x.toNat c.left.toNat
    let top := max f.y.toNat c.top.toNat
    { f with
      x := .ofNat left
      y := .ofNat top
      width := .ofNat (min (f.x.toNat + f.width.toNat) c.right.toNat - left)
      height := .ofNat (min (f.y.toNat + f.height.toNat) c.bottom.toNat - top)
      clip := none }

theorem clip_cut : f.cut.clip = none ∧ f.cut.pitch = f.pitch ∧ f.cut.colour = f.colour := by
  unfold cut
  cases h : f.clip with
  | none => exact ⟨h, rfl, rfl⟩
  | some c => exact ⟨rfl, rfl, rfl⟩

/-- The intersection fits into registers: its edges are edges of the rectangle or the clip
rectangle, and the far ones are not past the clip rectangle. -/
theorem covers_cut {px py : Nat} : f.cut.Covers px py ↔ f.Covers px py ∧ f.Admits px py := by
  unfold cut Admits
  cases h : f.clip with
  | none => simp
  | some c =>
    have hx := f.x.toNat_lt
    have hy := f.y.toNat_lt
    have hleft := c.left.toNat_lt
    have htop := c.top.toNat_lt
    have hright := c.right.toNat_lt
    have hbottom := c.bottom.toNat_lt
    have hnat {n : Nat} (hn : n < 2 ^ 16) : (UInt16.ofNat n).toNat = n :=
      UInt16.toNat_ofNat_of_lt' hn
    simp only [Option.mem_def, Option.some.injEq, forall_eq', DrawClip.Holds, Covers]
    rw [hnat (by omega), hnat (by omega), hnat (by omega), hnat (by omega)]
    omega

theorem pixels_cut (size : Nat) : f.cut.pixels size = f.pixels size := by
  obtain ⟨hclip, hpitch, -⟩ := f.clip_cut
  have hadmits (px py : Nat) : f.cut.Admits px py := by
    intro c hc
    rw [hclip] at hc
    exact nomatch hc
  ext ⟨px, py⟩
  rw [mem_pixels, mem_pixels, covers_cut, place, hpitch]
  exact and_congr_left' (and_iff_left (hadmits px py))

/-- **Clipping a fill and filling the intersection are the same.** -/
theorem execute_cut (vram : ByteArray) : f.cut.execute vram = f.execute vram := by
  obtain ⟨-, hpitch, hcolour⟩ := f.clip_cut
  have hcount : (f.cut.execute vram).1 = (f.execute vram).1 := by
    rw [count_execute, count_execute, ← card_pixels, ← card_pixels, pixels_cut]
  have hcut := f.cut.painted_execute vram
  simp only [pixels_cut, place, hpitch, hcolour] at hcut
  exact Prod.ext hcount
    (hcut.eq (f.painted_execute vram) fun hv hw => hv.2.trans hw.2.symm)

/-- **A fill writes the pixels of its rectangle, cut to the clip rectangle and the memory.** A byte
holds the colour afterwards if a pixel stands there or it held the colour before, every other byte
is as before, and the pixels are counted. Writing the pixels one by one does the same, and so does
the fill of the intersection of the rectangle and the clip rectangle. -/
theorem execute_fills (vram : ByteArray) :
    (∀ o, Bytes.byteD (f.execute vram).2 o = f.colour ↔
      (∃ p ∈ f.drawn vram.size, o = f.place (f.x.toNat + p.1) (f.y.toNat + p.2)) ∨
        Bytes.byteD vram o = f.colour) ∧
    (∀ o, (∀ p ∈ f.drawn vram.size, o ≠ f.place (f.x.toNat + p.1) (f.y.toNat + p.2)) →
      Bytes.byteD (f.execute vram).2 o = Bytes.byteD vram o) ∧
    (f.execute vram).2.size = vram.size ∧
    (f.execute vram).1 = (f.drawn vram.size).card ∧
    f.execute vram = f.pixelRows f.y.toNat (0, vram) f.height.toNat ∧
    (f.cut.clip = none ∧ f.cut.pitch = f.pitch ∧ f.cut.colour = f.colour ∧
      (∀ px py, f.cut.Covers px py ↔ f.Covers px py ∧ f.Admits px py) ∧
      f.cut.execute vram = f.execute vram) := by
  have hpixel {o : Nat} : (∃ p ∈ f.pixels vram.size, o = f.place p.1 p.2) ↔
      ∃ p ∈ f.drawn vram.size, o = f.place (f.x.toNat + p.1) (f.y.toNat + p.2) := by
    rw [pixels, Finset.exists_mem_image]
  have h := f.painted_execute vram
  simp only [hpixel] at h
  have hrest (o : Nat)
      (ho : ∀ p ∈ f.drawn vram.size, o ≠ f.place (f.x.toNat + p.1) (f.y.toNat + p.2)) :
      Bytes.byteD (f.execute vram).2 o = Bytes.byteD vram o :=
    h.byte_of_not fun v ⟨⟨p, hp, hplace⟩, _⟩ => ho p hp hplace
  refine ⟨fun o => ?_, hrest, h.size, f.count_execute vram, f.execute_eq_pixelRows vram,
    f.clip_cut.1, f.clip_cut.2.1, f.clip_cut.2.2, fun px py => f.covers_cut, f.execute_cut vram⟩
  by_cases ho : ∃ p ∈ f.drawn vram.size, o = f.place (f.x.toNat + p.1) (f.y.toNat + p.2)
  · exact iff_of_true (h.byte_of ⟨ho, rfl⟩).2 (.inl ho)
  · rw [hrest o fun p hp hplace => ho ⟨p, hp, hplace⟩]
    exact (or_iff_right ho).symm

end Fill

end RectFill

end PumaBoard.Host
