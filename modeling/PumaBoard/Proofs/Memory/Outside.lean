import PumaBoard.FastFill
import PumaBoard.Proofs.Memory.Words

/-!
Fills of two memories at once. A fill writes the same pixels to every memory, so what holds
between two memories and is kept by a halfword written to both holds after a fill of both. Two
memories that differ in a range of the frame buffer alone still do.
-/

namespace PumaBoard

namespace FastFill

variable {R : Aperture.Memory → Aperture.Memory → Prop}
  (hR : ∀ {m n} (o : UInt32) (v : UInt16), R m n → R (m.writeFrame16 o v) (n.writeFrame16 o v))
  {m n : Aperture.Memory}

include hR

theorem rel_paint (target : Option FillTarget) (row x : UInt32) (h : R m n) :
    R (paint target row x m) (paint target row x n) := by
  cases target with
  | none => exact h
  | some t => exact hR _ _ h

theorem rel_paintRow (f : FastFill) (row x : UInt32) (k : Nat) (h : R m n) :
    R (f.paintRow row x m k) (f.paintRow row x n k) := by
  induction k generalizing x m n with
  | zero => exact h
  | succ k ih => exact ih _ (rel_paint hR _ _ _ (rel_paint hR _ _ _ h))

theorem rel_paintRows (f : FastFill) (y : UInt32) (k : Nat) (h : R m n) :
    R (f.paintRows y m k) (f.paintRows y n k) := by
  induction k generalizing y m n with
  | zero => exact h
  | succ k ih => exact ih _ (rel_paintRow hR f _ _ _ h)

/-- What holds between two memories holds after a fill of both. -/
theorem rel_execute (f : FastFill) (h : R m n) : R (f.execute m) (f.execute n) := by
  unfold execute
  split
  · exact rel_paintRows hR f _ _ h
  · exact h

omit hR in
theorem mode_execute (f : FastFill) (m : Aperture.Memory) : (f.execute m).mode = m.mode :=
  rel_execute (R := fun a _ => a.mode = m.mode) (fun _ _ h => h) f (n := m) rfl

end FastFill

/-! ### Memories that agree outside a range of the frame buffer -/

namespace Aperture.Memory

/-- Two memories of one mode hold the same bytes but for those of the frame buffer from `lo` up to
`hi`. -/
structure EqOutside (lo hi : Nat) (m n : Memory) : Prop where
  mode : m.mode = n.mode
  frame : Bytes.EqOutside lo hi m.frame n.frame
  texture : m.texture = n.texture

namespace EqOutside

variable {lo hi : Nat} {m n : Memory}

theorem refl (m : Memory) : EqOutside lo hi m m := ⟨rfl, .refl _, rfl⟩

theorem writeFrame16 (o : UInt32) (v : UInt16) (h : EqOutside lo hi m n) :
    EqOutside lo hi (m.writeFrame16 o v) (n.writeFrame16 o v) :=
  ⟨h.mode, h.frame.write16 _ _, h.texture⟩

/-- A word written inside the range to one of them alone does not matter. -/
theorem writeFrame32_inside {o : UInt32} (v : UInt32) (hlo : lo ≤ o.toNat)
    (hhi : o.toNat + 4 ≤ hi) (h : EqOutside lo hi m n) :
    EqOutside lo hi (m.writeFrame32 o v) n :=
  ⟨h.mode, (Bytes.EqOutside.write32_inside v hlo hhi).trans h.frame, h.texture⟩

theorem execute (f : FastFill) (h : EqOutside lo hi m n) :
    EqOutside lo hi (f.execute m) (f.execute n) :=
  FastFill.rel_execute writeFrame16 f h

end EqOutside

end Aperture.Memory

end PumaBoard
