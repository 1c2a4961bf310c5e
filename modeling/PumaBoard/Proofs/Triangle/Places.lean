import PumaBoard.Triangle.Setup

/-!
The places of the setup banks: a field read after a field was written, and banks that hold the same
in every field are the same.
-/

namespace PumaBoard

/-- A place of a record after some places were written one after the other holds what was written
to it, as the record keeps it there. -/
theorem get_foldl_put {α ι : Type} [DecidableEq ι] {get : α → ι → UInt32}
    {put : α → ι → UInt32 → α} {cut : ι → UInt32 → UInt32}
    (hput : ∀ u k l w, get (put u k w) l = if k = l then cut k w else get u l)
    (value : ι → UInt32) (ks : List ι) (u : α) (l : ι) :
    get (ks.foldl (fun u k => put u k (value k)) u) l =
      if l ∈ ks then cut l (value l) else get u l := by
  induction ks generalizing u with
  | nil => simp
  | cons k ks ih =>
    rw [List.foldl_cons, ih, hput]
    by_cases hl : l ∈ ks
    · simp [hl]
    · by_cases hk : k = l
      · simp [hk]
      · simp [hl, hk, Ne.symm hk]

namespace Triangle

/-! ### Fields -/

/-- What holds of the field at every place holds of every field. -/
@[elab_as_elim]
theorem Field.of_index {P : Field → Prop} (h : ∀ i, P (ofIndex i)) (f : Field) : P f :=
  f.ofIndex_index ▸ h f.index

theorem Field.mem_all (f : Field) : f ∈ Field.all := Field.of_index (fun _ => List.get_mem ..) f

theorem Field.index_inj {f g : Field} : f.index = g.index ↔ f = g :=
  ⟨fun h => by rw [← f.ofIndex_index, h, g.ofIndex_index], fun h => h ▸ rfl⟩

/-! ### Banks -/

namespace Setup

theorem get_put (t : Setup) (f g : Field) (v : UInt32) :
    (t.put f v).get g = if f = g then v else t.get g := by
  simp only [get, put, Vector.get, Vector.set, Array.getElem_set, ← Field.index_inj, Fin.ext_iff]
  rfl

theorem get_set (t : Setup) (f g : Field) (v : UInt32) :
    (t.set f v).get g = if f = g then f.format.store v else t.get g :=
  t.get_put f g (f.format.store v)

theorem eq_of_get {t u : Setup} (h : ∀ f, t.get f = u.get f) : t = u := by
  have hwords : t.words = u.words := by
    refine Vector.ext fun i hi => ?_
    have hf := h (.ofIndex ⟨i, hi⟩)
    rwa [get, get, Field.index_ofIndex] at hf
  cases t
  exact congrArg mk hwords

end Setup

namespace FloatSetup

theorem get_set (t : FloatSetup) (f g : Field) (v : UInt32) :
    (t.set f v).get g = if f = g then v else t.get g := by
  simp only [get, set, Vector.get, Vector.set, Array.getElem_set, ← Field.index_inj, Fin.ext_iff]
  rfl

theorem eq_of_get {t u : FloatSetup} (h : ∀ f, t.get f = u.get f) : t = u := by
  have hpatterns : t.patterns = u.patterns := by
    refine Vector.ext fun i hi => ?_
    have hf := h (.ofIndex ⟨i, hi⟩)
    rwa [get, get, Field.index_ofIndex] at hf
  cases t
  exact congrArg mk hpatterns

end FloatSetup

end Triangle

end PumaBoard
