import PumaBoard.Proofs.Word.Number
import PumaBoard.Trace.Run

/-!
What an engine is told of triangles. Each comes with the state it is asked for in, which says
whether it has a texture and where that starts; the calls for it are its uploads and the call that
draws it. The place of a triangle among such calls, and its texture, can be told from the calls.
-/

namespace PumaBoard

/-! ### Drawings -/

/-- A triangle that is asked for: the state it is asked for in and its setup. -/
structure Drawing where
  state : Coprocessor
  setup : Triangle.Setup

namespace Drawing

variable (w : Drawing) (b : Render.Backend)

/-- Bit 27 of the colour path register asks for a texture. -/
def textured : Bool := (w.state.regs.get Register.colourPath).toNat.testBit 27

/-- Where the texture starts: the 19 bits of the texture base register number pages of 4 KB. -/
def textureStart : Nat := (w.state.regs.get Register.textureBase).toNat % 2 ^ 19 * 4096

/-- The bytes of the texture, as far as the texture memory goes. -/
def texels : ByteArray :=
  w.state.memory.texture.extract w.textureStart
    (w.textureStart + min 131072 (w.state.memory.texture.size - w.textureStart))

/-- The texture is handed to the engine. -/
def HasTexture : Prop :=
  w.textured = true ∧ w.textureStart < w.state.memory.texture.size

instance : Decidable w.HasTexture := inferInstanceAs (Decidable (_ ∧ _))

/-- The calls that hand the texture to a texture unit. -/
def upload (tmu : Nat) : List Render.Call :=
  [.load tmu (UInt32.ofNat w.textureStart) w.texels, .flush (UInt32.ofNat w.textureStart) tmu]

/-- The calls that hand the texture to every texture unit of the engine. -/
def uploads : List Render.Call := if b.dual then w.upload 0 ++ w.upload 1 else w.upload 0

/-- The call that draws the triangle. -/
def call : Render.Call := .triangle (w.state.block w.setup) w.state.memory.frame

/-- The calls for the triangle. -/
def calls : List Render.Call := (if w.HasTexture then w.uploads b else []) ++ [w.call]

theorem isTriangle_uploads : ∀ c ∈ w.uploads b, Trace.isTriangle c = false := by
  unfold uploads upload
  split <;> simp [Trace.isTriangle]

/-- The uploads end with one that is flushed. -/
theorem uploads_eq :
    ∃ front tmu, w.uploads b = front ++
      [.load tmu (UInt32.ofNat w.textureStart) w.texels,
        .flush (UInt32.ofNat w.textureStart) tmu] := by
  unfold uploads
  split
  · exact ⟨w.upload 0, 1, rfl⟩
  · exact ⟨[], 0, rfl⟩

end Drawing

/-! ### What the engine is told of drawings -/

/-- The calls are those for the triangles, one triangle after the other, and flushes between
them. -/
inductive Drawn (b : Render.Backend) : List Drawing → List Render.Call → Prop
  | nil : Drawn b [] []
  | flush {ws : List Drawing} {cs : List Render.Call} (addr : UInt32) (tmu : Nat) :
      Drawn b ws cs → Drawn b ws (.flush addr tmu :: cs)
  | draw {ws : List Drawing} {cs : List Render.Call} (w : Drawing) :
      Drawn b ws cs → Drawn b (w :: ws) (w.calls b ++ cs)

namespace Drawn

open Render

variable {b : Backend} {ws vs : List Drawing} {cs ds pre post : List Call}

theorem append (hc : Drawn b ws cs) (hd : Drawn b vs ds) : Drawn b (ws ++ vs) (cs ++ ds) := by
  induction hc with
  | nil => exact hd
  | flush addr tmu _ ih => exact .flush addr tmu ih
  | draw w _ ih =>
    rw [List.append_assoc]
    exact .draw w ih

theorem single (w : Drawing) : Drawn b [w] (w.calls b) := by
  rw [← List.append_nil (w.calls b)]
  exact .draw w .nil

/-- Every triangle is drawn once, in order. -/
theorem triangles (h : Drawn b ws cs) : cs.filter Trace.isTriangle = ws.map Drawing.call := by
  induction h with
  | nil => rfl
  | flush addr tmu _ ih => exact ih
  | draw w _ ih =>
    have hnone : (if w.HasTexture then w.uploads b else []).filter Trace.isTriangle = [] := by
      split
      · exact List.filter_eq_nil_iff.mpr fun c hc => by simp [w.isTriangle_uploads b c hc]
      · rfl
    rw [Drawing.calls, List.filter_append, List.filter_append, hnone, ih]
    rfl

/-- A triangle in a list that starts with calls for a triangle is that one or comes later. -/
theorem split_draw {us : List Call} {c x : Call} (hus : ∀ u ∈ us, Trace.isTriangle u = false)
    (hx : Trace.isTriangle x = true) (h : us ++ [c] ++ cs = pre ++ x :: post) :
    (pre = us ∧ x = c) ∨ ∃ mid, pre = us ++ [c] ++ mid ∧ cs = mid ++ x :: post := by
  rw [List.append_assoc] at h
  rcases List.append_eq_append_iff.mp h with ⟨mid, hpre, hrest⟩ | ⟨mid, hus', hrest⟩
  · cases mid with
    | nil =>
      injection hrest with hc _
      exact .inl ⟨by simpa using hpre, hc.symm⟩
    | cons m mid =>
      injection hrest with hc hcs
      refine .inr ⟨mid, ?_, hcs⟩
      rw [hpre, hc]
      simp
  · -- the triangle would be one of the calls before the first triangle
    cases mid with
    | nil =>
      injection hrest with hc _
      exact .inl ⟨by simpa using hus'.symm, hc⟩
    | cons m mid =>
      injection hrest with hm _
      have hmem : x ∈ us := by rw [hus', hm]; simp
      rw [hus x hmem] at hx
      cases hx

/-- What may stand before a triangle: its texture after a gap of flushes, at the start or after the
last triangle. -/
def Leads (b : Backend) (w : Drawing) (pre : List Call) : Prop :=
  ∃ front gap, pre = front ++ gap ++ (if w.HasTexture then w.uploads b else []) ∧
    (∀ c ∈ gap, ∃ addr tmu, c = .flush addr tmu) ∧
    (front = [] ∨ ∃ rest block frame, front = rest ++ [.triangle block frame])

theorem leads_flush {w : Drawing} (h : Leads b w pre) (addr : UInt32) (tmu : Nat) :
    Leads b w (.flush addr tmu :: pre) := by
  obtain ⟨front, gap, hpre, hgap, hfront⟩ := h
  rcases hfront with hnil | ⟨rest, block, frame, hrest⟩
  · refine ⟨[], .flush addr tmu :: gap, by rw [hpre, hnil]; rfl, ?_, .inl rfl⟩
    exact List.forall_mem_cons.mpr ⟨⟨addr, tmu, rfl⟩, hgap⟩
  · exact ⟨.flush addr tmu :: front, gap, by rw [hpre]; rfl, hgap,
      .inr ⟨.flush addr tmu :: rest, block, frame, by rw [hrest]; rfl⟩⟩

theorem leads_draw {w : Drawing} (h : Leads b w pre) (v : Drawing) :
    Leads b w (v.calls b ++ pre) := by
  obtain ⟨front, gap, hpre, hgap, hfront⟩ := h
  refine ⟨v.calls b ++ front, gap, by rw [hpre]; simp only [List.append_assoc], hgap, .inr ?_⟩
  rcases hfront with hnil | ⟨rest, block, frame, hrest⟩
  · exact ⟨_, _, _, by rw [hnil, List.append_nil, Drawing.calls]; rfl⟩
  · exact ⟨v.calls b ++ rest, block, frame, by rw [hrest, List.append_assoc]⟩

/-- Each triangle is the one of its place, with what may stand before it. -/
theorem before {x : Call} (h : Drawn b ws cs) (hcs : cs = pre ++ x :: post)
    (hx : Trace.isTriangle x = true) :
    ∃ w, ws[pre.countP Trace.isTriangle]? = some w ∧ x = w.call ∧ Leads b w pre := by
  induction h generalizing pre with
  | nil => simp at hcs
  | flush addr tmu _ ih =>
    cases pre with
    | nil =>
      injection hcs with hc _
      rw [← hc] at hx
      cases hx
    | cons c pre =>
      injection hcs with hc hrest
      obtain ⟨w, hw, hcall, hleads⟩ := ih hrest
      rw [← hc]
      exact ⟨w, hw, hcall, leads_flush hleads addr tmu⟩
  | draw w _ ih =>
    have hus : ∀ u ∈ (if w.HasTexture then w.uploads b else []), Trace.isTriangle u = false := by
      split
      · exact w.isTriangle_uploads b
      · simp
    have hnone : (if w.HasTexture then w.uploads b else []).countP Trace.isTriangle = 0 :=
      List.countP_eq_zero.mpr fun u hu => by simp [hus u hu]
    rcases split_draw hus hx hcs with ⟨hpre, hcall⟩ | ⟨mid, hpre, hlater⟩
    · exact ⟨w, by rw [hpre, hnone]; rfl, hcall, [], [], by simpa using hpre, by simp, .inl rfl⟩
    · obtain ⟨v, hv, hcall, hleads⟩ := ih hlater
      refine ⟨v, ?_, hcall, ?_⟩
      · rw [hpre, List.countP_append, List.countP_append, hnone]
        show (w :: _)[0 + 1 + mid.countP Trace.isTriangle]? = some v
        rw [Nat.zero_add, Nat.add_comm, List.getElem?_cons_succ]
        exact hv
      · rw [hpre]
        exact leads_draw hleads w

/-- No upload is the last call when flushes follow a triangle, or nothing. -/
theorem not_load_last {front gap rest : List Call} {tmu : Nat} {addr : UInt32}
    {texels : ByteArray} (hgap : ∀ c ∈ gap, ∃ addr tmu, c = .flush addr tmu)
    (hfront : front = [] ∨ ∃ rest block frame, front = rest ++ [.triangle block frame]) :
    front ++ gap ≠ rest ++ [.load tmu addr texels] := by
  intro h
  rcases List.eq_nil_or_concat gap with rfl | ⟨gap, last, rfl⟩
  · rcases hfront with rfl | ⟨before, block, frame, rfl⟩
    · simp at h
    · rw [List.append_nil] at h
      cases (List.append_inj' h rfl).2
  · obtain ⟨a, t, rfl⟩ := hgap last (by simp)
    rw [List.concat_eq_append, ← List.append_assoc] at h
    cases (List.append_inj' h rfl).2

/-- Neither is one the last but one, if the last call is no triangle. -/
theorem not_load_of_gap {front gap rest : List Call} {tmu : Nat} {addr : UInt32}
    {texels : ByteArray} {c : Call} (hc : Trace.isTriangle c = false)
    (hgap : ∀ c ∈ gap, ∃ addr tmu, c = .flush addr tmu)
    (hfront : front = [] ∨ ∃ rest block frame, front = rest ++ [.triangle block frame]) :
    front ++ gap ≠ rest ++ [.load tmu addr texels, c] := by
  intro h
  rw [← List.singleton_append, ← List.append_assoc] at h
  rcases List.eq_nil_or_concat gap with rfl | ⟨gap, last, rfl⟩
  · rcases hfront with rfl | ⟨before, block, frame, rfl⟩
    · simp at h
    · rw [List.append_nil] at h
      cases (List.append_inj' h rfl).2
      cases hc
  · have hinit : ∀ c ∈ gap, ∃ addr tmu, c = .flush addr tmu := fun c hmem =>
      hgap c (by simp [hmem])
    rw [List.concat_eq_append, ← List.append_assoc] at h
    exact not_load_last hinit hfront (List.append_inj' h rfl).1

/-- **Every triangle comes right after its texture, and after no texture if it has none.** -/
theorem texture_iff {x : Call} (h : Drawn b ws cs) (hcs : cs = pre ++ x :: post)
    (hx : Trace.isTriangle x = true) :
    ∃ w, ws[pre.countP Trace.isTriangle]? = some w ∧ x = w.call ∧
      (w.HasTexture ↔ w.uploads b <:+ pre) := by
  obtain ⟨w, hw, hcall, front, gap, hpre, hgap, hfront⟩ := h.before hcs hx
  refine ⟨w, hw, hcall, fun htexture => ?_, fun hsuffix => ?_⟩
  · rw [hpre, if_pos htexture]
    exact List.suffix_append _ _
  · by_contra htexture
    rw [if_neg htexture, List.append_nil] at hpre
    obtain ⟨rest, hrest⟩ := hsuffix
    obtain ⟨us, tmu, hus⟩ := w.uploads_eq b
    rw [hus, ← List.append_assoc, hpre] at hrest
    exact not_load_of_gap rfl hgap hfront hrest.symm

end Drawn

end PumaBoard
