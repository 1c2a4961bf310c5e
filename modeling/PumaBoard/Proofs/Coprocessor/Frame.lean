import PumaBoard.Proofs.Coprocessor.Parts
import PumaBoard.Proofs.Memory.Outside

/-!
What commands leave alone. A property that looks neither at the notices nor at the swaps and the
ring is kept by every command as soon as drawing a triangle and filling keep it.
-/

namespace PumaBoard.Coprocessor

/-- A property of what is neither a notice nor a part of the swaps or the ring, kept by the
drawing of triangles. -/
structure Frame (P : Coprocessor → Prop) : Prop where
  note : ∀ {d} (n : Notice), P d → P (d.note n)
  swap : ∀ {d} (s : Swap), P d → P (d.setSwap s)
  ring : ∀ {d} (r : Ring), P d → P (d.setRing r)
  submit : ∀ {d} (t : Triangle.Setup), P d → P (d.submit t)

/-! ### Drawing -/

section Submit

variable (P : Coprocessor → Prop) {d : Coprocessor}

theorem submit_of (note : ∀ {d} {n : Notice}, n.stops = false → P d → P (d.note n))
    (call : ∀ {d} (c : Render.Call), P d → P (d.call c))
    (busy : ∀ {d} (on : Bool), P d → P (d.setBusy on))
    (count : ∀ {d}, P d → P d.countTriangle) (t : Triangle.Setup) (h : P d) : P (d.submit t) := by
  have upload (d) (tmu : Nat) (h : P d) : P (d.upload tmu) := by
    rw [upload_eq]
    split
    · exact call _ (call _ h)
    · exact note rfl h
  have uploads (units : List Nat) (d) (h : P d) : P (units.foldl Coprocessor.upload d) := by
    induction units generalizing d with
    | nil => exact h
    | cons tmu units ih => exact ih _ (upload d tmu h)
  have uploadAll (b) (d) (h : P d) : P (d.uploadAll b) := by
    unfold Coprocessor.uploadAll
    dsimp only
    split
    · exact uploads _ _ h
    · exact h
  rw [submit_eq]
  split
  · cases d.backend with
    | none => exact note rfl h
    | some b => exact busy _ (count (call _ (uploadAll b _ (busy _ h))))
  · exact h

end Submit

namespace Frame

variable {P : Coprocessor → Prop} (F : Frame P) {d : Coprocessor}

include F

/-! ### Commands -/

theorem checkSum (fits : Bool) (h : P d) : P (d.checkSum fits) := by
  cases fits with
  | true => exact h
  | false => exact F.note .overflow h

theorem swapBuffers (h : P d) : P d.swapBuffers := by
  rw [swapBuffers_eq]
  split
  · exact F.note _ (F.swap _ (F.checkSum _ h))
  · exact h

theorem vsync (h : P d) : P d.vsync := by
  rw [vsync_eq]
  split
  · split
    · exact F.swapBuffers (F.swap _ h)
    · exact F.swap _ h
  · exact h

theorem execute {c : Command} (hfill : c ≠ .fastFill ∨ ∀ d, P d → P d.fastFill) (h : P d) :
    P (d.execute c) := by
  cases c with
  | triangle | floatTriangle => exact F.submit _ (F.note _ h)
  | nop => exact F.note _ h
  | fastFill =>
    rcases hfill with hc | hfill
    · exact absurd rfl hc
    · exact hfill _ (F.note _ h)
  | swapBuffer => exact F.note _ (F.swap _ h)
  | swapPend => exact F.note _ (F.swap _ (F.checkSum _ h))

/-! ### The setup of the ring -/

theorem writeInit (n : Fin 6) (v : UInt32) (h : P d) : P (d.writeInit n v) := by
  match n with
  | 3 => exact F.note _ (F.ring _ h)
  | 4 | 5 => exact F.ring _ h
  | 0 | 1 | 2 => exact h

theorem noteAny (n : Option Notice) (h : P d) : P (d.noteAny n) := by
  cases n with
  | none => exact h
  | some n => exact F.note n h

theorem writeRingControl (c : RingControl) (v : UInt32) (h : P d) :
    P (d.writeRingControl c v) := by
  rw [writeRingControl_eq]
  exact F.noteAny _ (F.ring _ h)

/-! ### Registers -/

/-- A write is kept if its store and what it does to the banks are. -/
theorem writeRegister (hstore : ∀ d r v, P d → P (d.store r v))
    (htriangle : ∀ d f v, P d → P (d.affect (.triangle f) v))
    (hfloat : ∀ d f v, P d → P (d.affect (.floatTriangle f) v))
    (hfog : ∀ d n v, P d → P (d.affect (.fog n) v)) {r : Register}
    (hfill : r ≠ Register.fastFillCommand ∨ ∀ d, P d → P d.fastFill) (v : UInt32) (h : P d) :
    P (d.writeRegister r v) := by
  rw [writeRegister_eq]
  have hs := hstore d r v h
  -- of all registers the fast fill command alone has the effect of a fill
  have hr := r.fills_effect
  revert hr
  cases r.descriptor.effect with
  | none => exact fun _ => hs
  | triangle f => exact fun _ => htriangle _ f v hs
  | floatTriangle f => exact fun _ => hfloat _ f v hs
  | fog n => exact fun _ => hfog _ n v hs
  | init n => exact fun _ => F.writeInit n v hs
  | ring c => exact fun _ => F.writeRingControl c v hs
  | command c =>
    intro hr
    refine F.execute (hfill.imp_left fun hne hc => ?_) hs
    simp [Effect.fills, hc, hne] at hr

end Frame

/-! ### The memory and the enable switch -/

section Switches

variable {d : Coprocessor} {r : Register}

theorem keeps_writeRegister (Q : Aperture.Memory → Bool → Prop)
    (hfill : r ≠ Register.fastFillCommand ∨
      ∀ d : Coprocessor, Q d.memory d.enabled → Q d.fastFill.memory d.fastFill.enabled)
    (v : UInt32) (h : Q d.memory d.enabled) :
    Q (d.writeRegister r v).memory (d.writeRegister r v).enabled := by
  have F : Frame fun d => Q d.memory d.enabled :=
    { note := fun _ h => h
      swap := fun _ h => h
      ring := fun _ h => h
      submit :=
        submit_of (fun d => Q d.memory d.enabled) (fun _ h => h) (fun _ h => h) (fun _ h => h)
          fun h => h }
  exact F.writeRegister (fun _ _ _ h => h) (fun _ _ _ h => h) (fun _ _ _ h => h)
    (fun _ _ _ h => h) hfill v h

variable (d r) (v : UInt32)

theorem mode_writeRegister : (d.writeRegister r v).mode = d.mode := by
  refine keeps_writeRegister (fun m _ => m.mode = d.mode) (.inr fun e h => ?_) v rfl
  rw [fastFill_eq]
  split
  · exact (FastFill.mode_execute ..).trans h
  · exact h

theorem enabled_writeRegister : (d.writeRegister r v).enabled = d.enabled := by
  refine keeps_writeRegister (fun _ on => on = d.enabled) (.inr fun e h => ?_) v rfl
  rw [fastFill_eq]; split <;> exact h

variable {r} in
/-- A write of any register but the fast fill command leaves the memory alone. -/
theorem memory_writeRegister (hr : r ≠ Register.fastFillCommand) :
    (d.writeRegister r v).memory = d.memory :=
  keeps_writeRegister (fun m _ => m = d.memory) (.inl hr) v rfl

end Switches

end PumaBoard.Coprocessor
