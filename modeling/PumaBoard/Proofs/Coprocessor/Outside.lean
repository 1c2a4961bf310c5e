import Mathlib.Data.List.Forall2
import PumaBoard.Proofs.Coprocessor.Frame
import PumaBoard.Proofs.Memory.Outside

/-!
Two coprocessors whose frame buffers differ in a range alone, and that may differ in the ring, the
status flags and the notices. Commands look at none of these, so a write of a register that does
not set up the ring keeps them so, and the calls that it makes differ only in the frame buffer
that a triangle is handed.
-/

namespace PumaBoard

/-! ### Calls -/

/-- Two calls are the same but for the bytes from `lo` up to `hi` of the frame buffer lent to
them. -/
inductive Render.Call.EqOutside (lo hi : Nat) : Call → Call → Prop where
  | triangle (block : Block) {f g : ByteArray} (h : Bytes.EqOutside lo hi f g) :
      EqOutside lo hi (.triangle block f) (.triangle block g)
  | same (c : Call) : EqOutside lo hi c c

namespace Coprocessor

/-! ### Coprocessors that agree outside a range of the frame buffer -/

/-- Two coprocessors agree outside the bytes from `lo` up to `hi` of the frame buffer, the ring,
the status flags and the notices left out of account. -/
structure EqOutside (lo hi : Nat) (p q : Coprocessor) : Prop where
  memory : p.memory.EqOutside lo hi q.memory
  regs : p.regs = q.regs
  triangle : p.triangle = q.triangle
  floatTriangle : p.floatTriangle = q.floatTriangle
  fog : p.fog = q.fog
  swap : p.swap = q.swap
  counters : p.counters = q.counters
  busy : p.busy = q.busy
  window : p.window = q.window
  enabled : p.enabled = q.enabled
  pumaRequest : p.pumaRequest = q.pumaRequest
  pumaGrant : p.pumaGrant = q.pumaGrant
  backend : p.backend = q.backend
  calls : List.Forall₂ (Render.Call.EqOutside lo hi) p.calls.toList q.calls.toList

namespace EqOutside

variable {lo hi : Nat} {p q : Coprocessor}

theorem refl (d : Coprocessor) : EqOutside lo hi d d where
  memory := .refl _
  regs := rfl
  triangle := rfl
  floatTriangle := rfl
  fog := rfl
  swap := rfl
  counters := rfl
  busy := rfl
  window := rfl
  enabled := rfl
  pumaRequest := rfl
  pumaGrant := rfl
  backend := rfl
  calls := List.forall₂_same.mpr fun c _ => .same c

variable (h : EqOutside lo hi p q)

include h

/-! ### Effects -/

theorem note (m n : Notice) : EqOutside lo hi (p.note m) (q.note n) := { h with }

theorem checkSum (fits : Bool) : EqOutside lo hi (p.checkSum fits) (q.checkSum fits) := { h with }

theorem setRing_left (r : Ring) : EqOutside lo hi (p.setRing r) q := { h with }

theorem setSwap (s : Swap) : EqOutside lo hi (p.setSwap s) (q.setSwap s) :=
  { h with swap := rfl }

theorem setBusy (on : Bool) : EqOutside lo hi (p.setBusy on) (q.setBusy on) :=
  { h with busy := rfl }

theorem call {c e : Render.Call} (hc : c.EqOutside lo hi e) :
    EqOutside lo hi (p.call c) (q.call e) :=
  { h with
    calls := by
      simp only [Coprocessor.call, Array.toList_push]
      exact List.rel_append h.calls (.cons hc .nil) }

/-- A word written inside the range to one of them alone does not matter. -/
theorem storeFrame_left {o : UInt32} (v : UInt32) (hlo : lo ≤ o.toNat) (hhi : o.toNat + 4 ≤ hi) :
    EqOutside lo hi (p.storeFrame o v) q :=
  { h with memory := h.memory.writeFrame32_inside v hlo hhi }

/-! ### Commands -/

theorem upload (tmu : Nat) : EqOutside lo hi (p.upload tmu) (q.upload tmu) := by
  have ht : p.textureOffset = q.textureOffset := by rw [textureOffset, textureOffset, h.regs]
  rw [upload_eq, upload_eq, ht, h.memory.texture]
  split
  · exact (h.call (.same _)).call (.same _)
  · exact h.note _ _

theorem uploadAll (b : Render.Backend) : EqOutside lo hi (p.uploadAll b) (q.uploadAll b) := by
  have uploads (units : List Nat) : EqOutside lo hi (units.foldl Coprocessor.upload p)
      (units.foldl Coprocessor.upload q) := by
    induction units generalizing p q with
    | nil => exact h
    | cons tmu units ih => exact ih (h.upload tmu)
  unfold Coprocessor.uploadAll
  rw [h.regs]
  dsimp only
  split
  · exact uploads _
  · exact h

theorem queue (t : Triangle.Setup) : EqOutside lo hi (p.queue t) (q.queue t) := by
  have hb : p.block t = q.block t := by rw [block, block, h.regs, h.fog, h.window]
  rw [Coprocessor.queue, Coprocessor.queue, hb]
  have hq := h.call (.triangle (q.block t) h.memory.frame)
  exact { hq with counters := by simp only [countTriangle, hq.counters] }

theorem submit (t : Triangle.Setup) : EqOutside lo hi (p.submit t) (q.submit t) := by
  rw [submit_eq, submit_eq, h.enabled, h.backend]
  split
  · cases q.backend with
    | none => exact h.note _ _
    | some b => exact (((h.setBusy true).uploadAll b).queue t).setBusy false
  · exact h

theorem fastFill : EqOutside lo hi p.fastFill q.fastFill := by
  rw [fastFill_eq, fastFill_eq, h.enabled, h.regs]
  split
  · exact { h with memory := h.memory.execute _ }
  · exact h

theorem execute (c : Command) : EqOutside lo hi (p.execute c) (q.execute c) := by
  cases c with
  | triangle =>
    rw [execute_triangle, execute_triangle, h.triangle]
    exact (h.note _ _).submit _
  | floatTriangle =>
    rw [execute_floatTriangle, execute_floatTriangle, h.floatTriangle]
    exact (h.note _ _).submit _
  | nop => exact h.note _ _
  | fastFill => exact (h.note _ _).fastFill
  | swapBuffer =>
    simp only [Coprocessor.execute, h.swap]
    exact (h.setSwap _).note _ _
  | swapPend =>
    rw [execute_swapPend, execute_swapPend, h.swap]
    exact ((h.checkSum _).setSwap _).note _ _

/-! ### Registers -/

theorem store (r : Register) (v : UInt32) : EqOutside lo hi (p.store r v) (q.store r v) :=
  { h with regs := by simp only [Coprocessor.store, h.regs] }

theorem affect {e : Effect} (he : e.controlsRing = false) (v : UInt32) :
    EqOutside lo hi (p.affect e v) (q.affect e v) := by
  cases e with
  | none => exact h
  | triangle f => exact { h with triangle := by simp only [Coprocessor.affect, h.triangle] }
  | floatTriangle f =>
    exact { h with floatTriangle := by simp only [Coprocessor.affect, h.floatTriangle] }
  | fog n => exact { h with fog := by simp only [Coprocessor.affect, h.fog] }
  | init n =>
    match n with
    | 0 | 1 | 2 => exact h
  | ring => simp [Effect.controlsRing] at he
  | command c => exact h.execute c

/-- **A write that does not set up the ring keeps two coprocessors alike.** -/
theorem writeRegister {r : Register} (hr : r.controlsRing = false) (v : UInt32) :
    EqOutside lo hi (p.writeRegister r v) (q.writeRegister r v) := by
  rw [writeRegister_eq, writeRegister_eq]
  exact (h.store r v).affect (by rw [r.controlsRing_effect, hr]) v

end EqOutside

end Coprocessor

end PumaBoard
