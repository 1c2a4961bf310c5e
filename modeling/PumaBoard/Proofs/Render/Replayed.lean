import PumaBoard.Proofs.Render.Queued
import PumaBoard.Proofs.Triangle.Formats

/-!
The floating point triangle drawn again through the integer bank. The fixed-point image is in the
formats of the integer registers, so writing it there field by field gives the same bank; these
writes leave alone all that a triangle command looks at besides. Main statement: the two triangle
commands make the same calls to the rendering engine.
-/

namespace PumaBoard.Coprocessor

open Render Triangle

/-! ### States that draw alike -/

/-- What the triangle commands look at besides the triangle is the same in two states. -/
structure DrawsLike (e d : Coprocessor) : Prop where
  regs : ∀ r : Register, 0x50 ≤ r.val → e.regs.get r = d.regs.get r
  fog : e.fog = d.fog
  window : e.window = d.window
  memory : e.memory = d.memory
  enabled : e.enabled = d.enabled
  backend : e.backend = d.backend

namespace DrawsLike

variable {c d e : Coprocessor}

theorem refl (d : Coprocessor) : d.DrawsLike d := ⟨fun _ _ => rfl, rfl, rfl, rfl, rfl, rfl⟩

theorem trans (h : c.DrawsLike d) (k : d.DrawsLike e) : c.DrawsLike e where
  regs r hr := (h.regs r hr).trans (k.regs r hr)
  fog := h.fog.trans k.fog
  window := h.window.trans k.window
  memory := h.memory.trans k.memory
  enabled := h.enabled.trans k.enabled
  backend := h.backend.trans k.backend

/-- A store to a register of the banks or of a triangle command does not matter. -/
theorem store (d : Coprocessor) {r : Register} (hr : r.val < 0x50) (v : UInt32) :
    (d.store r v).DrawsLike d :=
  ⟨fun _ hs => get_store_of_lt (Nat.lt_of_lt_of_le hr hs) v, rfl, rfl, rfl, rfl, rfl⟩

theorem uploadCalls (h : e.DrawsLike d) (tmu : Nat) : e.uploadCalls tmu = d.uploadCalls tmu := by
  have hoffset : e.textureOffset = d.textureOffset := by
    rw [textureOffset, h.regs _ (by decide)]; rfl
  rw [Coprocessor.uploadCalls, hoffset, h.memory]; rfl

theorem textureCalls (h : e.DrawsLike d) (b : Backend) : e.textureCalls b = d.textureCalls b := by
  have hcalls : e.uploadCalls = d.uploadCalls := funext h.uploadCalls
  rw [Coprocessor.textureCalls, h.regs _ (by decide), hcalls]; rfl

/-- The same triangle is drawn by the same calls. -/
theorem submitCalls (h : e.DrawsLike d) (t : Setup) : e.submitCalls t = d.submitCalls t := by
  have hcalls : e.textureCalls = d.textureCalls := funext h.textureCalls
  have hblock : e.block t = d.block t := block_congr t h.regs h.fog h.window
  rw [Coprocessor.submitCalls, h.enabled, h.backend, h.memory, hcalls, hblock]; rfl

end DrawsLike

/-! ### Replaying a bank -/

/-- Writes every field of a bank to its register of the integer bank, the first one first. -/
def replay (d : Coprocessor) (t : Setup) : Coprocessor :=
  (List.finRange 30).foldl
    (fun d i => d.writeIndex (0x02 + .ofNat i.val) (t.get (.ofIndex i))) d

/-- A write to a register of the integer bank stores the value and sets the field. -/
theorem writeIndex_field (d : Coprocessor) (i : Fin 30) (v : UInt32) :
    d.writeIndex (0x02 + .ofNat i.val) v =
      { d.store (Field.ofIndex i).register v with
        triangle := d.triangle.set (.ofIndex i) v } := by
  have hreg : register? (0x02 + .ofNat i.val) = some (Field.ofIndex i).register := by
    revert i; decide
  rw [writeIndex, hreg]
  dsimp only
  rw [writeRegister_eq, (Register.descriptor_register _).1]
  rfl

section Replay

variable (d : Coprocessor) (t : Setup)

/-- A replay calls nothing, leaves what the commands look at, and writes the fields to the bank. -/
theorem replay_spec :
    (d.replay t).calls = d.calls ∧ (d.replay t).DrawsLike d ∧
      (d.replay t).triangle =
        Field.all.foldl (fun u f => u.set f (t.get f)) d.triangle := by
  have hall : Field.all = (List.finRange 30).map Field.ofIndex := by decide
  rw [replay, hall, List.foldl_map]
  generalize List.finRange 30 = is
  induction is generalizing d with
  | nil => exact ⟨rfl, .refl d, rfl⟩
  | cons i is ih =>
    rw [List.foldl_cons, writeIndex_field, List.foldl_cons]
    obtain ⟨hcalls, hlike, htriangle⟩ := ih
      { d.store (Field.ofIndex i).register (t.get (.ofIndex i)) with
        triangle := d.triangle.set (.ofIndex i) (t.get (.ofIndex i)) }
    have hr : (Field.ofIndex i).register.val < 0x50 := by
      show 0x02 + (Field.ofIndex i).index.val < 0x50
      omega
    obtain ⟨hregs, -⟩ := DrawsLike.store d hr (t.get (.ofIndex i))
    exact ⟨hcalls, hlike.trans ⟨hregs, rfl, rfl, rfl, rfl, rfl⟩, htriangle⟩

end Replay

/-! ### The two triangle commands -/

section Command

variable (d : Coprocessor) (v : UInt32)

theorem calls_triangleCommand :
    (d.writeIndex 0x20 v).calls = d.calls ++ (d.submitCalls d.triangle).toArray := by
  have hlike := DrawsLike.store d (show Register.triangleCommand.val < 0x50 by decide) v
  rw [← hlike.submitCalls]
  exact d.calls_step (.write Register.triangleCommand v)

theorem calls_floatTriangleCommand :
    (d.writeIndex 0x40 v).calls =
      d.calls ++ (d.submitCalls d.floatTriangle.toFixed).toArray := by
  have hlike := DrawsLike.store d (show Register.floatTriangleCommand.val < 0x50 by decide) v
  rw [← hlike.submitCalls]
  exact d.calls_step (.write Register.floatTriangleCommand v)

theorem triangle_floatTriangleCommand : (d.writeIndex 0x40 v).triangle = d.triangle :=
  congrArg Banks.triangle (d.banks_writeRegister Register.floatTriangleCommand v)

end Command

/-- **A floating point triangle can be replayed through the integer bank.** The command of the
floating point bank leaves the integer bank alone and makes the calls that the command of the
integer bank makes after the fixed-point image was written to its registers; one block is among
them. The image is in the formats of the registers, whatever the patterns stand for. -/
theorem floatTriangle_replays {d : Coprocessor} (hon : d.enabled = true) {b : Backend}
    (hb : d.backend = some b) (v w : UInt32) :
    (d.writeIndex 0x40 v).triangle = d.triangle ∧
    (d.replay d.floatTriangle.toFixed).triangle = d.floatTriangle.toFixed ∧
    (d.replay d.floatTriangle.toFixed).calls = d.calls ∧
    (∃ cs : List Call,
      (d.writeIndex 0x40 v).calls = d.calls ++ cs.toArray ∧
      ((d.replay d.floatTriangle.toFixed).writeIndex 0x20 w).calls = d.calls ++ cs.toArray ∧
      cs.filterMap Call.block? = [d.block d.floatTriangle.toFixed]) ∧
    ∀ t : FloatSetup, t.toFixed.InFormat := by
  obtain ⟨hcalls, hlike, hfields⟩ := d.replay_spec d.floatTriangle.toFixed
  have htriangle : (d.replay d.floatTriangle.toFixed).triangle = d.floatTriangle.toFixed :=
    hfields.trans (d.floatTriangle.inFormat_toFixed.rewrite d.triangle)
  refine ⟨d.triangle_floatTriangleCommand v, htriangle, hcalls,
    ⟨d.submitCalls d.floatTriangle.toFixed, d.calls_floatTriangleCommand v, ?_,
      block?_submitCalls hon hb _⟩, FloatSetup.inFormat_toFixed⟩
  rw [calls_triangleCommand, htriangle, hcalls, hlike.submitCalls]

/-- A coprocessor with an engine whose floating point bank holds no number in the first vertex
coordinate, an infinity in the red start, and 2 in the red gradient along x. -/
def oddFloats : Coprocessor :=
  ((((create .mb8).attach ⟨true⟩).writeIndex 0x22 0x7FC00000).writeIndex 0x28 0x7F800000).writeIndex
    0x29 0x40000000

theorem floatTriangle_replays_oddFloats :
    oddFloats.enabled = true ∧ oddFloats.backend = some ⟨true⟩ ∧
      oddFloats.floatTriangle.toFixed.get (.vertex .a .x) = 0 ∧
      oddFloats.floatTriangle.toFixed.get (.start .r) = 0x00FFFFFF ∧
      oddFloats.floatTriangle.toFixed.get (.gradient .r .x) = 0x2000 ∧
      ∃ cs : List Call,
        (oddFloats.writeIndex 0x40 0).calls = oddFloats.calls ++ cs.toArray ∧
          ((oddFloats.replay oddFloats.floatTriangle.toFixed).writeIndex 0x20 0).calls =
            oddFloats.calls ++ cs.toArray := by
  have hon : oddFloats.enabled = true := by decide +kernel
  obtain ⟨-, -, -, ⟨cs, hfloat, hinteger, -⟩, -⟩ := floatTriangle_replays hon rfl 0 0
  refine ⟨hon, rfl, ?_, ?_, ?_, cs, hfloat, hinteger⟩ <;> decide +kernel

end PumaBoard.Coprocessor
