import PumaBoard.Proofs.Coprocessor.Calls
import PumaBoard.Proofs.Render.Described

/-!
What the triangle command queues at the rendering engine. Main statement: in every state that a
coprocessor goes through it queues one block, the one that the stored registers and the window
describe.
-/

namespace PumaBoard

namespace Coprocessor

/-! ### The states between steps -/

/-- A state that a coprocessor goes through: after some steps of an operation asked of it in a
reachable state. -/
def Visited (d : Coprocessor) : Prop :=
  ∃ (e : Coprocessor) (op : Operation) (done left : List Step),
    e.Reachable ∧ e.steps op = done ++ left ∧ d = e.after done

theorem Reachable.visited {d : Coprocessor} (hd : d.Reachable) : d.Visited :=
  ⟨d, .look, [], [], hd, rfl, rfl⟩

theorem Visited.agree {d : Coprocessor} (hd : d.Visited) : d.banks.Agree := by
  obtain ⟨e, op, done, left, he, -, rfl⟩ := hd
  exact agree_invariant.after done (agree_reachable he)

end Coprocessor

namespace Render

open Word

/-! ### Blocks and their colours -/

/-- The block of a triangle. -/
def Call.block? : Call → Option Block
  | .triangle block _ => some block
  | _ => none

/-- The colour channels. -/
def Channels.colours (c : Channels) : List Int32 := [c.r, c.g, c.b, c.a]

section Ranges

variable (reg : UInt32 → UInt32) (window : Window)

theorem toInt_ofInt_of_bounds {n : Int} (hlo : -2 ^ 31 ≤ n) (hhi : n < 2 ^ 31) :
    (Int32.ofInt n).toInt = n := by
  rw [Int32.toInt_ofInt]
  exact Int.bmod_eq_of_le (by simpa using hlo) (by simpa using hhi)

/-- Colour starts keep twelve bits. -/
theorem colours_describedStart {c : Int32} (hc : c ∈ (Channels.describedStart reg).colours) :
    0 ≤ c.toInt ∧ c.toInt ≤ 4095 := by
  have hcolour (n : UInt32) : 0 ≤ (Int32.ofInt (bitsAt (reg n) 12 12)).toInt ∧
      (Int32.ofInt (bitsAt (reg n) 12 12)).toInt ≤ 4095 := by
    have hlt := bitsAt_lt (reg n) 12 12
    rw [toInt_ofInt_of_bounds (by omega) (by omega)]
    omega
  simp only [Channels.colours, Channels.describedStart, List.mem_cons, List.not_mem_nil,
    or_false] at hc
  rcases hc with rfl | rfl | rfl | rfl <;> exact hcolour _

/-- Colour gradients keep a sign and eleven bits. -/
theorem colours_describedGradient {k : UInt32} {c : Int32}
    (hc : c ∈ (Channels.describedGradient reg k).colours) :
    -2048 ≤ c.toInt ∧ c.toInt ≤ 2047 := by
  have hcolour (n : UInt32) : -2048 ≤ (Int32.ofInt (signedLow (reg n) 24 / 4096)).toInt ∧
      (Int32.ofInt (signedLow (reg n) 24 / 4096)).toInt ≤ 2047 := by
    obtain ⟨hlo, hhi⟩ := signedLow_bounds (reg n) (show 0 < 24 by decide)
    rw [toInt_ofInt_of_bounds (by omega) (by omega)]
    omega
  simp only [Channels.colours, Channels.describedGradient, List.mem_cons, List.not_mem_nil,
    or_false] at hc
  rcases hc with rfl | rfl | rfl | rfl <;> exact hcolour _

end Ranges

end Render

namespace Coprocessor

open Render

/-! ### The triangle command -/

section Command

variable {d : Coprocessor}

/-- The block looks at the registers behind the triangle banks only, and at the fog table and the
window. -/
theorem block_congr {e : Coprocessor} (t : Triangle.Setup)
    (hregs : ∀ r : Register, 0x50 ≤ r.val → e.regs.get r = d.regs.get r) (hfog : e.fog = d.fog)
    (hwindow : e.window = d.window) : e.block t = d.block t := by
  have hunit : TextureUnit.ofState t e.regs = TextureUnit.ofState t d.regs := by
    simp (disch := decide) only [TextureUnit.ofState, hregs]
  unfold block Block.ofState
  simp (disch := decide) only [Block.ofScreen, hregs, hunit, hfog, hwindow]

theorem get_store_of_lt {r s : Register} (h : r.val < s.val) (v : UInt32) :
    (d.store r v).regs.get s = d.regs.get s := by
  rw [store, RegisterFile.get_set, if_neg fun hrs => absurd (hrs ▸ h) (lt_irrefl _)]

/-- The block does not look at the register of the command. -/
theorem block_store (t : Triangle.Setup) (v : UInt32) :
    (d.store Register.triangleCommand v).block t = d.block t :=
  block_congr t (fun _ hr => get_store_of_lt (Nat.lt_of_lt_of_le (by decide) hr) v) rfl rfl

theorem block?_uploadCalls (tmu : Nat) : (d.uploadCalls tmu).filterMap Call.block? = [] := by
  unfold uploadCalls
  split <;> rfl

theorem block?_textureCalls (b : Backend) : (d.textureCalls b).filterMap Call.block? = [] := by
  unfold textureCalls
  split
  · rw [List.filterMap_flatMap]
    exact List.flatMap_eq_nil_iff.mpr fun tmu _ => block?_uploadCalls tmu
  · rfl

/-- A triangle that is drawn queues its block and no other. -/
theorem block?_submitCalls (hon : d.enabled = true) {b : Backend} (hb : d.backend = some b)
    (t : Triangle.Setup) : (d.submitCalls t).filterMap Call.block? = [d.block t] := by
  rw [submitCalls, if_pos hon, hb]
  simp only [List.filterMap_append, block?_textureCalls]
  rfl

theorem triangleCommand_calls (hon : d.enabled = true) {b : Backend} (hb : d.backend = some b)
    (h : d.banks.Agree) (v : UInt32) :
    ∃ cs : List Call, (d.writeIndex 0x20 v).calls = d.calls ++ cs.toArray ∧
      cs.filterMap Call.block? = [.described d.storedIndex d.window] := by
  refine ⟨d.stepCalls (.write Register.triangleCommand v),
    d.calls_step (.write Register.triangleCommand v), ?_⟩
  rw [← block_eq_described h, ← block_store d.triangle v]
  have hstored : (d.store Register.triangleCommand v).enabled = true := hon
  exact block?_submitCalls hstored hb d.triangle

/-- **The submitted triangle is a function of the stored registers.** In every state that a
coprocessor goes through the triangle command queues one block, the one that the stored registers
and the window describe; so coprocessors with equal registers and windows queue equal blocks. -/
theorem triangleCommand_queues (hd : d.Visited) (hon : d.enabled = true) {b : Backend}
    (hb : d.backend = some b) (v : UInt32) :
    (∃ cs : List Call,
      (d.writeIndex 0x20 v).calls = d.calls ++ cs.toArray ∧
      cs.filterMap Call.block? = [.described d.storedIndex d.window] ∧
      ∀ {e : Coprocessor} (c : Backend) (w : UInt32), e.Visited → e.enabled = true →
        e.backend = some c → (∀ i, e.storedIndex i = d.storedIndex i) → e.window = d.window →
        ∃ ds : List Call, (e.writeIndex 0x20 w).calls = e.calls ++ ds.toArray ∧
          ds.filterMap Call.block? = cs.filterMap Call.block?) ∧
    (∀ c ∈ (Block.described d.storedIndex d.window).start.colours,
      0 ≤ c.toInt ∧ c.toInt ≤ 4095) ∧
    (∀ c ∈ (Block.described d.storedIndex d.window).dx.colours ++
        (Block.described d.storedIndex d.window).dy.colours,
      -2048 ≤ c.toInt ∧ c.toInt ≤ 2047) ∧
    (Block.described d.storedIndex d.window).unit1 =
      (Block.described d.storedIndex d.window).unit0 := by
  obtain ⟨cs, hcalls, hblock⟩ := triangleCommand_calls hon hb hd.agree v
  refine ⟨⟨cs, hcalls, hblock, ?_⟩, ?_, ?_, rfl⟩
  · intro e c w he hon' hb' hreg hwindow
    obtain ⟨ds, hcalls', hblock'⟩ := triangleCommand_calls hon' hb' he.agree w
    refine ⟨ds, hcalls', ?_⟩
    rw [hblock, hblock', funext hreg, hwindow]
  · intro c hc
    exact colours_describedStart _ hc
  · intro c hc
    rcases List.mem_append.mp hc with hx | hy
    · exact colours_describedGradient _ hx
    · exact colours_describedGradient _ hy

/-- A coprocessor with an engine whose red gradient along x is as small as it can be. -/
def steepRed : Coprocessor :=
  (((create .mb8).perform (.attach ⟨false⟩)).2.perform (.writeIndex 0x09 0x00800000)).2

theorem triangleCommand_queues_steepRed :
    steepRed.Visited ∧ steepRed.enabled = true ∧ steepRed.backend = some ⟨false⟩ ∧
      ∃ (cs : List Call) (block : Block),
        (steepRed.writeIndex 0x20 0).calls = steepRed.calls ++ cs.toArray ∧
          cs.filterMap Call.block? = [block] ∧ block.dx.r = -2048 := by
  have hd : steepRed.Visited :=
    Reachable.visited (.perform _ rfl (.perform _ rfl (.create .mb8)))
  have hon : steepRed.enabled = true := by decide +kernel
  obtain ⟨⟨cs, hcalls, hblock, -⟩, -⟩ := triangleCommand_queues hd hon rfl 0
  refine ⟨hd, hon, rfl, cs, _, hcalls, hblock, ?_⟩
  decide +kernel

end Command

end Coprocessor

end PumaBoard
