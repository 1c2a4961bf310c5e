import PumaBoard.Proofs.Coprocessor.NarrowAccess
import PumaBoard.Proofs.Coprocessor.Operation
import PumaBoard.Proofs.Memory.Flat

/-!
The aperture outside the ring as plain memory. Accesses of every width to the frame buffer and the
texture memory are those of one row of bytes; besides the memory they change nothing, and all that
the engine hears of them are the flushes of the texture pages written.
-/

namespace PumaBoard

open Coprocessor (aligned toNat_aligned)

/-! ### Regions -/

namespace Aperture

namespace Layout

/-- Where the byte at an address stands in the row of bytes of the memory. -/
def position (l : Layout) (addr : UInt32) : Nat :=
  if l.inFrame addr then addr.toNat - l.frameStart.toNat
  else l.frameSize.toNat + (addr.toNat - l.textureStart.toNat)

variable (mode : Mode) {addr : UInt32}

theorem inFrame_iff : mode.layout.inFrame addr ↔ addr.toNat < mode.layout.frameSize.toNat := by
  cases mode <;> simp [inFrame, Mode.layout, UInt32.lt_iff_toNat_lt]

theorem inTexture_iff :
    mode.layout.inTexture addr ↔
      mode.layout.textureStart.toNat ≤ addr.toNat ∧
        addr.toNat < mode.layout.textureStart.toNat + mode.layout.textureSize.toNat := by
  cases mode <;> simp [inTexture, Mode.layout, UInt32.lt_iff_toNat_lt, UInt32.le_iff_toNat_le]

theorem inFrame_aligned : mode.layout.inFrame (aligned addr) = mode.layout.inFrame addr := by
  rw [Bool.eq_iff_iff, inFrame_iff, inFrame_iff, toNat_aligned]
  cases mode <;> simp only [Mode.layout, UInt32.reduceToNat] <;> omega

theorem inTexture_aligned : mode.layout.inTexture (aligned addr) = mode.layout.inTexture addr := by
  rw [Bool.eq_iff_iff, inTexture_iff, inTexture_iff, toNat_aligned]
  cases mode <;> simp only [Mode.layout, UInt32.reduceToNat] <;> omega

theorem inFrame_of_inTexture (h : mode.layout.inTexture addr) :
    mode.layout.inFrame addr = false := by
  rw [inTexture_iff] at h
  rw [← Bool.not_eq_true, inFrame_iff]
  cases mode <;> simp only [Mode.layout, UInt32.reduceToNat] at h ⊢ <;> omega

theorem decode_of_inFrame (h : mode.layout.inFrame addr) :
    mode.layout.decode addr = .frame addr := by
  rw [decode, if_pos h]
  cases mode <;> exact congrArg Region.frame (UInt32.sub_zero addr)

theorem decode_of_inTexture (h : mode.layout.inTexture addr) :
    mode.layout.decode addr = .texture (addr - mode.layout.textureStart) := by
  have hregister : mode.layout.register? addr = none := by
    rw [inTexture_iff] at h
    rw [register?, if_neg]
    simp only [Bool.and_eq_true, decide_eq_true_eq, UInt32.le_iff_toNat_le, UInt32.lt_iff_toNat_lt]
    cases mode <;> simp only [Mode.layout, UInt32.reduceToNat, UInt32.reduceAdd] at h ⊢ <;> omega
  rw [decode, inFrame_of_inTexture mode h, hregister]
  simp [h]

/-! ### Words of the regions -/

theorem toNat_textureOffset (h : mode.layout.inTexture addr) :
    (addr - mode.layout.textureStart).toNat = addr.toNat - mode.layout.textureStart.toNat :=
  UInt32.toNat_sub_of_le _ _ (UInt32.le_iff_toNat_le.mpr ((inTexture_iff mode).mp h).1)

theorem position_of_inFrame (h : mode.layout.inFrame addr) :
    mode.layout.position addr = addr.toNat := by
  rw [position, if_pos h]
  cases mode <;> rfl

theorem position_of_inTexture (h : mode.layout.inTexture addr) :
    mode.layout.position addr =
      mode.layout.frameSize.toNat + (addr.toNat - mode.layout.textureStart.toNat) := by
  rw [position, if_neg (by rw [inFrame_of_inTexture mode h]; decide)]

/-- A byte stands in the row where its lane of the word around it does. -/
theorem position_aligned (h : mode.layout.inFrame addr ∨ mode.layout.inTexture addr) :
    mode.layout.position (aligned addr) + addr.toNat % 4 = mode.layout.position addr := by
  rcases h with h | h
  · rw [position_of_inFrame mode h, position_of_inFrame mode (by rwa [inFrame_aligned]),
      toNat_aligned]
    omega
  · rw [position_of_inTexture mode h, position_of_inTexture mode (by rwa [inTexture_aligned]),
      toNat_aligned]
    rw [inTexture_iff] at h
    cases mode <;> simp only [Mode.layout, UInt32.reduceToNat] at h ⊢ <;> omega

end Layout

namespace Memory

variable (m : Memory) {addr : UInt32}

/-- The word around an address of the frame buffer lies in the frame buffer as a whole. -/
theorem frame_holds (h : m.mode.layout.inFrame addr) : (aligned addr).toNat + 4 ≤ m.frame.size := by
  rw [Layout.inFrame_iff] at h
  rw [m.frame_size, toNat_aligned]
  cases hm : m.mode <;> rw [hm] at h <;>
    simp only [Mode.layout, UInt32.reduceToNat] at h ⊢ <;> omega

theorem texture_holds (h : m.mode.layout.inTexture addr) :
    (aligned (addr - m.mode.layout.textureStart)).toNat + 4 ≤ m.texture.size := by
  rw [toNat_aligned, Layout.toNat_textureOffset _ h, m.texture_size]
  rw [Layout.inTexture_iff] at h
  cases hm : m.mode <;> rw [hm] at h <;>
    simp only [Mode.layout, UInt32.reduceToNat] at h ⊢ <;> omega

theorem position_texture (h : m.mode.layout.inTexture addr) :
    m.mode.layout.position (aligned addr) =
      m.frame.size + (aligned (addr - m.mode.layout.textureStart)).toNat := by
  rw [Layout.position_of_inTexture _ (by rwa [Layout.inTexture_aligned]), toNat_aligned,
    toNat_aligned, Layout.toNat_textureOffset _ h, m.frame_size]
  rw [Layout.inTexture_iff] at h
  cases hm : m.mode <;> rw [hm] at h <;>
    simp only [Mode.layout, UInt32.reduceToNat] at h ⊢ <;> omega

end Memory

end Aperture

/-! ### Words of plain memory -/

theorem Ring.contains_aligned (r : Ring) (offset : UInt32) :
    r.contains (aligned offset) = r.contains offset := by
  have hstart := r.start_mod
  have hstop := r.stop_mod
  rw [Bool.eq_iff_iff]
  simp only [Ring.contains, Bool.and_eq_true, decide_eq_true_eq, UInt32.le_iff_toNat_le,
    UInt32.lt_iff_toNat_lt, toNat_aligned]
  omega

namespace Coprocessor

/-- The address is one of the frame buffer or the texture memory, and the word around it is none
of an enabled ring. -/
def plain (d : Coprocessor) (addr : UInt32) : Bool :=
  (d.layout.inFrame addr &&
      !(d.ring.enabled && d.ring.contains (aligned addr - d.layout.frameStart))) ||
    d.layout.inTexture addr

/-- The flushes after a write: the page written, for every texture unit of the engine. -/
def flushes (d : Coprocessor) (addr : UInt32) : List Render.Call :=
  if d.layout.inTexture addr then
    let page := UInt32.ofNat ((addr.toNat - d.layout.textureStart.toNat) / 4096 * 4096)
    match d.backend with
    | none => []
    | some b => .flush page 0 :: if b.dual then [.flush page 1] else []
  else []

/-- The coprocessor with another memory, after more calls to the engine. -/
def moved (d : Coprocessor) (m : Aperture.Memory) (cs : List Render.Call) : Coprocessor :=
  { d with memory := m, calls := d.calls ++ cs.toArray }

section Words

variable (d : Coprocessor) {addr : UInt32}

theorem moved_nil : d.moved d.memory [] = d := by
  rw [moved, Array.append_empty]

theorem moved_moved (m n : Aperture.Memory) (cs ds : List Render.Call) :
    (d.moved m cs).moved n ds = d.moved n (cs ++ ds) := by
  simp [moved]

theorem plain_cases (h : d.plain addr) :
    (d.layout.inFrame addr ∧ (d.ring.enabled && d.ring.contains addr) = false) ∨
      d.layout.inTexture addr := by
  have hstart : d.layout.frameStart = 0 := by
    unfold layout; cases d.memory.mode <;> rfl
  rw [plain, hstart, UInt32.sub_zero, Ring.contains_aligned, Bool.or_eq_true,
    Bool.and_eq_true, Bool.not_eq_true'] at h
  exact h

theorem plain_region (h : d.plain addr) : d.layout.inFrame addr ∨ d.layout.inTexture addr :=
  (d.plain_cases h).imp And.left id

theorem plain_aligned : d.plain (aligned addr) = d.plain addr := by
  rw [plain, plain, aligned_aligned]
  exact congrArg₂ _ (congrArg₂ _ (Aperture.Layout.inFrame_aligned _) rfl)
    (Aperture.Layout.inTexture_aligned _)

theorem read32_plain (hon : d.enabled = true) (h : d.plain addr) :
    d.read32 addr = (Row.word d.memory.row (d.layout.position (aligned addr)), d) := by
  rcases d.plain_region h with hf | ht
  · have hdecode : d.layout.decode addr = .frame addr := Aperture.Layout.decode_of_inFrame _ hf
    have hword : d.regionValue (.frame addr) = Row.word d.memory.row (aligned addr).toNat := by
      show (d.memory.readFrame32? (aligned addr)).getD 0 = _
      rw [d.memory.readFrame32?_eq (d.memory.frame_holds hf), Option.getD_some]
    have hpos : d.layout.position (aligned addr) = (aligned addr).toNat :=
      Aperture.Layout.position_of_inFrame _ (by rwa [Aperture.Layout.inFrame_aligned])
    simp [read32, peek, hon, hdecode, hword, hpos]
  · have hdecode : d.layout.decode addr = .texture (addr - d.layout.textureStart) :=
      Aperture.Layout.decode_of_inTexture _ ht
    have hword : d.regionValue (.texture (addr - d.layout.textureStart)) =
        Row.word d.memory.row (d.layout.position (aligned addr)) := by
      show (d.memory.readTexture32? (aligned (addr - d.layout.textureStart))).getD 0 = _
      have hfits : (aligned (addr - d.layout.textureStart)).toNat + 4 ≤ d.memory.texture.size :=
        d.memory.texture_holds ht
      rw [d.memory.readTexture32?_eq hfits, Option.getD_some]
      exact congrArg _ (d.memory.position_texture ht).symm
    simp [read32, peek, hon, hdecode, hword]

theorem flushPage_plain (h : d.layout.inTexture addr) :
    d.flushPage (((addr - d.layout.textureStart) >>> 12) <<< 12) =
      { d with calls := d.calls ++ (d.flushes addr).toArray } := by
  have hpage : ((addr - d.layout.textureStart) >>> 12) <<< 12 =
      UInt32.ofNat ((addr.toNat - d.layout.textureStart.toNat) / 4096 * 4096) := by
    have hoffset : (addr - d.layout.textureStart).toNat =
        addr.toNat - d.layout.textureStart.toNat :=
      Aperture.Layout.toNat_textureOffset d.memory.mode h
    rw [← hoffset, ← Word.toNat_alignPage, UInt32.ofNat_toNat]
  obtain hb | ⟨b, hb⟩ := Option.eq_none_or_eq_some d.backend
  · have hcalls : d.flushes addr = [] := by rw [flushes, if_pos h, hb]
    have hquiet (page : UInt32) : d.flushPage page = d := by rw [flushPage, hb]
    rw [hquiet, hcalls, Array.append_empty]
  · have hcalls : d.flushes addr = b.units.map
        (.flush (((addr - d.layout.textureStart) >>> 12) <<< 12)) := by
      rw [flushes, if_pos h, hb, ← hpage, Render.Backend.units]
      cases b with
      | mk dual => cases dual <;> rfl
    rw [hcalls, flushPage_eq d hb]

theorem write32_plain (hon : d.enabled = true) (h : d.plain addr) (v : UInt32) :
    ∃ m : Aperture.Memory, m.mode = d.memory.mode ∧
      m.row =
        Row.stored (d.layout.position (aligned addr)) (Word.lanes v) d.memory.row ∧
      d.write32 addr v = d.moved m (d.flushes addr) := by
  rcases d.plain_cases h with ⟨hf, hring⟩ | ht
  · have hpos : d.layout.position (aligned addr) = (aligned addr).toNat :=
      Aperture.Layout.position_of_inFrame _ (by rwa [Aperture.Layout.inFrame_aligned])
    have hquiet : d.flushes addr = [] := by
      rw [flushes, if_neg]
      intro ht
      exact absurd hf (by
        rw [show d.layout.inFrame addr = false from Aperture.Layout.inFrame_of_inTexture _ ht]
        decide)
    refine ⟨d.memory.writeFrame32 (aligned addr) v, rfl, ?_, ?_⟩
    · rw [d.memory.row_writeFrame32 v (d.memory.frame_holds hf), hpos]
    · have hdecode : d.layout.decode addr = .frame addr := Aperture.Layout.decode_of_inFrame _ hf
      calc d.write32 addr v = d.writeRegion addr v (.frame addr) := by
            rw [write32, if_pos hon, hdecode]
        _ = d.storeFrame (aligned addr) v := if_neg (by rw [hring]; decide)
        _ = (d.setMemory (d.memory.writeFrame32 (aligned addr) v)).moved _ [] :=
            (moved_nil _).symm
        _ = _ := by rw [hquiet]; rfl
  · have hdecode : d.layout.decode addr = .texture (addr - d.layout.textureStart) :=
      Aperture.Layout.decode_of_inTexture _ ht
    have hfits : (aligned (addr - d.layout.textureStart)).toNat + 4 ≤ d.memory.texture.size :=
      d.memory.texture_holds ht
    have hpos : d.layout.position (aligned addr) =
        d.memory.frame.size + (aligned (addr - d.layout.textureStart)).toNat :=
      d.memory.position_texture ht
    refine ⟨d.memory.writeTexture32 (aligned (addr - d.layout.textureStart)) v, rfl, ?_, ?_⟩
    · rw [d.memory.row_writeTexture32 v hfits, hpos]
    · calc d.write32 addr v = d.writeRegion addr v (.texture (addr - d.layout.textureStart)) := by
            rw [write32, if_pos hon, hdecode]
        _ = _ := flushPage_plain (d.setMemory (d.memory.writeTexture32 _ v)) ht

/-! ### Narrow accesses -/

theorem flushes_aligned : d.flushes (aligned addr) = d.flushes addr := by
  have htexture : d.layout.inTexture (aligned addr) = d.layout.inTexture addr :=
    Aperture.Layout.inTexture_aligned _
  have hpage : ((aligned addr).toNat - d.layout.textureStart.toNat) / 4096 =
      (addr.toNat - d.layout.textureStart.toNat) / 4096 := by
    rw [toNat_aligned]
    unfold layout
    cases d.memory.mode <;> simp only [Aperture.Mode.layout, UInt32.reduceToNat] <;> omega
  rw [flushes, flushes, htexture, hpage]

theorem position_plain (h : d.plain addr) :
    d.layout.position (aligned addr) + addr.toNat % 4 = d.layout.position addr :=
  Aperture.Layout.position_aligned _ (d.plain_region h)

/-- A narrow access reads the whole word around its address. -/
theorem read32_aligned (hon : d.enabled = true) (h : d.plain addr) :
    d.read32 (aligned addr) =
      (Row.word d.memory.row (d.layout.position (aligned addr)), d) := by
  rw [d.read32_plain hon (by rwa [plain_aligned]), aligned_aligned]

theorem read8_plain (hon : d.enabled = true) (h : d.plain addr) :
    d.read8 addr = (d.memory.row (d.layout.position addr), d) := by
  have hlane := Row.lane_word d.memory.row (d.layout.position (aligned addr))
    (Nat.mod_lt addr.toNat (show 0 < 4 by decide))
  rw [d.position_plain h, Word.lane, UInt32.mul_comm] at hlane
  rw [read8, d.read32_aligned hon h, byteShift_eq]
  exact congrArg (·, d) hlane

theorem read16_plain (hon : d.enabled = true) (h : d.plain addr) (heven : addr.toNat % 2 = 0) :
    d.read16 addr = (Row.half d.memory.row (d.layout.position addr), d) := by
  have hhalf : addr.toNat % 4 = 0 ∨ addr.toNat % 4 = 2 := by omega
  have hvalue := Word.shift_toUInt16
    (Row.word d.memory.row (d.layout.position (aligned addr))) hhalf
  rw [Row.lane_word _ _ (by omega), Row.lane_word _ _ (by omega), ← Nat.add_assoc,
    d.position_plain h] at hvalue
  rw [read16, d.read32_aligned hon h, halfShift_eq addr heven]
  exact congrArg (·, d) hvalue

theorem write8_plain (hon : d.enabled = true) (h : d.plain addr) (v : UInt8) :
    ∃ m : Aperture.Memory, m.mode = d.memory.mode ∧
      m.row = Row.stored (d.layout.position addr) [v] d.memory.row ∧
      d.write8 addr v = d.moved m (d.flushes addr) := by
  have hlt := Nat.mod_lt addr.toNat (show 0 < 4 by decide)
  obtain ⟨m, hmode, hrow, hwrite⟩ := d.write32_plain hon (by rwa [plain_aligned])
    (insertBits (Row.word d.memory.row (d.layout.position (aligned addr))) 0xFF
      (UInt32.ofNat (addr.toNat % 4) * 8) v.toUInt32)
  rw [aligned_aligned, Row.stored_insertByte _ _ v hlt, d.position_plain h] at hrow
  rw [flushes_aligned] at hwrite
  refine ⟨m, hmode, hrow, ?_⟩
  rw [write8, d.read32_aligned hon h, byteShift_eq]
  exact hwrite

theorem write16_plain (hon : d.enabled = true) (h : d.plain addr) (heven : addr.toNat % 2 = 0)
    (v : UInt16) :
    ∃ m : Aperture.Memory, m.mode = d.memory.mode ∧
      m.row = Row.stored (d.layout.position addr) (Word.halfLanes v) d.memory.row ∧
      d.write16 addr v = d.moved m (d.flushes addr) := by
  have hhalf : addr.toNat % 4 = 0 ∨ addr.toNat % 4 = 2 := by omega
  obtain ⟨m, hmode, hrow, hwrite⟩ := d.write32_plain hon (by rwa [plain_aligned])
    (insertBits (Row.word d.memory.row (d.layout.position (aligned addr))) 0xFFFF
      (UInt32.ofNat (addr.toNat % 4) * 8) v.toUInt32)
  rw [aligned_aligned, Row.stored_insertHalf _ _ v hhalf, d.position_plain h] at hrow
  rw [flushes_aligned] at hwrite
  refine ⟨m, hmode, hrow, ?_⟩
  rw [write16, d.read32_aligned hon h, halfShift_eq addr heven]
  exact hwrite

end Words

/-! ### Runs of accesses -/

/-- An access of the processor to the aperture. -/
inductive BusAccess where
  | read32 (addr : UInt32)
  | read16 (addr : UInt32)
  | read8 (addr : UInt32)
  | write32 (addr v : UInt32)
  | write16 (addr : UInt32) (v : UInt16)
  | write8 (addr : UInt32) (v : UInt8)

namespace BusAccess

/-- The access as something asked of the coprocessor. -/
def operation : BusAccess → Operation
  | read32 addr => .read32 addr
  | read16 addr => .read16 addr
  | read8 addr => .read8 addr
  | write32 addr v => .write32 addr v
  | write16 addr v => .write16 addr v
  | write8 addr v => .write8 addr v

/-- The access is one of plain memory, at an even address if it is one to a halfword. -/
def Plain (d : Coprocessor) : BusAccess → Prop
  | read32 addr | read8 addr | write32 addr _ | write8 addr _ => d.plain addr
  | read16 addr | write16 addr _ => d.plain addr ∧ addr.toNat % 2 = 0

/-- What the access answers on a row of bytes, and the row after it. Words are those around the
address. -/
def apply (l : Aperture.Layout) (σ : Nat → UInt8) : BusAccess → Reply × (Nat → UInt8)
  | read32 addr => (.word (Row.word σ (l.position (aligned addr))), σ)
  | read16 addr => (.half (Row.half σ (l.position addr)), σ)
  | read8 addr => (.byte (σ (l.position addr)), σ)
  | write32 addr v => (.done, Row.stored (l.position (aligned addr)) (Word.lanes v) σ)
  | write16 addr v => (.done, Row.stored (l.position addr) (Word.halfLanes v) σ)
  | write8 addr v => (.done, Row.stored (l.position addr) [v] σ)

/-- What accesses answer on a row of bytes one after the other, and the row after them. -/
def applyAll (l : Aperture.Layout) (σ : Nat → UInt8) :
    List BusAccess → List Reply × (Nat → UInt8)
  | [] => ([], σ)
  | a :: as => ((a.apply l σ).1 :: (applyAll l (a.apply l σ).2 as).1,
      (applyAll l (a.apply l σ).2 as).2)

/-- The calls that the access makes to the engine. -/
def calls (d : Coprocessor) : BusAccess → List Render.Call
  | read32 _ | read16 _ | read8 _ => []
  | write32 addr _ | write16 addr _ | write8 addr _ => d.flushes addr

end BusAccess

section Runs

variable (d : Coprocessor)

theorem plain_moved {m : Aperture.Memory} (hmode : m.mode = d.memory.mode)
    (cs : List Render.Call) : (d.moved m cs).plain = d.plain := by
  funext addr
  have hlayout : (d.moved m cs).layout = d.layout := congrArg Aperture.Mode.layout hmode
  rw [plain, plain, hlayout]
  rfl

theorem flushes_moved {m : Aperture.Memory} (hmode : m.mode = d.memory.mode)
    (cs : List Render.Call) : (d.moved m cs).flushes = d.flushes := by
  funext addr
  have hlayout : (d.moved m cs).layout = d.layout := congrArg Aperture.Mode.layout hmode
  rw [flushes, flushes, hlayout]
  rfl

/-- A single access answers what it does on the row of bytes, and changes that row alone. -/
theorem perform_plain (hon : d.enabled = true) (a : BusAccess) (h : a.Plain d) :
    ∃ m : Aperture.Memory, m.mode = d.memory.mode ∧
      m.row = (a.apply d.layout d.memory.row).2 ∧
      d.perform a.operation = ((a.apply d.layout d.memory.row).1, d.moved m (a.calls d)) := by
  cases a with
  | read32 addr =>
    refine ⟨d.memory, rfl, rfl, ?_⟩
    show (Reply.word (d.read32 addr).1, (d.read32 addr).2) = (_, d.moved d.memory [])
    rw [d.read32_plain hon h, moved_nil]
    rfl
  | read16 addr =>
    refine ⟨d.memory, rfl, rfl, ?_⟩
    show (Reply.half (d.read16 addr).1, (d.read16 addr).2) = (_, d.moved d.memory [])
    rw [d.read16_plain hon h.1 h.2, moved_nil]
    rfl
  | read8 addr =>
    refine ⟨d.memory, rfl, rfl, ?_⟩
    show (Reply.byte (d.read8 addr).1, (d.read8 addr).2) = (_, d.moved d.memory [])
    rw [d.read8_plain hon h, moved_nil]
    rfl
  | write32 addr v =>
    obtain ⟨m, hmode, hrow, hwrite⟩ := d.write32_plain hon h v
    exact ⟨m, hmode, hrow, congrArg (Reply.done, ·) hwrite⟩
  | write16 addr v =>
    obtain ⟨m, hmode, hrow, hwrite⟩ := d.write16_plain hon h.1 h.2 v
    exact ⟨m, hmode, hrow, congrArg (Reply.done, ·) hwrite⟩
  | write8 addr v =>
    obtain ⟨m, hmode, hrow, hwrite⟩ := d.write8_plain hon h v
    exact ⟨m, hmode, hrow, congrArg (Reply.done, ·) hwrite⟩

/-- **Outside the ring the aperture is plain memory.** The accesses of a run answer what they do
on the row of bytes of the memory; the run leaves the memory that holds the row after them, and
otherwise makes the flushes of its writes and no more. -/
theorem run_plain (hon : d.enabled = true) (as : List BusAccess) (h : ∀ a ∈ as, a.Plain d) :
    ∃ m : Aperture.Memory, m.mode = d.memory.mode ∧
      m.row = (BusAccess.applyAll d.layout d.memory.row as).2 ∧
      d.run (as.map BusAccess.operation) =
        ((BusAccess.applyAll d.layout d.memory.row as).1,
          d.moved m (as.flatMap (BusAccess.calls d))) := by
  induction as generalizing d with
  | nil => exact ⟨d.memory, rfl, rfl, congrArg _ d.moved_nil.symm⟩
  | cons a as ih =>
    obtain ⟨m, hmode, hrow, hstep⟩ := d.perform_plain hon a (h a List.mem_cons_self)
    -- the first access leaves alone what the later ones depend on besides the row
    have hlayout : (d.moved m (a.calls d)).layout = d.layout :=
      congrArg Aperture.Mode.layout hmode
    have hplain : ∀ b ∈ as, b.Plain (d.moved m (a.calls d)) := by
      intro b hb
      have hb := h b (List.mem_cons_of_mem _ hb)
      cases b <;> simpa only [BusAccess.Plain, d.plain_moved hmode] using hb
    have hcalls : BusAccess.calls (d.moved m (a.calls d)) = BusAccess.calls d := by
      funext b
      cases b <;> simp only [BusAccess.calls, d.flushes_moved hmode]
    obtain ⟨n, hmode', hrow', hrun⟩ := ih (d.moved m (a.calls d)) hon hplain
    rw [hlayout, show (d.moved m (a.calls d)).memory.row = m.row from rfl, hrow] at hrow' hrun
    refine ⟨n, hmode'.trans hmode, hrow', ?_⟩
    rw [List.map_cons, run, hstep, hrun, hcalls, moved_moved, List.flatMap_cons]
    rfl

end Runs

/-- Accesses at the ends of both regions, with a ring enabled and an engine of two texture units:
halfwords and bytes are found again in the words around them, and the texture page written is
flushed in both units. -/
theorem run_plain_narrow :
    let d : Coprocessor :=
      { create .mb4 with
        ring := { enabled := true, bottomPage := 1, topPage := 2 }
        backend := some ⟨true⟩ }
    let as : List BusAccess :=
      [.write16 0x1FFFFE 0xBEEF, .read32 0x1FFFFD, .write8 0x3FFFFF 0x5A, .read16 0x3FFFFE,
        .read8 0x1FFFFF]
    (∀ a ∈ as, a.Plain d) ∧
      (d.run (as.map BusAccess.operation)).1 =
        [.done, .word 0xBEEF0000, .done, .half 0x5A00, .byte 0xBE] ∧
      (d.run (as.map BusAccess.operation)).2.calls = #[.flush 0xFF000 0, .flush 0xFF000 1] := by
  intro d as
  have hplain : ∀ a ∈ as, a.Plain d := by
    simp only [as, List.forall_mem_cons, List.not_mem_nil, false_imp_iff, implies_true, and_true,
      BusAccess.Plain]
    decide
  obtain ⟨m, -, -, hrun⟩ := run_plain d rfl as hplain
  have hzero : d.memory.row = fun _ => 0 := Aperture.Memory.row_zeroed .mb4
  have hframe : d.flushes 0x1FFFFE = [] := if_neg (by decide)
  have htexture : d.flushes 0x3FFFFF = [.flush 0xFF000 0, .flush 0xFF000 1] := by
    have hpage : UInt32.ofNat (((0x3FFFFF : UInt32).toNat - d.layout.textureStart.toNat)
        / 4096 * 4096) = 0xFF000 := by decide
    rw [flushes, if_pos (by decide), hpage]
    rfl
  rw [hrun, hzero]
  refine ⟨hplain, ?_, ?_⟩
  · simp only [as, BusAccess.applyAll, BusAccess.apply, List.cons.injEq, Reply.word.injEq,
      Reply.half.injEq, Reply.byte.injEq, true_and, and_true]
    decide +kernel
  · simp only [as, moved, List.flatMap_cons, BusAccess.calls, hframe, htexture]
    rfl

end Coprocessor

end PumaBoard
