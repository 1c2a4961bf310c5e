import PumaBoard.Proofs.Render.Transcript
import PumaBoard.Proofs.Word.Number
import PumaBoard.Trace.Run

/-!
Texels in the caches of the engine. An upload covers up to 32 pages and flushes only the first of
them; the others are flushed when they are written. So between two uploads with different bytes of a
page the page is flushed, as long as no snapshot changes the page in between: a restored page is
flushed neither when it is restored nor, unless it is the first one, when it is uploaded.
-/

namespace PumaBoard

/-! ### Pages -/

/-- The bytes of a page of 4 KB. -/
abbrev Page := Fin 4096 → UInt8

/-- The bytes of the page that starts at a place of a memory. -/
def Bytes.page (m : ByteArray) (start : Nat) : Page := fun i => byteD m (start + i)

/-- A word written to the memory changes no page but the one around its address. -/
theorem Bytes.page_write32 (m : ByteArray) (offset v : UInt32) {page : UInt32}
    (hpage : 4096 ∣ page.toNat) (hne : (offset >>> 12) <<< 12 ≠ page) :
    Bytes.page (Bytes.write32 m (offset &&& ~~~3).toNat v) page.toNat =
      Bytes.page m page.toNat := by
  have hfar : offset.toNat / 4096 * 4096 ≠ page.toNat := by
    intro h
    rw [← Word.toNat_alignPage] at h
    exact hne (UInt32.toNat_inj.mp h)
  funext i
  have hi := i.isLt
  apply Bytes.byteD_write32_of_ne
  rw [Word.toNat_alignWord]
  omega

namespace Render

/-! ### What a texture unit holds of a page -/

section Unit

variable (t : Nat) (page : UInt32)

/-- What an upload to a texture unit hands over of a page, if it covers the page. -/
def Call.carried : Call → Option Page
  | .load tmu addr texels =>
    if tmu = t ∧ addr.toNat ≤ page.toNat ∧ page.toNat + 4096 ≤ addr.toNat + texels.size then
      some (Bytes.page texels (page.toNat - addr.toNat))
    else none
  | _ => none

/-- What the unit may hold of a page after a call: the last upload of it, unless it was flushed. -/
def Call.held (last : Option Page) : Call → Option Page
  | .flush addr tmu => if addr = page ∧ tmu = t then none else last
  | c => (c.carried t page).or last

/-- Every upload of the page hands over what the unit may hold of it from an earlier one. -/
def Fresh : Option Page → List Call → Prop
  | _, [] => True
  | last, c :: cs =>
    (∀ x ∈ last, ∀ y ∈ c.carried t page, x = y) ∧ Fresh (c.held t page last) cs

variable {t page}

theorem fresh_append {last : Option Page} {cs ds : List Call} :
    Fresh t page last (cs ++ ds) ↔
      Fresh t page last cs ∧ Fresh t page (cs.foldl (Call.held t page) last) ds := by
  induction cs generalizing last with
  | nil => simp [Fresh]
  | cons c cs ih => simp [Fresh, ih, and_assoc]

theorem held_of_carried {last : Option Page} {c : Call} {x : Page}
    (h : c.carried t page = some x) : c.held t page last = some x := by
  cases c with
  | load => simp [Call.held, h]
  | triangle | flush => cases h

/-- What the unit holds survives calls that neither upload the page nor flush it. -/
theorem foldl_held {last : Option Page} {cs : List Call}
    (hcarried : ∀ c ∈ cs, c.carried t page = none) (hflush : Call.flush page t ∉ cs) :
    cs.foldl (Call.held t page) last = last := by
  induction cs with
  | nil => rfl
  | cons c cs ih =>
    obtain ⟨hc, hcs⟩ := List.forall_mem_cons.mp hcarried
    obtain ⟨hne, hflush⟩ := not_or.mp (mt List.mem_cons.mpr hflush)
    have hheld : c.held t page last = last := by
      cases c with
      | flush addr tmu =>
        refine if_neg fun h => hne ?_
        rw [h.1, h.2]
      | load | triangle => simp [Call.held, hc]
    rw [List.foldl_cons, hheld]
    exact ih hcs hflush

/-! ### Transcripts leave no stale texels -/

/-- What the unit may hold of the page is what the texture memory holds of it. -/
def Current (texture : ByteArray) (page : UInt32) (last : Option Page) : Prop :=
  ∀ x ∈ last, x = Bytes.page texture page.toNat

/-- An upload hands over what the texture memory holds of a page. -/
theorem carried_slice (texture : ByteArray) (tmu : Nat) (addr : UInt32) :
    (Call.load tmu addr
      (Bytes.slice texture addr.toNat Coprocessor.maxTextureBytes)).carried t page =
      if tmu = t ∧ addr.toNat ≤ page.toNat ∧ page.toNat + 4096 ≤ addr.toNat +
          (Bytes.slice texture addr.toNat Coprocessor.maxTextureBytes).size then
        some (Bytes.page texture page.toNat)
      else none := by
  rw [Call.carried]
  split
  · next h =>
    obtain ⟨-, hlo, hhi⟩ := h
    rw [Bytes.size_slice] at hhi
    refine congrArg some (funext fun i => ?_)
    have hi := i.isLt
    rw [Bytes.page, Bytes.page, Bytes.byteD_slice (by omega)]
    congr 1
    omega
  · rfl

theorem eq_page_of_mem_carried {texture : ByteArray} {tmu : Nat} {addr : UInt32} {y : Page}
    (hy : y ∈ (Call.load tmu addr
      (Bytes.slice texture addr.toNat Coprocessor.maxTextureBytes)).carried t page) :
    y = Bytes.page texture page.toNat := by
  rw [carried_slice] at hy
  split at hy
  · exact (Option.mem_some_iff.mp hy).symm
  · cases hy

theorem Spoken.fresh {texture : ByteArray} {last : Option Page} {cs : List Call}
    (hs : Spoken texture cs) (hlast : Current texture page last) :
    Fresh t page last cs ∧ Current texture page (cs.foldl (Call.held t page) last) := by
  induction hs generalizing last with
  | nil => exact ⟨trivial, hlast⟩
  | triangle block frame _ ih =>
    obtain ⟨hfresh, hcurrent⟩ := ih hlast
    exact ⟨⟨by simp [Call.carried], hfresh⟩, hcurrent⟩
  | upload tmu addr _ ih =>
    -- the unit holds the upload, or what it held before
    have hload : Current texture page ((Call.load tmu addr (Bytes.slice texture addr.toNat
        Coprocessor.maxTextureBytes)).held t page last) := by
      intro x hx
      rcases Option.or_eq_some_iff.mp hx with hx | ⟨-, hx⟩
      · exact eq_page_of_mem_carried hx
      · exact hlast x hx
    have hflush : Current texture page ((Call.flush addr tmu).held t page
        ((Call.load tmu addr (Bytes.slice texture addr.toNat
          Coprocessor.maxTextureBytes)).held t page last)) := by
      intro x hx
      rw [Call.held] at hx
      split at hx
      · cases hx
      · exact hload x hx
    obtain ⟨hfresh, hcurrent⟩ := ih hflush
    refine ⟨⟨?_, by simp [Call.carried], hfresh⟩, hcurrent⟩
    intro x hx y hy
    rw [hlast x hx, eq_page_of_mem_carried hy]

theorem foldl_held_flushes (last : Option Page) (units : List Nat) (addr : UInt32) :
    (units.map (Call.flush addr)).foldl (Call.held t page) last =
      if addr = page ∧ t ∈ units then none else last := by
  induction units generalizing last with
  | nil => simp
  | cons tmu units ih =>
    rw [List.map_cons, List.foldl_cons, ih, Call.held]
    grind

theorem fresh_flushes (last : Option Page) (units : List Nat) (addr : UInt32) :
    Fresh t page last (units.map (Call.flush addr)) := by
  induction units generalizing last with
  | nil => trivial
  | cons tmu units ih => exact ⟨by simp [Call.carried], ih _⟩

/-- **A transcript leaves no stale texels** in a unit of the engine, as long as no snapshot changes
the page. -/
theorem Transcript.fresh {b : Backend} (ht : t ∈ b.units) (hpage : 4096 ∣ page.toNat)
    {texture next : ByteArray} {cs : List Call}
    (h : Transcript (fun m n => Bytes.page n page.toNat = Bytes.page m page.toNat) b
      texture cs next) {last : Option Page} (hlast : Current texture page last) :
    Fresh t page last cs := by
  induction h generalizing last with
  | nil => trivial
  | spoken hs _ ih =>
    obtain ⟨hfresh, hcurrent⟩ := hs.fresh (t := t) hlast
    exact fresh_append.mpr ⟨hfresh, ih hcurrent⟩
  | written offset v _ ih =>
    refine fresh_append.mpr ⟨fresh_flushes _ _ _, ih ?_⟩
    rw [foldl_held_flushes]
    intro x hx
    split at hx
    · cases hx
    · next hne =>
      -- the unit is flushed when its page is written, so another page was
      have hfar : (offset >>> 12) <<< 12 ≠ page := fun h => hne ⟨h, ht⟩
      rw [Bytes.page_write32 _ _ _ hpage hfar]
      exact hlast x hx
  | replaced hA _ ih =>
    refine ih fun x hx => ?_
    rw [hA]
    exact hlast x hx

end Unit

/-! ### Uploads flush their first page -/

/-- Every upload is followed by the flush of its first page. -/
def Prompt : List Call → Prop
  | [] => True
  | .load tmu addr _ :: cs => (∃ ds, cs = .flush addr tmu :: ds) ∧ Prompt cs
  | _ :: cs => Prompt cs

theorem Prompt.tail {c : Call} {cs : List Call} (h : Prompt (c :: cs)) : Prompt cs := by
  cases c with
  | load => exact h.2
  | triangle | flush => exact h

theorem Prompt.of_append {cs ds : List Call} (h : Prompt (cs ++ ds)) : Prompt ds := by
  induction cs with
  | nil => exact h
  | cons c cs ih => exact ih h.tail

theorem Spoken.prompt {texture : ByteArray} {cs ds : List Call} (hc : Spoken texture cs)
    (hd : Prompt ds) : Prompt (cs ++ ds) := by
  induction hc with
  | nil => exact hd
  | upload tmu addr _ ih => exact ⟨⟨_, rfl⟩, ih⟩
  | triangle block frame _ ih => exact ih

theorem Transcript.prompt {A : ByteArray → ByteArray → Prop} {b : Backend}
    {texture next : ByteArray} {cs : List Call} (h : Transcript A b texture cs next) :
    Prompt cs := by
  induction h with
  | nil => trivial
  | spoken hs _ ih => exact hs.prompt ih
  | replaced _ _ ih => exact ih
  | written offset v _ ih =>
    induction b.units with
    | nil => exact ih
    | cons tmu units ih => exact ih

end Render

namespace Coprocessor

open Render

/-! ### A page after the first one -/

section SecondPage

variable {d : Coprocessor}

/-- The upload of a texture at the start of the texture memory. -/
def loadStart (m : Aperture.Memory) : Call := .load 0 0 (Bytes.slice m.texture 0 maxTextureBytes)

theorem carried_loadStart (m : Aperture.Memory) :
    (loadStart m).carried 0 0x1000 = some (Bytes.page m.texture 0x1000) := by
  have hsize : 0x100000 ≤ m.texture.size := by
    rw [m.texture_size]
    cases m.mode <;> decide
  refine (carried_slice m.texture 0 0).trans (if_pos ⟨rfl, by decide, ?_⟩)
  rw [Bytes.size_slice]
  show 0x2000 ≤ 0 + (min (0 + 0x20000) m.texture.size - 0)
  omega

theorem loadTexture_start {b : Backend} (hb : d.backend = some b) (ho : d.textureOffset = 0) :
    ∃ ns, d.loadTexture 0 =
      { d with calls := d.calls ++ #[loadStart d.memory, .flush 0 0], notices := ns } := by
  have hpos : d.textureOffset.toNat < d.memory.texture.size := by
    rw [ho, d.memory.texture_size]
    cases d.memory.mode <;> decide
  obtain ⟨ns, h⟩ := d.upload_spec 0
  rw [uploadCalls, if_pos hpos, ho] at h
  refine ⟨ns, ?_⟩
  calc d.loadTexture 0 = d.upload 0 := by rw [loadTexture, hb]
    _ = _ := h

theorem write32_secondPage (hon : d.enabled = true) (hm : d.mode = .mb8)
    (hb : d.backend = some ⟨false⟩) (v : UInt32) :
    d.write32 0x601000 v =
      { d with
        memory := d.memory.writeTexture32 0x1000 v
        calls := d.calls ++ #[.flush 0x1000 0] } := by
  have hdecode : d.layout.decode 0x601000 = .texture 0x1000 := by
    show d.mode.layout.decode _ = _
    rw [hm]
    decide
  rw [write32, if_pos hon, hdecode]
  exact flushPage_eq (d.setMemory (d.memory.writeTexture32 0x1000 v)) hb 0x1000

/-- A word written to the second page changes it, if it was zero. -/
theorem page_writeTexture32_ne {m : Aperture.Memory} (hm : ∀ i, Bytes.byteD m.texture i = 0) :
    Bytes.page (m.writeTexture32 0x1000 1).texture 0x1000 ≠ Bytes.page m.texture 0x1000 := by
  have hsize : 0x1000 + 4 ≤ m.texture.size := by
    rw [m.texture_size]
    cases m.mode <;> decide
  intro h
  have hzero := congrFun h 0
  have hone : Bytes.page (m.writeTexture32 0x1000 1).texture 0x1000 0 = 1 :=
    (Bytes.byteD_write32 (v := 1) hsize).1
  rw [hone, Bytes.page, hm] at hzero
  exact absurd hzero (by decide)

/-- The texture is uploaded, its second page written, and the texture uploaded again. -/
theorem calls_rewritten (hon : d.enabled = true) (hm : d.mode = .mb8)
    (hb : d.backend = some ⟨false⟩) (ho : d.textureOffset = 0) :
    (d.run [.loadTexture 0, .write32 0x601000 1, .loadTexture 0]).2.calls =
      d.calls ++ ([] ++ loadStart d.memory :: ([Call.flush 0 0, Call.flush 0x1000 0] ++
        loadStart (d.memory.writeTexture32 0x1000 1) :: [Call.flush 0 0])).toArray := by
  obtain ⟨ns, hload⟩ := loadTexture_start hb ho
  have hwrite := write32_secondPage (d := d.loadTexture 0) (by rw [hload]; exact hon)
    (by rw [hload]; exact hm) (by rw [hload]; exact hb) 1
  obtain ⟨ns', hload'⟩ := loadTexture_start (d := (d.loadTexture 0).write32 0x601000 1)
    (b := ⟨false⟩) (by rw [hwrite, hload]; exact hb) (by rw [hwrite, hload]; exact ho)
  show (((d.loadTexture 0).write32 0x601000 1).loadTexture 0).calls = _
  rw [hload', hwrite, hload]
  simp

/-- A triangle without a texture is the only call of its own. -/
theorem submitCalls_untextured (hon : d.enabled = true) {b : Backend} (hb : d.backend = some b)
    (hp : (ColourPath.ofBits (d.regs.get Register.colourPath)).textured = false)
    (t : Triangle.Setup) : d.submitCalls t = [.triangle (d.block t) d.memory.frame] := by
  rw [submitCalls, if_pos hon, hb]
  simp [textureCalls, hp]

/-- A snapshot is restored, and the texture in it uploaded and drawn. -/
theorem calls_restored {b : Backend} (hb : d.backend = some b) {e : Coprocessor}
    (hm : d.mode = e.mode) (hon : e.enabled = true) (ho : e.textureOffset = 0)
    (hp : (ColourPath.ofBits (e.regs.get Register.colourPath)).textured = false) :
    ∃ block, (d.run [.restore e.capture, .loadTexture 0, .renderTriangle]).2.calls =
      d.calls ++ #[loadStart e.memory, .flush 0 0, .triangle block e.memory.frame] := by
  obtain ⟨r, hr⟩ : ∃ r, r = d.takeOver e.capture ⟨e.regs, e.fog, e.memory⟩ := ⟨_, rfl⟩
  have hrestore : (d.perform (.restore e.capture)).2 = r := by
    rw [perform, restore_capture hm, hr]
  have hb' : r.backend = some b := by rw [hr]; exact hb
  obtain ⟨ns, hload⟩ := loadTexture_start hb' (by rw [hr]; exact ho)
  have hmemory : (r.loadTexture 0).memory = e.memory := by rw [hload, hr]; rfl
  have hcalls : (r.loadTexture 0).calls = d.calls ++ #[loadStart e.memory, .flush 0 0] := by
    rw [hload, hr]
    rfl
  have hsubmit := submitCalls_untextured (d := r.loadTexture 0) (b := b)
    (by rw [hload, hr]; exact hon) (by rw [hload]; exact hb') (by rw [hload, hr]; exact hp)
    (r.loadTexture 0).triangle
  refine ⟨(r.loadTexture 0).block (r.loadTexture 0).triangle, ?_⟩
  show (((d.perform (.restore e.capture)).2.loadTexture 0).renderTriangle).calls = _
  rw [hrestore, renderTriangle, calls_submit, hsubmit, hmemory, hcalls]
  simp

/-- A texture with a word in its second page is uploaded, a snapshot without the word restored, and
the texture uploaded again and drawn. -/
def staleRun (e : Coprocessor) : List Operation :=
  [.write32 0x601000 1, .loadTexture 0] ++
    [.restore e.capture, .loadTexture 0, .renderTriangle]

theorem calls_staleRun (hon : d.enabled = true) (hm : d.mode = .mb8)
    (hb : d.backend = some ⟨false⟩) (ho : d.textureOffset = 0) {e : Coprocessor}
    (hm' : e.mode = .mb8) (hon' : e.enabled = true) (ho' : e.textureOffset = 0)
    (hp : (ColourPath.ofBits (e.regs.get Register.colourPath)).textured = false) :
    ∃ block, (d.run (staleRun e)).2.calls =
      d.calls ++ ([Call.flush 0x1000 0] ++ loadStart (d.memory.writeTexture32 0x1000 1) ::
        ([Call.flush 0 0] ++ loadStart e.memory ::
          [Call.flush 0 0, .triangle block e.memory.frame])).toArray := by
  have hwrite := write32_secondPage hon hm hb 1
  obtain ⟨ns, hload⟩ := loadTexture_start (d := d.write32 0x601000 1) (b := ⟨false⟩)
    (by rw [hwrite]; exact hb) (by rw [hwrite]; exact ho)
  have hfirst : (d.run [.write32 0x601000 1, .loadTexture 0]).2 =
      { d with
        memory := d.memory.writeTexture32 0x1000 1
        calls := d.calls ++ #[.flush 0x1000 0] ++
          #[loadStart (d.memory.writeTexture32 0x1000 1), .flush 0 0]
        notices := ns } := by
    show (d.write32 0x601000 1).loadTexture 0 = _
    rw [hload, hwrite]
  obtain ⟨block, hcalls⟩ := calls_restored
    (d := (d.run [.write32 0x601000 1, .loadTexture 0]).2) (by rw [hfirst]; exact hb)
    (by rw [hfirst]; exact hm.trans hm'.symm) hon' ho' hp
  refine ⟨block, ?_⟩
  rw [staleRun, run_append, hcalls, hfirst]
  simp

/-- A coprocessor after power-on, with an engine of one texture unit. -/
def withUnit : Coprocessor := (create .mb8).attach ⟨false⟩

theorem textureOffset_withUnit : withUnit.textureOffset = 0 := by decide +kernel

theorem byteD_withUnit (i : Nat) : Bytes.byteD withUnit.memory.texture i = 0 :=
  Bytes.byteD_zeros ..

end SecondPage

/-! ### Uploads of a run -/

section Runs

variable {d : Coprocessor} {b : Backend} {ops : List Operation} {t : Nat} {page : UInt32}

/-- **The engine keeps no stale texels.** Between two uploads to a texture unit that hand over
different bytes of a page the page is flushed, or at the latest before the triangle after the second
upload. This takes that no snapshot changes the page, or that the second upload starts with it. -/
theorem flushed_between_uploads (hb : d.backend = some b) (hops : ∀ op ∈ ops, op.KeepsEngine)
    (ht : t ∈ b.units) (hpage : 4096 ∣ page.toNat) {pre mid post : List Call}
    {first second : Call} {x y : Page}
    (hcalls : (d.run ops).2.calls =
      d.calls ++ (pre ++ first :: (mid ++ second :: post)).toArray)
    (hfirst : first.carried t page = some x) (hsecond : second.carried t page = some y)
    (hmid : ∀ c ∈ mid, c.carried t page = none) (hxy : x ≠ y)
    (hcause :
      RestoresWithin (fun m n => Bytes.page n page.toNat = Bytes.page m page.toNat) d ops ∨
        ∃ texels, second = .load t page texels) :
    .flush page t ∈ mid ++ post.takeWhile fun c => !Trace.isTriangle c := by
  rw [List.mem_append]
  rcases hcause with hrestores | ⟨texels, rfl⟩
  · left
    by_contra hflush
    -- otherwise the unit holds the bytes of the first upload until the second
    have hnone : Current d.memory.texture page none := by simp [Current]
    have hfresh := ((tells_run hb hops hrestores).transcript hcalls).fresh ht hpage hnone
    obtain ⟨-, -, hfresh⟩ := fresh_append.mp hfresh
    rw [held_of_carried hfirst, fresh_append, foldl_held hmid hflush] at hfresh
    exact hxy (hfresh.2.1 x rfl y hsecond)
  · right
    have hprompt := ((tells_run hb hops (restoresWithin_true d ops)).transcript hcalls).prompt
    obtain ⟨⟨ds, rfl⟩, -⟩ := hprompt.of_append.tail.of_append
    simp [Trace.isTriangle]

theorem flushed_between_uploads_written :
    ∃ (pre mid post : List Call) (first second : Call) (x y : Page),
      (withUnit.run [.loadTexture 0, .write32 0x601000 1, .loadTexture 0]).2.calls =
        withUnit.calls ++ (pre ++ first :: (mid ++ second :: post)).toArray ∧
      first.carried 0 0x1000 = some x ∧ second.carried 0 0x1000 = some y ∧ x ≠ y ∧
      .flush 0x1000 0 ∈ mid ++ post.takeWhile fun c => !Trace.isTriangle c := by
  have hcalls := calls_rewritten (d := withUnit) rfl rfl rfl textureOffset_withUnit
  have hne := (page_writeTexture32_ne byteD_withUnit).symm
  refine ⟨_, _, _, _, _, _, _, hcalls, carried_loadStart _, carried_loadStart _, hne, ?_⟩
  exact flushed_between_uploads (b := ⟨false⟩) rfl (by simp [Operation.KeepsEngine]) (by decide)
    (by decide) hcalls (carried_loadStart _) (carried_loadStart _) (by simp [Call.carried]) hne
    (.inl (by simp [RestoresWithin, Operation.restores]))

/-- A restored snapshot takes a word out of the second page and nothing flushes the page. -/
theorem restored_page_unflushed :
    withUnit.backend = some ⟨false⟩ ∧ (∀ op ∈ staleRun (create .mb8), op.KeepsEngine) ∧
      ∃ (pre mid post : List Call) (first second : Call) (x y : Page),
        (withUnit.run (staleRun (create .mb8))).2.calls =
          withUnit.calls ++ (pre ++ first :: (mid ++ second :: post)).toArray ∧
        first.carried 0 0x1000 = some x ∧ second.carried 0 0x1000 = some y ∧
        (∀ c ∈ mid, c.carried 0 0x1000 = none) ∧ x ≠ y ∧
        .flush 0x1000 0 ∉ mid ++ post.takeWhile fun c => !Trace.isTriangle c := by
  obtain ⟨block, hcalls⟩ := calls_staleRun (d := withUnit) (e := create .mb8) rfl rfl rfl
    textureOffset_withUnit rfl rfl textureOffset_withUnit (by decide +kernel)
  have hne := page_writeTexture32_ne byteD_withUnit
  refine ⟨rfl, by simp [staleRun, Operation.KeepsEngine], _, _, _, _, _, _, _, hcalls,
    carried_loadStart _, carried_loadStart _, by simp [Call.carried], hne, ?_⟩
  simp [Trace.isTriangle]

end Runs

end Coprocessor

end PumaBoard
