import PumaBoard.Proofs.Coprocessor.Operation
import PumaBoard.Proofs.Coprocessor.Restore
import PumaBoard.Proofs.Memory.Flat
import PumaBoard.SaveState.Basic

/-!
Loading a saved state is all or nothing. A restore compares the modes and then four lengths, in a
fixed order; the first comparison that fails is what it reports, and then nothing has changed. A
snapshot that passes is installed as a whole. Main statement: bytes either are refused, with the
coprocessor as it was, or hold a state of the current version that is installed completely.
-/

namespace PumaBoard

/-! ### What a snapshot has to fit -/

/-- A part of a snapshot that has to have the length of the same part of a coprocessor. -/
structure Snapshot.Length where
  part : SnapshotPart
  expected : Nat
  got : Nat

namespace Snapshot

variable (s : Snapshot) (d : Coprocessor)

/-- The lengths that a restore compares, in the order in which it does. -/
def lengths : List Length :=
  [⟨.registers, 256, s.regs.size⟩, ⟨.fog, 64, s.fog.size⟩,
    ⟨.frame, d.memory.frame.size, s.frame.size⟩,
    ⟨.texture, d.memory.texture.size, s.texture.size⟩]

/-- The snapshot has the mode of the coprocessor and parts of its lengths. -/
structure Fits : Prop where
  mode : s.mode = d.mode
  regs : s.regs.size = 256
  fog : s.fog.size = 64
  frame : s.frame.size = d.memory.frame.size
  texture : s.texture.size = d.memory.texture.size

/-- What is wrong with a snapshot: its mode, or else the first part that has another length. -/
def fault? : Option Error :=
  if s.mode = d.mode then
    ((s.lengths d).find? fun l => l.expected ≠ l.got).map
      fun l => .sizeMismatch l.part l.expected l.got
  else some (.modeMismatch d.mode s.mode)

/-- A snapshot fits where nothing is wrong with it. -/
theorem fits_iff : s.Fits d ↔ s.fault? d = none := by
  constructor
  · rintro ⟨hmode, hregs, hfog, hframe, htexture⟩
    simp [fault?, lengths, hmode, hregs, hfog, hframe, htexture]
  · intro h
    unfold fault? at h
    split at h
    · next hmode =>
      simp only [lengths, Option.map_eq_none_iff, List.find?_eq_none, List.forall_mem_cons,
        decide_eq_true_eq, not_not] at h
      obtain ⟨hregs, hfog, hframe, htexture, -⟩ := h
      exact ⟨hmode, hregs.symm, hfog.symm, hframe.symm, htexture.symm⟩
    · cases h

/-! ### What is installed -/

/-- The state of a coprocessor after a snapshot was installed: it is what the snapshot holds, but
for status bits that do not exist; no triangle is being drawn; the rendering engine and the calls
made to it are as before, and one notice was given. -/
structure Installed (r : Coprocessor) : Prop where
  capture : r.capture = { s with status := (Status.ofBits s.status).bits }
  busy : r.busy = false
  backend : r.backend = d.backend
  calls : r.calls = d.calls
  notices : r.notices = d.notices.push (.stateRestored d.mode)

end Snapshot

/-- A coprocessor is the snapshot taken of it and what a snapshot leaves out. -/
theorem Coprocessor.eq_of_capture {d e : Coprocessor} (h : d.capture = e.capture)
    (hbusy : d.busy = e.busy) (hbackend : d.backend = e.backend) (hcalls : d.calls = e.calls)
    (hnotices : d.notices = e.notices) : d = e := by
  simp only [capture, Snapshot.mk.injEq] at h
  obtain ⟨hmode, hregs, htriangle, hfloat, hfog, hstatus, hring, hswap, hcounters, hwindow, hon,
    hrequest, hgrant, hframe, htexture⟩ := h
  have hmemory : d.memory = e.memory := Aperture.Memory.eq_of_parts hmode hframe htexture
  have hregs' : d.regs = e.regs :=
    congrArg RegisterFile.mk (Vector.toArray_inj.mp hregs)
  have hfog' : d.fog = e.fog := Vector.toArray_inj.mp hfog
  have hstatus' : d.status = e.status := by
    rw [← d.status.ofBits_bits, hstatus, Status.ofBits_bits]
  cases d
  cases e
  simp_all only

/-- There is only one state after a snapshot was installed. -/
theorem Snapshot.Installed.unique {s : Snapshot} {d q r : Coprocessor} (hq : s.Installed d q)
    (hr : s.Installed d r) : q = r :=
  Coprocessor.eq_of_capture (hq.capture.trans hr.capture.symm) (hq.busy.trans hr.busy.symm)
    (hq.backend.trans hr.backend.symm) (hq.calls.trans hr.calls.symm)
    (hq.notices.trans hr.notices.symm)

/-! ### The checks -/

namespace Snapshot

variable {s : Snapshot} {d : Coprocessor}

/-- The contents are those of the snapshot, in the mode of the coprocessor. -/
structure Contents.Of (t : Contents) (s : Snapshot) (d : Coprocessor) : Prop where
  regs : t.regs.words.toArray = s.regs
  fog : t.fog.toArray = s.fog
  mode : t.memory.mode = d.mode
  frame : t.memory.frame = s.frame
  texture : t.memory.texture = s.texture

/-- The checks find what is wrong, or let the contents of the snapshot through. -/
theorem checked_spec (s : Snapshot) (d : Coprocessor) :
    (∃ t, s.checked d.mode = .ok t ∧ s.fault? d = none ∧ t.Of s d) ∨
      ∃ e, s.checked d.mode = .error e ∧ s.fault? d = some e := by
  have hframe : d.memory.frame.size = d.mode.layout.frameSize.toNat := d.memory.frame_size
  have htexture : d.memory.texture.size = d.mode.layout.textureSize.toNat := d.memory.texture_size
  rw [checked, fault?, lengths]
  by_cases hmode : s.mode = d.mode
  case neg => exact .inr ⟨_, if_neg hmode, if_neg hmode⟩
  rw [if_pos hmode, if_pos hmode]
  -- a check that fails is the first one to fail, as those before it have passed
  by_cases hr : s.regs.size = 256
  case neg =>
    exact .inr ⟨.sizeMismatch .registers 256 s.regs.size, by simp [Coprocessor.tableOf, hr],
      by simp [Ne.symm hr]⟩
  by_cases hf : s.fog.size = 64
  case neg =>
    exact .inr ⟨.sizeMismatch .fog 64 s.fog.size, by simp [Coprocessor.tableOf, hr, hf],
      by simp [hr, Ne.symm hf]⟩
  by_cases hm : s.frame.size = d.mode.layout.frameSize.toNat
  case neg =>
    exact .inr ⟨.sizeMismatch .frame d.mode.layout.frameSize.toNat s.frame.size,
      by simp [Coprocessor.tableOf, Coprocessor.memoryOf, hr, hf, hm],
      by simp [hr, hf, hframe, Ne.symm hm]⟩
  by_cases ht : s.texture.size = d.mode.layout.textureSize.toNat
  case neg =>
    exact .inr ⟨.sizeMismatch .texture d.mode.layout.textureSize.toNat s.texture.size,
      by simp [Coprocessor.tableOf, Coprocessor.memoryOf, hr, hf, hm, ht],
      by simp [hr, hf, hm, hframe, htexture, Ne.symm ht]⟩
  exact .inl ⟨⟨⟨s.regs, hr⟩, ⟨s.fog, hf⟩, ⟨d.mode, s.frame, s.texture, hm, ht⟩⟩,
    by simp [Coprocessor.tableOf, Coprocessor.memoryOf, hr, hf, hm, ht],
    by simp [hr, hf, hm, ht, hframe, htexture], ⟨rfl, rfl, rfl, rfl, rfl⟩⟩

end Snapshot

namespace Coprocessor

/-! ### Restoring in place -/

variable {d : Coprocessor} {s : Snapshot}

/-- A table with the entries of another one of its size copied over it. -/
def copied {α : Type} {n : Nat} (v : Vector α n) (xs : Array α) : Vector α n :=
  if h : xs.size = n then ⟨xs, h⟩ else v

/-- A memory with a frame buffer of its size copied over it. -/
def copyFrame (m : Aperture.Memory) (b : ByteArray) : Aperture.Memory :=
  if h : b.size = m.frame.size then { m with frame := b, frame_size := h.trans m.frame_size } else m

/-- A memory with a texture memory of its size copied over it. -/
def copyTexture (m : Aperture.Memory) (b : ByteArray) : Aperture.Memory :=
  if h : b.size = m.texture.size then
    { m with texture := b, texture_size := h.trans m.texture_size }
  else m

/-- The assignments of a restore, one for each part of the coprocessor, in order. -/
def assignments (s : Snapshot) : List (Coprocessor → Coprocessor) :=
  [fun d => { d with regs := ⟨copied d.regs.words s.regs⟩ },
    fun d => { d with fog := copied d.fog s.fog },
    fun d => { d with memory := copyFrame d.memory s.frame },
    fun d => { d with memory := copyTexture d.memory s.texture },
    fun d => { d with triangle := s.triangle },
    fun d => { d with floatTriangle := s.floatTriangle },
    fun d => { d with status := .ofBits s.status },
    fun d => { d with ring := s.ring },
    fun d => { d with swap := s.swap },
    fun d => { d with counters := s.counters },
    fun d => { d with window := s.window },
    fun d => { d with enabled := s.enabled },
    fun d => { d with pumaRequest := s.pumaRequest },
    fun d => { d with pumaGrant := s.pumaGrant },
    fun d => { d with busy := false },
    fun d => d.note (.stateRestored d.mode)]

/-- The check of a length. -/
def checkLength (l : Snapshot.Length) : EStateM Error Coprocessor Unit :=
  unless l.expected = l.got do throw (.sizeMismatch l.part l.expected l.got)

/-- A restore that works on the coprocessor itself: the checks, then one assignment after the other.
An error would leave behind what had been assigned before it. -/
def restoreInPlace (s : Snapshot) : EStateM Error Coprocessor Unit := do
  let d ← get
  unless s.mode = d.mode do throw (.modeMismatch d.mode s.mode)
  (s.lengths d).forM checkLength
  (assignments s).forM modify

theorem run_checkLength (l : Snapshot.Length) (d : Coprocessor) :
    (checkLength l).run d =
      if l.expected = l.got then .ok () d
      else .error (.sizeMismatch l.part l.expected l.got) d := by
  unfold checkLength
  split <;> rfl

/-- The checks report the first length that is wrong. -/
theorem run_checkLengths (ls : List Snapshot.Length) (d : Coprocessor) :
    (ls.forM checkLength).run d =
      match ls.find? fun l => l.expected ≠ l.got with
      | none => .ok () d
      | some l => .error (.sizeMismatch l.part l.expected l.got) d := by
  induction ls with
  | nil => rfl
  | cons l ls ih =>
    rw [List.forM_eq_forM, List.forM_cons, EStateM.run_bind, run_checkLength]
    by_cases h : l.expected = l.got
    · rw [if_pos h, List.find?_cons_of_neg (by simpa using h)]
      exact ih
    · rw [if_neg h, List.find?_cons_of_pos (by simpa using h)]

theorem run_assignments (fs : List (Coprocessor → Coprocessor)) (d : Coprocessor) :
    (fs.forM modify : EStateM Error Coprocessor Unit).run d =
      .ok () (fs.foldl (fun d f => f d) d) := by
  induction fs generalizing d with
  | nil => rfl
  | cons f fs ih => exact ih (f d)

/-- A restore in place makes all its assignments or reports what is wrong. -/
theorem run_restoreInPlace (s : Snapshot) (d : Coprocessor) :
    (restoreInPlace s).run d =
      match s.fault? d with
      | none => .ok () ((assignments s).foldl (fun d f => f d) d)
      | some e => .error e d := by
  simp only [restoreInPlace, EStateM.run_bind, EStateM.run_get, Snapshot.fault?]
  split
  · rw [EStateM.run_bind, run_checkLengths]
    cases (s.lengths d).find? fun l => l.expected ≠ l.got with
    | none => exact run_assignments ..
    | some l => rfl
  · rfl

theorem copied_toArray {α : Type} {n : Nat} (v w : Vector α n) : copied v w.toArray = w :=
  dif_pos w.size_toArray

theorem copyTexture_copyFrame {m n : Aperture.Memory} (h : n.mode = m.mode) :
    copyTexture (copyFrame m n.frame) n.texture = n := by
  have hframe : n.frame.size = m.frame.size := by rw [n.frame_size, h, m.frame_size]
  have htexture : n.texture.size = m.texture.size := by rw [n.texture_size, h, m.texture_size]
  rw [copyFrame, dif_pos hframe, copyTexture, dif_pos htexture]
  exact Aperture.Memory.eq_of_parts h.symm rfl rfl

/-- The assignments together take over the contents of a snapshot. -/
theorem foldl_assignments {t : Snapshot.Contents} (h : t.Of s d) :
    (assignments s).foldl (fun d f => f d) d = d.takeOver s t := by
  obtain ⟨hregs, hfog, hmode, hframe, htexture⟩ := h
  have hmemory := copyTexture_copyFrame hmode
  simp only [assignments, List.foldl_cons, List.foldl_nil, ← hregs, ← hfog, ← hframe, ← htexture,
    copied_toArray, hmemory]
  rw [takeOver, ← hmode]
  rfl

/-! ### Restoring -/

theorem installed_takeOver {t : Snapshot.Contents} (hmode : s.mode = d.mode) (h : t.Of s d) :
    s.Installed d (d.takeOver s t) where
  capture := by
    obtain ⟨hregs, hfog, hm, hframe, htexture⟩ := h
    simp only [capture, takeOver, install, note, mode, hregs, hfog, hm, hframe, htexture]
    rw [hmode, mode]
  busy := rfl
  backend := rfl
  calls := rfl
  notices := rfl

/-- A restore installs a snapshot that fits, or reports what is wrong with it; carried out in place
it does the same. -/
theorem restore_spec (d : Coprocessor) (s : Snapshot) :
    (∃ r, d.restore s = .ok r ∧ (restoreInPlace s).run d = .ok () r ∧ s.Fits d ∧
        s.Installed d r) ∨
      ∃ e, d.restore s = .error e ∧ (restoreInPlace s).run d = .error e d ∧
        s.fault? d = some e := by
  rw [restore_eq, run_restoreInPlace]
  rcases s.checked_spec d with ⟨t, hchecked, hfault, ht⟩ | ⟨e, hchecked, hfault⟩
  · have hfits : s.Fits d := (s.fits_iff d).mpr hfault
    refine .inl ⟨d.takeOver s t, by rw [hchecked]; rfl, ?_, hfits, installed_takeOver hfits.mode ht⟩
    rw [hfault, foldl_assignments ht]
  · exact .inr ⟨e, by rw [hchecked]; rfl, by rw [hfault], hfault⟩

end Coprocessor

/-! ### Loading bytes -/

namespace SaveState

open Coprocessor

/-- Loads a saved state from bytes into a coprocessor, in place. -/
def load (b : ByteArray) : EStateM Error Coprocessor Unit :=
  match ofBytes b with
  | .ok s => restoreInPlace s.snapshot
  | .error e => throw e

/-- What is accepted as a saved state has the current version. -/
theorem version_of_ofBytes {b : ByteArray} {s : SaveState} (h : ofBytes b = .ok s) :
    s.version = currentVersion := by
  unfold ofBytes at h
  split at h
  · cases h
  · split at h
    · next hversion =>
      cases h
      exact hversion
    · cases h

/-- A load is refused by the decoder or by the restore, or installs what was decoded. -/
theorem load_spec (b : ByteArray) (d : Coprocessor) :
    (∃ e, (load b).run d = .error e d ∧
        (ofBytes b = .error e ∨ ∃ s, ofBytes b = .ok s ∧ s.apply d = .error e)) ∨
      ∃ s r, (load b).run d = .ok () r ∧ ofBytes b = .ok s ∧ s.version = currentVersion ∧
        s.apply d = .ok r ∧ s.snapshot.Installed d r := by
  unfold load
  cases hb : ofBytes b with
  | error e => exact .inl ⟨e, rfl, .inl rfl⟩
  | ok s =>
    rcases d.restore_spec s.snapshot with ⟨r, hr, hplace, -, hinstalled⟩ | ⟨e, he, hplace, -⟩
    · exact .inr ⟨s, r, hplace, rfl, version_of_ofBytes hb, hr, hinstalled⟩
    · exact .inl ⟨e, hplace, .inr ⟨s, rfl, he⟩⟩

/-- **Restoring is all or nothing.** A snapshot that fits is installed, which determines the state;
any other is answered with the mode or else the first length that is wrong, and nothing has changed,
even where the parts of the coprocessor are assigned one after the other. So whatever bytes are
loaded, they are refused and the coprocessor is as it was, or they hold a state of the current
version and all of it is installed. -/
theorem restore_all_or_nothing (d : Coprocessor) :
    (∀ s : Snapshot,
      (s.Fits d ∧ ∃ r, d.perform (.restore s) = (.done, r) ∧
          (restoreInPlace s).run d = .ok () r ∧ s.Installed d r ∧
          ∀ q, s.Installed d q → q = r) ∨
        (¬ s.Fits d ∧ ∃ e, s.fault? d = some e ∧ d.perform (.restore s) = (.refused e, d) ∧
          (restoreInPlace s).run d = .error e d)) ∧
    ∀ b : ByteArray,
      (∃ e, (load b).run d = .error e d ∧
          (ofBytes b = .error e ∨ ∃ s, ofBytes b = .ok s ∧ s.apply d = .error e)) ∨
        ∃ s r, (load b).run d = .ok () r ∧ ofBytes b = .ok s ∧ s.version = currentVersion ∧
          s.apply d = .ok r ∧ s.snapshot.Installed d r := by
  refine ⟨fun s => ?_, fun b => load_spec b d⟩
  rcases d.restore_spec s with ⟨r, hr, hplace, hfits, hinstalled⟩ | ⟨e, he, hplace, hfault⟩
  · exact .inl ⟨hfits, r, by rw [perform, hr], hplace, hinstalled,
      fun q hq => hq.unique hinstalled⟩
  · have hfits : ¬ s.Fits d := by simp [s.fits_iff d, hfault]
    exact .inr ⟨hfits, e, hfault, by rw [perform, he], hplace⟩

end SaveState

end PumaBoard
