import PumaBoard.Proofs.Coprocessor.Operation
import PumaBoard.Proofs.Host.Access
import PumaBoard.Trace.Run

/-!
Reads only observe. Whatever is read on a board, over the bus, of the coprocessor itself or by a
trace, answers as it did at the start, and all that reads leave behind are the grant flag of the
coprocessor and the notices.
-/

namespace PumaBoard

/-! ### Reads of the coprocessor -/

namespace Coprocessor

/-- The coprocessor after some reads: its grant flag may be up, and its notices are others. -/
def observed (d : Coprocessor) (granted : Bool) (notices : Array Notice) : Coprocessor :=
  { d with pumaGrant := granted || d.pumaGrant, notices := notices }

/-- A read over the bridge raises the grant flag. -/
def grants (d : Coprocessor) (addr : UInt32) : Bool := d.enabled && d.layout.inFrame addr

/-- The operation reads a register or a word, a halfword or a byte of the aperture. -/
def Operation.reads : Operation → Bool
  | .readIndex _ | .storedIndex _ => true
  | .read32 _ | .read16 _ | .read8 _ | .bridgeRead _ => true
  | _ => false

/-- The addresses read over the bridge. -/
def Operation.bridged : Operation → List UInt32
  | .bridgeRead addr => [addr]
  | _ => []

section Observed

variable (d : Coprocessor) (granted : Bool) (ns : Array Notice) (addr : UInt32)

theorem read32_observed :
    ∃ ms, (d.observed granted ns).read32 addr = ((d.read32 addr).1, d.observed granted ms) := by
  by_cases h : (d.enabled && decide (d.layout.decode addr = .invalid)) = true
  · exact ⟨ns.push (.invalidRead addr), congrArg (Prod.mk (d.peek addr)) (if_pos h)⟩
  · exact ⟨ns, congrArg (Prod.mk (d.peek addr)) (if_neg h)⟩

theorem bridgeRead_observed :
    ∃ ms, (d.observed granted ns).bridgeRead addr =
      ((d.bridgeRead addr).1, d.observed (granted || d.grants addr) ms) := by
  obtain ⟨ms, hread⟩ := d.read32_observed granted ns addr
  by_cases hon : d.enabled = true
  · have hvalue : (d.bridgeRead addr).1 = (d.read32 addr).1 := by rw [bridgeRead, if_pos hon]
    have hflag : (d.observed granted ns).bridgeRead addr =
        ((d.read32 addr).1, if d.layout.inFrame addr then
          { d.observed granted ms with pumaGrant := true } else d.observed granted ms) := by
      rw [bridgeRead, hread]
      exact if_pos hon
    refine ⟨ms, ?_⟩
    rw [hflag, hvalue, grants, hon, Bool.true_and]
    cases d.layout.inFrame addr with
    | true => rw [Bool.or_true]; rfl
    | false => rw [Bool.or_false]; rfl
  · have hvalue : d.bridgeRead addr = (0, d) := if_neg hon
    have hgrants : d.grants addr = false := by
      rw [grants, Bool.eq_false_iff.mpr hon, Bool.false_and]
    refine ⟨ns, ?_⟩
    rw [hvalue, hgrants, Bool.or_false]
    exact if_neg hon

/-- A reply made of a word that is read. -/
theorem reply_observed (f : UInt32 → Reply) :
    ∃ ms, (f ((d.observed granted ns).read32 addr).1, ((d.observed granted ns).read32 addr).2) =
      (f (d.read32 addr).1, d.observed granted ms) := by
  obtain ⟨ms, hread⟩ := d.read32_observed granted ns addr
  exact ⟨ms, by rw [hread]⟩

/-- A read answers the same after other reads, and is one more of them. -/
theorem perform_observed {op : Operation} (h : op.reads) :
    ∃ ms, (d.observed granted ns).perform op =
      ((d.perform op).1, d.observed (granted || op.bridged.any d.grants) ms) := by
  cases op with
  | bridgeRead addr =>
    obtain ⟨ms, hread⟩ := d.bridgeRead_observed granted ns addr
    refine ⟨ms, ?_⟩
    rw [perform, hread, Operation.bridged, List.any_cons, List.any_nil, Bool.or_false]
    rfl
  | readIndex | storedIndex =>
    rw [Operation.bridged.eq_def, List.any_nil, Bool.or_false]
    exact ⟨ns, rfl⟩
  | read32 addr =>
    rw [Operation.bridged.eq_def, List.any_nil, Bool.or_false]
    exact d.reply_observed granted ns addr .word
  | read16 addr =>
    rw [Operation.bridged.eq_def, List.any_nil, Bool.or_false]
    exact d.reply_observed granted ns (aligned addr) fun w => .half (w >>> halfShift addr).toUInt16
  | read8 addr =>
    rw [Operation.bridged.eq_def, List.any_nil, Bool.or_false]
    exact d.reply_observed granted ns (aligned addr) fun w => .byte (w >>> byteShift addr).toUInt8
  | _ => exact absurd h Bool.false_ne_true

end Observed

end Coprocessor

/-! ### Reads of the board -/

namespace HostChip

/-- The board after some reads: the grant flag of its coprocessor may be up, and the notices are
others. -/
def observed (h : HostChip) (granted : Bool) (inner outer : Array Notice) : HostChip :=
  { h with coprocessor := h.coprocessor.map (·.observed granted inner), notices := outer }

theorem exists_observed (h : HostChip) : ∃ inner outer, h.observed false inner outer = h := by
  obtain ⟨regs, video, cursor, busy, coprocessor, notices⟩ := h
  cases coprocessor with
  | none => exact ⟨#[], notices, rfl⟩
  | some d => exact ⟨d.notices, notices, rfl⟩

/-- Whatever reads came before it, the function answers the same and is one more read, which raises
the grant flag if the board says so. -/
def Observes {α : Type} (f : HostChip → α × HostChip) (grant : HostChip → Bool) : Prop :=
  ∀ h granted inner outer, ∃ inner' outer',
    f (h.observed granted inner outer) =
      ((f h).1, h.observed (granted || grant h) inner' outer')

namespace Observes

variable {α β : Type} {f : HostChip → α × HostChip} {p q : HostChip → Bool}

theorem answer (hf : Observes f p) (h : HostChip) (granted : Bool) (inner outer : Array Notice) :
    (f (h.observed granted inner outer)).1 = (f h).1 := by
  obtain ⟨_, _, hread⟩ := hf h granted inner outer
  rw [hread]

/-- What a read leads to. -/
theorem state (hf : Observes f p) (h : HostChip) :
    ∃ inner outer, (f h).2 = h.observed (p h) inner outer := by
  obtain ⟨inner, outer, hself⟩ := h.exists_observed
  obtain ⟨inner', outer', hread⟩ := hf h false inner outer
  rw [hself, Bool.false_or] at hread
  exact ⟨inner', outer', congrArg Prod.snd hread⟩

theorem of_eq (hf : Observes f p) (heq : ∀ h, p h = q h) : Observes f q := funext heq ▸ hf

/-- One read after the other. -/
theorem bind (hf : Observes f p) {k : α → HostChip → β × HostChip} (hk : ∀ a, Observes (k a) q) :
    Observes (fun h => k (f h).1 (f h).2) (fun h => p h || q h) := by
  intro h granted inner outer
  obtain ⟨inner₁, outer₁, hfirst⟩ := hf h granted inner outer
  obtain ⟨inner₂, outer₂, hsecond⟩ := hk (f h).1 h (granted || p h) inner₁ outer₁
  obtain ⟨inner', outer', hstate⟩ := hf.state h
  refine ⟨inner₂, outer₂, ?_⟩
  have hanswer := (hk (f h).1).answer h (p h) inner' outer'
  rw [← hstate] at hanswer
  simp only [hfirst, hsecond, hanswer, Bool.or_assoc]

theorem map (hf : Observes f p) (g : α → β) : Observes (fun h => (g (f h).1, (f h).2)) p := by
  intro h granted inner outer
  obtain ⟨inner', outer', hread⟩ := hf h granted inner outer
  exact ⟨inner', outer', congrArg (fun r : α × HostChip => (g r.1, r.2)) hread⟩

/-- A function of what reads leave alone. -/
theorem pure {g : HostChip → α}
    (hg : ∀ h granted inner outer, g (observed h granted inner outer) = g h) :
    Observes (fun h => (g h, h)) (fun _ => false) := by
  intro h granted inner outer
  refine ⟨inner, outer, ?_⟩
  show (g (h.observed granted inner outer), _) = (g h, h.observed (granted || false) inner outer)
  rw [hg, Bool.or_false]

end Observes

/-! ### The coprocessor behind the bridge -/

/-- A read over the bridge raises the grant flag of an enabled coprocessor. -/
def grants (h : HostChip) (addr : UInt32) : Bool := h.coprocessor.any (·.grants addr)

theorem any_never (c : Option Coprocessor) : (c.any fun _ => false) = false := by
  cases c <;> rfl

section Ask

variable {α : Type} {f : Coprocessor → α × Coprocessor} {grant : Coprocessor → Bool}
  (hf : ∀ d granted ns, ∃ ms,
    f (Coprocessor.observed d granted ns) = ((f d).1, d.observed (granted || grant d) ms))

include hf

theorem observes_askCoprocessor :
    Observes (fun h => h.askCoprocessor f) (fun h => h.coprocessor.any grant) := by
  intro h granted inner outer
  obtain ⟨regs, video, cursor, busy, coprocessor, notices⟩ := h
  cases coprocessor with
  | none => exact ⟨inner, outer, rfl⟩
  | some d =>
    obtain ⟨ms, hread⟩ := hf d granted inner
    refine ⟨#[], outer ++ ms, ?_⟩
    simp only [askCoprocessor, observed, Option.map_some, Option.any_some, hread]
    rfl

theorem observes_askEnabled :
    Observes (fun h => h.askEnabled f)
      (fun h => h.coprocessorEnabled && h.coprocessor.any grant) := by
  intro h granted inner outer
  have hswitch : (h.observed granted inner outer).coprocessorEnabled = h.coprocessorEnabled := by
    rw [coprocessorEnabled, coprocessorEnabled, observed]
    cases h.coprocessor <;> rfl
  simp only [askEnabled, hswitch]
  cases h.coprocessorEnabled with
  | true => simpa using observes_askCoprocessor hf h granted inner outer
  | false => exact ⟨inner, outer, by simp⟩

end Ask

theorem observes_bridgeRead :
    Observes (fun h => h.askEnabled (·.bridgeRead (h.regs.word bridgeAddress)))
      (fun h => h.grants (h.regs.word bridgeAddress)) := by
  intro h granted inner outer
  have hasked : Observes (·.askEnabled (·.bridgeRead (h.regs.word bridgeAddress)))
      (fun e => e.coprocessorEnabled && e.coprocessor.any (·.grants (h.regs.word bridgeAddress))) :=
    observes_askEnabled fun d granted ns => d.bridgeRead_observed granted ns _
  have hread := hasked h granted inner outer
  have hgrants : (h.coprocessorEnabled &&
      h.coprocessor.any (·.grants (h.regs.word bridgeAddress))) =
        h.grants (h.regs.word bridgeAddress) := by
    rw [coprocessorEnabled, grants]
    cases h.coprocessor with
    | none => rfl
    | some d =>
      show (d.enabled && (d.enabled && _)) = (d.enabled && _)
      rw [← Bool.and_assoc, Bool.and_self]
  dsimp only at hread
  rwa [hgrants] at hread

/-! ### The register window -/

/-- The offset is one of the data word of the bridge. -/
def ofBridgeData (offset : UInt32) : Bool :=
  bridgeData ≤ offset &&& 0xFFFF && offset &&& 0xFFFF ≤ 0x40F

/-- A read of bytes of the register window raises the grant flag: one of them is of the data word of
the bridge, and its address is one of the frame buffer. -/
def windowGrants (offsets : List UInt32) (h : HostChip) : Bool :=
  offsets.any ofBridgeData && h.grants (h.regs.word bridgeAddress)

theorem fetch8_data (h : HostChip) {offset : UInt32}
    (hdata : (bridgeData ≤ offset && offset ≤ 0x40F) = true) :
    h.fetch8 offset =
      ((h.askEnabled (·.bridgeRead (h.regs.word bridgeAddress))).1.elim (h.regs.byte offset)
          (Word.lane · (offset - bridgeData)),
        (h.askEnabled (·.bridgeRead (h.regs.word bridgeAddress))).2) := by
  have hstatus : offset ≠ 0x405 := by
    rintro rfl
    exact absurd hdata (by decide)
  unfold fetch8
  rw [if_neg hstatus, if_pos hdata]
  dsimp only
  cases (h.askEnabled (·.bridgeRead (h.regs.word bridgeAddress))).1 <;> rfl

theorem fetch8_stored (h : HostChip) {offset : UInt32}
    (hdata : ¬ (bridgeData ≤ offset && offset ≤ 0x40F) = true) :
    h.fetch8 offset =
      (if offset = 0x405 then h.statusByte (h.regs.byte offset) else h.regs.byte offset, h) := by
  unfold fetch8
  dsimp only
  by_cases hstatus : offset = 0x405
  · rw [if_pos hstatus, if_pos hstatus]
  · rw [if_neg hstatus, if_neg hstatus, if_neg hdata]

theorem statusByte_observed (h : HostChip) (granted : Bool) (inner outer : Array Notice)
    (stored : UInt8) :
    (h.observed granted inner outer).statusByte stored = h.statusByte stored := by
  rw [statusByte, statusByte, observed]
  cases h.coprocessor <;> rfl

theorem observes_fetch8 (offset : UInt32) :
    Observes (·.fetch8 (offset &&& 0xFFFF)) (windowGrants [offset]) := by
  intro h granted inner outer
  by_cases hdata : ofBridgeData offset = true
  · have hgrants : windowGrants [offset] h = h.grants (h.regs.word bridgeAddress) := by
      simp [windowGrants, hdata]
    obtain ⟨inner', outer', hread⟩ := observes_bridgeRead h granted inner outer
    refine ⟨inner', outer', ?_⟩
    dsimp only at hread ⊢
    rw [hgrants, fetch8_data _ hdata, fetch8_data _ hdata, hread]
    rfl
  · have hgrants : windowGrants [offset] h = false := by
      simp [windowGrants, hdata]
    refine ⟨inner, outer, ?_⟩
    dsimp only
    rw [hgrants, Bool.or_false, fetch8_stored _ hdata, fetch8_stored _ hdata, statusByte_observed]
    rfl

theorem observes_windowRead8 (offset : UInt32) :
    Observes (·.windowRead8 offset) (windowGrants [offset]) := by
  intro h granted inner outer
  obtain ⟨inner', outer', hread⟩ := observes_fetch8 offset h granted inner outer
  refine ⟨inner',
    outer'.push (.windowRead (offset &&& 0xFFFF) (h.fetch8 (offset &&& 0xFFFF)).1), ?_⟩
  simp only [windowRead8, hread]
  rfl

theorem windowGrants_cons (offset : UInt32) (offsets : List UInt32) (h : HostChip) :
    windowGrants (offset :: offsets) h = (windowGrants [offset] h || windowGrants offsets h) := by
  simp only [windowGrants, List.any_cons, List.any_nil, Bool.or_false, Bool.and_or_distrib_right]

theorem observes_windowRead16 (offset : UInt32) :
    Observes (·.windowRead16 offset) (windowGrants [offset, offset + 1]) := by
  have hpair : Observes (·.windowRead16 offset)
      (fun h => windowGrants [offset] h || windowGrants [offset + 1] h) :=
    (observes_windowRead8 offset).bind fun b₀ =>
      (observes_windowRead8 (offset + 1)).map fun b₁ => Word.ofHalfLanes b₀ b₁
  exact hpair.of_eq fun h => (windowGrants_cons _ _ h).symm

theorem observes_windowRead32 (offset : UInt32) :
    Observes (·.windowRead32 offset)
      (windowGrants [offset, offset + 1, offset + 2, offset + 3]) := by
  have hword : Observes (·.windowRead32 offset) (fun h =>
      windowGrants [offset] h || (windowGrants [offset + 1] h ||
        (windowGrants [offset + 2] h || windowGrants [offset + 3] h))) :=
    (observes_windowRead8 offset).bind fun b₀ =>
      (observes_windowRead8 (offset + 1)).bind fun b₁ =>
        (observes_windowRead8 (offset + 2)).bind fun b₂ =>
          (observes_windowRead8 (offset + 3)).map fun b₃ => Word.ofLanes b₀ b₁ b₂ b₃
  exact hword.of_eq fun h => by
    rw [windowGrants_cons offset [_, _, _], windowGrants_cons (offset + 1) [_, _],
      windowGrants_cons (offset + 2) [_]]

/-! ### Accesses over the bus -/

/-- The access reads. -/
def Access.reads : Access → Bool
  | .read8 _ | .read16 _ | .read32 _ => true
  | .linearRead8 _ | .linearRead16 _ | .linearRead32 _ | .apertureRead _ => true
  | _ => false

/-- The access raises the grant flag. -/
def Access.grants (h : HostChip) : Access → Bool
  | .read8 offset => windowGrants [offset] h
  | .read16 offset => windowGrants [offset, offset + 1] h
  | .read32 offset => windowGrants [offset, offset + 1, offset + 2, offset + 3] h
  | _ => false

theorem observes_apertureRead (addr : UInt32) :
    Observes (·.apertureRead addr) (fun _ => false) := by
  have hasked : Observes (·.askEnabled (·.read32 addr))
      (fun h => h.coprocessorEnabled && h.coprocessor.any fun _ => false) := by
    refine observes_askEnabled fun d granted ns => ?_
    rw [Bool.or_false]
    exact d.read32_observed granted ns addr
  exact (hasked.map (·.getD 0)).of_eq fun h => by rw [any_never, Bool.and_false]

theorem observes_access {a : Access} (ha : a.reads) : Observes (·.access a) (a.grants ·) := by
  cases a with
  | read8 offset => exact (observes_windowRead8 offset).map fun v => some v.toUInt32
  | read16 offset => exact (observes_windowRead16 offset).map fun v => some v.toUInt32
  | read32 offset => exact (observes_windowRead32 offset).map some
  | linearRead8 addr => exact .pure fun _ _ _ _ => rfl
  | linearRead16 addr => exact .pure fun _ _ _ _ => rfl
  | linearRead32 addr => exact .pure fun _ _ _ _ => rfl
  | apertureRead addr => exact (observes_apertureRead addr).map some
  | _ => exact absurd ha Bool.false_ne_true

end HostChip

/-! ### Accesses of a trace -/

namespace Trace

open HostChip (Observes)

/-- The access reads. -/
def Access.reads : Access → Bool
  | .transfer _ _ none => true
  | _ => false

/-- A read through the route raises the grant flag. -/
def Route.grants (h : HostChip) (addr : UInt32) : Route → Bool
  | .window8 => HostChip.windowGrants [addr] h
  | .window16 => HostChip.windowGrants [addr, addr + 1] h
  | .window32 => HostChip.windowGrants [addr, addr + 1, addr + 2, addr + 3] h
  | .bridge => h.grants addr
  | .aperture | .register => false

theorem demand_eq {α : Type} (h : HostChip) (f : Coprocessor → α × Coprocessor) :
    demand h f =
      ((h.askCoprocessor f).1.elim (.error .notAttached) .ok, (h.askCoprocessor f).2) := by
  unfold demand HostChip.askCoprocessor
  cases h.coprocessor <;> rfl

/-- A read of the coprocessor that a trace demands. -/
theorem observes_demand {α : Type} {f : Coprocessor → α × Coprocessor} {grant : Coprocessor → Bool}
    (hf : ∀ d granted ns, ∃ ms,
      f (Coprocessor.observed d granted ns) = ((f d).1, d.observed (granted || grant d) ms)) :
    Observes (demand · f) (fun h => h.coprocessor.any grant) := by
  have hasked := (HostChip.observes_askCoprocessor hf).map fun v =>
    (v.elim (.error .notAttached) Except.ok : Except Error α)
  simpa only [← demand_eq] using hasked

theorem observes_read (p : Route) (addr : UInt32) :
    Observes (p.read addr) (fun h => p.grants h addr) := by
  cases p with
  | window8 => exact (HostChip.observes_windowRead8 addr).map fun v => Except.ok v.toUInt32
  | window16 => exact (HostChip.observes_windowRead16 addr).map fun v => Except.ok v.toUInt32
  | window32 => exact (HostChip.observes_windowRead32 addr).map Except.ok
  | aperture => exact (HostChip.observes_apertureRead addr).map Except.ok
  | bridge => exact observes_demand fun d granted ns => d.bridgeRead_observed granted ns addr
  | register =>
    have hasked : Observes (demand · fun d => (d.readIndex addr, d))
        (fun h => h.coprocessor.any fun _ => false) :=
      observes_demand fun d granted ns => ⟨ns, by rw [Bool.or_false]; rfl⟩
    exact hasked.of_eq fun h => HostChip.any_never h.coprocessor

/-- The access raises the grant flag. -/
def Access.grants (h : HostChip) : Access → Bool
  | .transfer p addr none => p.grants h addr
  | _ => false

theorem observes_perform {a : Access} (ha : a.reads) : Observes a.perform (a.grants ·) := by
  cases a with
  | vsync => exact absurd ha Bool.false_ne_true
  | transfer p addr v =>
    cases v with
    | none => exact (observes_read p addr).map fun v => v.map fun v => some (p, addr, v)
    | some v => exact absurd ha Bool.false_ne_true

end Trace

/-! ### Sequences of reads -/

namespace HostChip

/-- Something asked of the board: over its bus, of its coprocessor, or by a trace. -/
inductive Query where
  | bus (a : Access)
  | coprocessor (op : Coprocessor.Operation)
  | trace (a : Trace.Access)

/-- What a board answers. -/
inductive Answer where
  | bus (v : Option UInt32)
  /-- A board without a coprocessor has none to answer. -/
  | coprocessor (r : Option Coprocessor.Reply)
  | trace (r : Except Error (Option (Trace.Route × UInt32 × UInt32)))

/-- Asks the board. -/
def ask (h : HostChip) : Query → Answer × HostChip
  | .bus a => (.bus (h.access a).1, (h.access a).2)
  | .coprocessor op =>
    (.coprocessor (h.askCoprocessor (·.perform op)).1, (h.askCoprocessor (·.perform op)).2)
  | .trace a => (.trace (a.perform h).1, (a.perform h).2)

/-- Asks one thing after the other: the answers and the state they lead to. -/
def asks (h : HostChip) : List Query → List Answer × HostChip
  | [] => ([], h)
  | q :: qs => ((h.ask q).1 :: ((h.ask q).2.asks qs).1, ((h.ask q).2.asks qs).2)

/-- The query reads. -/
def Query.reads : Query → Bool
  | .bus a => a.reads
  | .coprocessor op => op.reads
  | .trace a => a.reads

/-- The query raises the grant flag. -/
def Query.grants (h : HostChip) : Query → Bool
  | .bus a => a.grants h
  | .coprocessor op => op.bridged.any h.grants
  | .trace a => a.grants h

theorem any_grants (h : HostChip) (addrs : List UInt32) :
    (h.coprocessor.any fun d => addrs.any d.grants) = addrs.any h.grants := by
  obtain ⟨regs, video, cursor, busy, coprocessor, notices⟩ := h
  cases coprocessor with
  | none => induction addrs with
    | nil => rfl
    | cons addr addrs ih => exact ih
  | some d => rfl

theorem observes_ask {q : Query} (hq : q.reads) : Observes (·.ask q) (q.grants ·) := by
  cases q with
  | bus a => exact (observes_access hq).map Answer.bus
  | coprocessor op =>
    have hasked : Observes (·.askCoprocessor (·.perform op))
        (fun h => h.coprocessor.any fun d => op.bridged.any d.grants) :=
      observes_askCoprocessor fun d granted ns => d.perform_observed granted ns hq
    exact (hasked.of_eq fun h => h.any_grants op.bridged).map Answer.coprocessor
  | trace a => exact (Trace.observes_perform hq).map Answer.trace

theorem observes_asks {qs : List Query} (hqs : ∀ q ∈ qs, q.reads) :
    Observes (·.asks qs) (fun h => qs.any (·.grants h)) := by
  induction qs with
  | nil => exact .pure fun _ _ _ _ => rfl
  | cons q qs ih =>
    obtain ⟨hq, hqs⟩ := List.forall_mem_cons.mp hqs
    exact (observes_ask hq).bind fun a => (ih hqs).map (a :: ·)

/-- What reads answer, one after the other, is what each of them answers alone. -/
theorem asks_answers (h : HostChip) {qs : List Query} (hqs : ∀ q ∈ qs, q.reads) :
    (h.asks qs).1 = qs.map fun q => (h.ask q).1 := by
  induction qs with
  | nil => rfl
  | cons q qs ih =>
    obtain ⟨hq, hqs⟩ := List.forall_mem_cons.mp hqs
    obtain ⟨inner, outer, hstate⟩ := (observes_ask hq).state h
    have hrest : ((h.ask q).2.asks qs).1 = (h.asks qs).1 := by
      rw [hstate]
      exact (observes_asks hqs).answer h _ _ _
    rw [asks, List.map_cons, hrest, ih hqs]

/-- Reads only observe. Each read of a sequence answers as it does alone on the board before the
sequence, and so does any read after it. Of the board nothing changes but the grant flag of the
coprocessor, which is up in the end if it was up before or if one of the reads is one over the
bridge, made while the coprocessor is enabled, of an address of the frame buffer; and the
notices. -/
theorem reads_observe (h : HostChip) {qs : List Query} (hqs : ∀ q ∈ qs, q.reads) :
    (h.asks qs).1 = qs.map (fun q => (h.ask q).1) ∧
      (∃ inner outer, (h.asks qs).2 = h.observed (qs.any (·.grants h)) inner outer) ∧
        ∀ q : Query, q.reads → ((h.asks qs).2.ask q).1 = (h.ask q).1 := by
  obtain ⟨inner, outer, hstate⟩ := (observes_asks hqs).state h
  refine ⟨h.asks_answers hqs, ⟨inner, outer, hstate⟩, fun q hq => ?_⟩
  rw [hstate]
  exact (observes_ask hq).answer h _ _ _

/-- A board after power-on; its coprocessor is enabled and has granted nothing. -/
def observedBoard : HostChip := create .mb2 (some (.mb8, {}))

/-- A trace reads a word of the frame buffer over the bridge, and reads of a register and of the
data word of the bridge follow. -/
def frameReads : List Query :=
  [.trace (.transfer .bridge 0x10 none), .coprocessor (.readIndex 0), .bus (.read32 0x40C)]

theorem reads_observe_frameReads :
    observedBoard.coprocessor.map (·.pumaGrant) = some false ∧
      (observedBoard.asks frameReads).1 = frameReads.map (fun q => (observedBoard.ask q).1) ∧
        ∃ inner outer, (observedBoard.asks frameReads).2 =
          observedBoard.observed true inner outer := by
  have hreads : ∀ q ∈ frameReads, q.reads := by decide
  obtain ⟨hanswers, hstate, -⟩ := reads_observe observedBoard hreads
  exact ⟨rfl, hanswers, hstate⟩

end HostChip

end PumaBoard
