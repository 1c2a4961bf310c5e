import Mathlib.Logic.Function.Iterate
import PumaBoard.Proofs.Coprocessor.Frame
import PumaBoard.Proofs.Coprocessor.Steps

/-!
Buffer swaps are accounted for. Between a power-on or a reset and the next one no more swaps are
completed than were requested by writes of the swap command, whatever path the writes take, and a
swap is completed by taking its request back. Vertical syncs alone complete a requested swap when
the last pending one retires.
-/

namespace PumaBoard

/-! ### What changes the swaps -/

/-- What the effect of a register write does to the swaps. -/
def Effect.onSwap : Effect → Swap → Swap
  | .command .swapBuffer => Swap.request
  | .command .swapPend => Swap.append
  | _ => id

theorem Register.effect_eq_swapBuffer (r : Register) :
    r.descriptor.effect = .command .swapBuffer ↔ r = Register.swapBufferCommand := by
  revert r; decide +kernel

theorem Register.effect_eq_swapPend (r : Register) :
    r.descriptor.effect = .command .swapPend ↔ r = Register.swapPendCommand := by
  revert r; decide +kernel

namespace Coprocessor

/-- What a step does to the swaps. -/
def Step.onSwap : Step → Swap → Swap
  | .write r _ => r.descriptor.effect.onSwap
  | _ => id

/-- The step writes the swap command. -/
def Step.requestsSwap : Step → Bool
  | .write r _ => r = Register.swapBufferCommand
  | _ => false

/-- The step writes no command of the swaps. -/
def Step.sparesSwap : Step → Bool
  | .write r _ => r ≠ Register.swapBufferCommand && r ≠ Register.swapPendCommand
  | _ => true

section Swap

variable (d : Coprocessor)

theorem swap_submit (t : Triangle.Setup) : (d.submit t).swap = d.swap :=
  submit_of (fun e => e.swap = d.swap) (fun _ h => h) (fun _ h => h) (fun _ h => h) (fun h => h)
    t rfl

theorem swap_upload (tmu : Nat) : (d.upload tmu).swap = d.swap := by
  rw [upload_eq]
  split <;> rfl

theorem swap_fastFill : d.fastFill.swap = d.swap := by
  rw [fastFill_eq]
  split <;> rfl

theorem swap_execute (c : Command) :
    (d.execute c).swap = (Effect.command c).onSwap d.swap := by
  cases c with
  | triangle | floatTriangle => exact swap_submit ..
  | fastFill => exact swap_fastFill ..
  | nop | swapBuffer | swapPend => rfl

theorem swap_affect (e : Effect) (v : UInt32) : (d.affect e v).swap = e.onSwap d.swap := by
  cases e with
  | none | triangle | floatTriangle | fog => rfl
  | init n =>
    match n with
    | 0 | 1 | 2 | 3 | 4 | 5 => rfl
  | ring c =>
    show (d.writeRingControl c v).swap = d.swap
    rw [writeRingControl_eq, swap_noteAny]; rfl
  | command c => exact swap_execute ..

theorem swap_step (s : Step) : (d.step s).swap = s.onSwap d.swap := by
  cases s with
  | write r v => exact swap_affect ..
  | submit => exact swap_submit ..
  | fastFill => exact swap_fastFill ..
  | upload => exact swap_upload ..
  | countEntry => exact swap_countEntry ..
  | updateThreshold => exact swap_updateThreshold ..
  | _ => rfl

/-- The swaps after some steps follow from the swaps before them. -/
theorem swap_after (ss : List Step) :
    (d.after ss).swap = ss.foldl (fun swap s => s.onSwap swap) d.swap := by
  induction ss generalizing d with
  | nil => rfl
  | cons s ss ih => rw [after_cons, ih, swap_step]; rfl

theorem swap_perform {op : Operation} (hop : op.stepwise = true) :
    (d.perform op).2.swap = (d.steps op).foldl (fun swap s => s.onSwap swap) d.swap := by
  rw [← after_steps d hop, swap_after]

theorem swap_swapBuffers :
    d.swapBuffers.swap = if d.swap.requested then d.swap.complete else d.swap := by
  rw [swapBuffers_eq]
  split <;> rfl

theorem swap_vsync :
    d.vsync.swap =
      if d.enabled && d.swap.pending > 0 && d.swap.requested then
        if d.swap.retire.pending = 0 then d.swap.retire.complete else d.swap.retire
      else d.swap := by
  rw [vsync_eq]
  split
  · next h =>
    have hreq : (d.setSwap d.swap.retire).swap.requested = true := by
      rw [Bool.and_eq_true] at h
      exact h.2
    split
    · rw [swap_swapBuffers, if_pos hreq]; rfl
    · rfl
  · rfl

end Swap

end Coprocessor

/-! ### Accounts -/

/-- The swaps are accounted for by `n` requests: those completed and the one outstanding are no
more than that, and at most the largest number is pending. -/
structure Swap.Accounted (s : Swap) (n : Nat) : Prop where
  pending : s.pending ≤ Swap.maxPending
  completed : s.completed.toNat + s.requested.toNat ≤ n

namespace Swap

theorem toNat_pending_sub_one {s : Swap} (h : s.pending ≠ 0) :
    (s.pending - 1).toNat + 1 = s.pending.toNat := by
  have hpos : 1 ≤ s.pending := UInt8.pos_iff_ne_zero.mpr h
  rw [UInt8.toNat_sub_of_le _ _ hpos]
  exact Nat.sub_add_cancel (UInt8.le_iff_toNat_le.mp hpos)

theorem toNat_completed_add_one_le (s : Swap) :
    (s.completed + 1).toNat ≤ s.completed.toNat + 1 := by
  rw [UInt64.toNat_add]
  exact Nat.mod_le ..

namespace Accounted

variable {s : Swap} {n : Nat}

theorem zero : ({} : Swap).Accounted 0 := ⟨by decide, by decide⟩

/-- The least account of swaps of which no more than the largest number are pending. -/
theorem of_pending (h : s.pending ≤ maxPending) :
    s.Accounted (s.completed.toNat + s.requested.toNat) :=
  ⟨h, Nat.le_refl _⟩

theorem mono {m : Nat} (h : s.Accounted n) (hle : n ≤ m) : s.Accounted m :=
  ⟨h.pending, Nat.le_trans h.completed hle⟩

theorem retire (h : s.Accounted n) (hp : s.pending ≠ 0) : s.retire.Accounted n := by
  refine ⟨?_, h.completed⟩
  have hle := UInt8.le_iff_toNat_le.mp h.pending
  have hsub := toNat_pending_sub_one hp
  show s.pending - 1 ≤ maxPending
  rw [UInt8.le_iff_toNat_le]
  omega

theorem request (h : s.Accounted n) : s.request.Accounted (n + 1) := by
  constructor
  · show (if s.pending = 0 then 0 else s.pending - 1) ≤ maxPending
    split
    · decide
    · next hp => exact (h.retire hp).pending
  · have := h.completed
    show s.completed.toNat + 1 ≤ n + 1
    omega

theorem append (h : s.Accounted n) : s.append.Accounted n := by
  refine ⟨?_, h.completed⟩
  show (if s.pending + 1 < maxPending then s.pending + 1 else maxPending) ≤ maxPending
  split
  · next hlt => exact UInt8.le_of_lt hlt
  · decide

/-- A completed swap takes the place of the request it answers. -/
theorem complete (h : s.Accounted n) (hr : s.requested = true) : s.complete.Accounted n := by
  refine ⟨h.pending, ?_⟩
  have hle := h.completed
  have hadd := s.toNat_completed_add_one_le
  rw [hr] at hle
  show (s.completed + 1).toNat + 0 ≤ n
  exact Nat.le_trans hadd hle

/-- A step keeps the account, with one more request if it writes the swap command. -/
theorem step (h : s.Accounted n) (t : Coprocessor.Step) :
    (t.onSwap s).Accounted (n + t.requestsSwap.toNat) := by
  cases t with
  | write r v =>
    show (r.descriptor.effect.onSwap s).Accounted
      (n + (decide (r = Register.swapBufferCommand)).toNat)
    have hiff := r.effect_eq_swapBuffer
    by_cases hr : r = Register.swapBufferCommand
    · rw [hiff.mpr hr, decide_eq_true hr]
      exact h.request
    · have hne : r.descriptor.effect ≠ .command .swapBuffer := fun he => hr (hiff.mp he)
      rw [decide_eq_false hr]
      cases he : r.descriptor.effect with
      | command c =>
        cases c with
        | swapBuffer => exact absurd he hne
        | swapPend => exact h.append
        | _ => exact h
      | _ => exact h
  | _ => exact h

theorem steps (h : s.Accounted n) (ts : List Coprocessor.Step) :
    (ts.foldl (fun s t => t.onSwap s) s).Accounted
      (n + ts.countP Coprocessor.Step.requestsSwap) := by
  induction ts generalizing s n with
  | nil => exact h
  | cons t ts ih =>
    refine (ih (h.step t)).mono ?_
    rw [List.countP_cons]
    cases t.requestsSwap with
    | false => exact Nat.le_refl _
    | true =>
      show n + 1 + _ ≤ n + (_ + 1)
      omega

end Accounted

end Swap

namespace Coprocessor

/-! ### Accounts of a run -/

/-- The operation is a reset. -/
def Operation.resets : Operation → Bool
  | .reset => true
  | _ => false

/-- How often the swap command has been written since the last reset, when it had been written
`n` times before the run. -/
def swapRequests (d : Coprocessor) (n : Nat) : List Operation → Nat
  | [] => n
  | op :: ops =>
    (d.perform op).2.swapRequests
      (if op.resets then 0 else n + (d.steps op).countP Step.requestsSwap) ops

section Account

variable {d : Coprocessor} {n : Nat}

theorem accounted_swapBuffers (h : d.swap.Accounted n) : d.swapBuffers.swap.Accounted n := by
  rw [swap_swapBuffers]
  split
  · next hr => exact h.complete hr
  · exact h

theorem accounted_vsync (h : d.swap.Accounted n) : d.vsync.swap.Accounted n := by
  rw [swap_vsync]
  split
  · next hready =>
    simp only [Bool.and_eq_true, decide_eq_true_eq] at hready
    obtain ⟨⟨-, hp⟩, hr⟩ := hready
    have hretire := h.retire (UInt8.pos_iff_ne_zero.mp hp)
    split
    · exact hretire.complete hr
    · exact hretire
  · exact h

/-- An operation keeps the account. -/
theorem accounted_perform {op : Operation} (hop : op.restores = false) (h : d.swap.Accounted n) :
    (d.perform op).2.swap.Accounted
      (if op.resets then 0 else n + (d.steps op).countP Step.requestsSwap) := by
  cases op with
  | reset => exact .zero
  | swapBuffers => exact accounted_swapBuffers h
  | vsync => exact accounted_vsync h
  | restore => simp [Operation.restores] at hop
  | _ => rw [swap_perform d rfl]; exact h.steps _

theorem accounted_run {ops : List Operation} (hops : ∀ op ∈ ops, op.restores = false)
    (h : d.swap.Accounted n) : (d.run ops).2.swap.Accounted (d.swapRequests n ops) := by
  induction ops generalizing d n with
  | nil => exact h
  | cons op ops ih =>
    obtain ⟨hop, hrest⟩ := List.forall_mem_cons.mp hops
    exact ih hrest (accounted_perform hop h)

theorem completed_onSwap (s : Step) (swap : Swap) :
    (s.onSwap swap).completed = swap.completed := by
  cases s with
  | write r v =>
    show (r.descriptor.effect.onSwap swap).completed = swap.completed
    cases r.descriptor.effect with
    | command c => cases c <;> rfl
    | _ => rfl
  | _ => rfl

theorem completed_steps (ss : List Step) (swap : Swap) :
    (ss.foldl (fun swap s => s.onSwap swap) swap).completed = swap.completed := by
  induction ss generalizing swap with
  | nil => rfl
  | cons s ss ih => rw [List.foldl_cons, ih, completed_onSwap]

/-- Swaps are completed one at a time, each by taking its request back. -/
theorem completed_perform (d : Coprocessor) {op : Operation} (hop : op.restores = false)
    (hreset : op.resets = false) :
    (d.perform op).2.swap.completed = d.swap.completed ∨
      (d.swap.requested = true ∧ (d.perform op).2.swap.requested = false ∧
        (d.perform op).2.swap.completed = d.swap.completed + 1) := by
  cases op with
  | reset => simp [Operation.resets] at hreset
  | restore => simp [Operation.restores] at hop
  | swapBuffers =>
    show d.swapBuffers.swap.completed = _ ∨ _ ∧ d.swapBuffers.swap.requested = _ ∧
      d.swapBuffers.swap.completed = _
    rw [swap_swapBuffers]
    cases hr : d.swap.requested with
    | false => exact .inl rfl
    | true => exact .inr ⟨rfl, rfl, rfl⟩
  | vsync =>
    show d.vsync.swap.completed = _ ∨ _ ∧ d.vsync.swap.requested = _ ∧ d.vsync.swap.completed = _
    rw [swap_vsync]
    split
    · next hready =>
      rw [Bool.and_eq_true] at hready
      split
      · exact .inr ⟨hready.2, rfl, rfl⟩
      · exact .inl rfl
    · exact .inl rfl
  | _ => left; rw [swap_perform d rfl, completed_steps]

/-- The status register shows the pending swaps in bits 28 to 30. -/
theorem readIndex_status (h : d.swap.pending ≤ Swap.maxPending) :
    (d.readIndex 0 >>> 28) &&& 7 = d.swap.pending.toUInt32 := by
  have hbits (s : Status) : ∀ p : Fin 8,
      ((s.bits ||| ((UInt8.ofNat p.val &&& 7).toUInt32 <<< 28)) >>> 28) &&& 7 =
        (UInt8.ofNat p.val).toUInt32 := by
    obtain ⟨a, b, c, e, f⟩ := s
    revert a b c e f
    decide
  have hlt : d.swap.pending.toNat < 8 := Nat.lt_succ_of_le (UInt8.le_iff_toNat_le.mp h)
  have hshown := hbits d.status ⟨d.swap.pending.toNat, hlt⟩
  rw [UInt8.ofNat_toNat] at hshown
  exact hshown

end Account

end Coprocessor

/-! ### Vertical syncs -/

/-- The swaps after a vertical sync of the enabled coprocessor. -/
def Swap.sync (s : Swap) : Swap :=
  if s.pending > 0 && s.requested then
    if s.retire.pending = 0 then s.retire.complete else s.retire
  else s

namespace Swap

variable {s : Swap}

theorem sync_of_not_requested (h : s.requested = false) : s.sync = s :=
  if_neg (by simp [h])

theorem sync_of_lt (hr : s.requested = true) (hp : 1 < s.pending.toNat) :
    s.sync = s.retire := by
  have hne : s.pending ≠ 0 := by
    intro h
    rw [h] at hp
    exact absurd hp (by decide)
  have hpos : s.pending > 0 := UInt8.pos_iff_ne_zero.mpr hne
  have hsub := toNat_pending_sub_one hne
  have hleft : s.retire.pending ≠ 0 := by
    intro h
    have h0 : (s.pending - 1).toNat = 0 := congrArg UInt8.toNat h
    omega
  rw [sync, if_pos (by simp [hr, hpos]), if_neg hleft]

theorem sync_of_one (hr : s.requested = true) (hp : s.pending = 1) :
    s.sync = { pending := 0, requested := false, completed := s.completed + 1 } := by
  have hpos : s.pending > 0 := by
    rw [hp]
    decide
  have hlast : s.retire.pending = 0 := by
    show s.pending - 1 = 0
    rw [hp]
    decide
  rw [sync, if_pos (by simp [hr, hpos]), if_pos hlast, complete, hlast]; rfl

/-- Before the last pending swap vertical syncs only retire pending swaps. -/
theorem iterate_sync (hr : s.requested = true) {n : Nat} (hn : n < s.pending.toNat) :
    (sync^[n] s).pending.toNat + n = s.pending.toNat ∧
      (sync^[n] s).requested = true ∧ (sync^[n] s).completed = s.completed := by
  induction n with
  | zero => exact ⟨rfl, hr, rfl⟩
  | succ n ih =>
    obtain ⟨hp, hr', hc⟩ := ih (Nat.lt_of_succ_lt hn)
    have hgt : 1 < (sync^[n] s).pending.toNat := by omega
    have hne : (sync^[n] s).pending ≠ 0 := by
      intro h
      rw [h] at hgt
      exact absurd hgt (by decide)
    have hsub := toNat_pending_sub_one hne
    rw [Function.iterate_succ_apply', sync_of_lt hr' hgt]
    refine ⟨?_, hr', hc⟩
    show ((sync^[n] s).pending - 1).toNat + (n + 1) = s.pending.toNat
    omega

/-- The vertical sync that retires the last pending swap completes the requested one, and the ones
after it find nothing to do. -/
theorem iterate_sync_of_le (hr : s.requested = true) (hp : s.pending ≠ 0) {n : Nat}
    (hn : s.pending.toNat ≤ n) :
    sync^[n] s = { pending := 0, requested := false, completed := s.completed + 1 } := by
  have hpos : 0 < s.pending.toNat := UInt8.pos_iff_ne_zero.mpr hp
  obtain ⟨hlast, hr', hc⟩ := iterate_sync hr (Nat.sub_lt hpos Nat.one_pos)
  have hone : (sync^[s.pending.toNat - 1] s).pending = 1 := by
    rw [← UInt8.toNat_inj]
    show _ = 1
    omega
  have hswap : sync^[s.pending.toNat] s =
      { pending := 0, requested := false, completed := s.completed + 1 } := by
    rw [← Nat.sub_add_cancel hpos, Function.iterate_succ_apply', sync_of_one hr' hone, hc]
  rw [← Nat.sub_add_cancel hn, Function.iterate_add_apply, hswap]
  exact Function.iterate_fixed (sync_of_not_requested rfl) _

end Swap

namespace Coprocessor

/-- The operation is a vertical sync. -/
def Operation.syncs : Operation → Bool
  | .vsync => true
  | _ => false

/-- Nothing but vertical syncs of the enabled coprocessor touches the swaps in a run. -/
def AwaitsSyncs (d : Coprocessor) : List Operation → Prop
  | [] => True
  | op :: ops =>
    (if op.syncs then d.enabled = true
      else op.stepwise = true ∧ ∀ s ∈ d.steps op, s.sparesSwap = true) ∧
    (d.perform op).2.AwaitsSyncs ops

section Syncs

variable {d : Coprocessor}

theorem onSwap_of_spares {s : Step} (h : s.sparesSwap = true) (swap : Swap) :
    s.onSwap swap = swap := by
  cases s with
  | write r v =>
    simp only [Step.sparesSwap, Bool.and_eq_true, decide_eq_true_eq] at h
    obtain ⟨hbuffer, hpend⟩ := h
    show r.descriptor.effect.onSwap swap = swap
    cases he : r.descriptor.effect with
    | command c =>
      cases c with
      | swapBuffer => exact absurd (r.effect_eq_swapBuffer.mp he) hbuffer
      | swapPend => exact absurd (r.effect_eq_swapPend.mp he) hpend
      | _ => rfl
    | _ => rfl
  | _ => rfl

theorem steps_of_spares {ss : List Step} (h : ∀ s ∈ ss, s.sparesSwap = true) (swap : Swap) :
    ss.foldl (fun swap s => s.onSwap swap) swap = swap := by
  induction ss with
  | nil => rfl
  | cons s ss ih =>
    obtain ⟨hs, hss⟩ := List.forall_mem_cons.mp h
    rw [List.foldl_cons, onSwap_of_spares hs, ih hss]

theorem swap_vsync_of_enabled (h : d.enabled = true) : d.vsync.swap = d.swap.sync := by
  rw [swap_vsync, h]; rfl

/-- In such a run the swaps change from sync to sync. -/
theorem swap_run {ops : List Operation} (h : d.AwaitsSyncs ops) :
    (d.run ops).2.swap = Swap.sync^[ops.countP Operation.syncs] d.swap := by
  induction ops generalizing d with
  | nil => rfl
  | cons op ops ih =>
    obtain ⟨hop, hrest⟩ := h
    rw [List.countP_cons]
    refine (ih hrest).trans ?_
    split at hop
    · next hs =>
      rw [if_pos hs, Function.iterate_succ_apply]
      cases op with
      | vsync => exact congrArg (Swap.sync^[ops.countP Operation.syncs]) (swap_vsync_of_enabled hop)
      | _ => simp [Operation.syncs] at hs
    · next hs =>
      rw [if_neg hs, swap_perform d hop.1, steps_of_spares hop.2]; rfl

theorem vsync_of_not_requested (h : d.swap.requested = false) : d.vsync = d := by
  rw [vsync_eq, if_neg (by simp [h])]

end Syncs

/-! ### The swaps of a run -/

/-- A coprocessor just made or just reset. -/
def Fresh (d : Coprocessor) : Prop := (∃ mode, d = create mode) ∨ ∃ e : Coprocessor, d = e.reset

/-- **Swaps are neither invented nor counted twice.** After a run without restores from a power-on
or a reset at most seven swaps are pending and the status register shows their number; the swaps
completed and the one outstanding are no more than the requests; and only the operation that takes a
request back completes a swap. While a requested swap waits, in whatever state, for vertical syncs
alone, each of them retires one pending swap; the one that retires the last completes the requested
swap, and those after it find nothing to do. The count of completed swaps wraps at the end of its
type, where a program that checks its sums stops. -/
theorem swaps_accounted {start : Coprocessor} (hstart : start.Fresh) {ops : List Operation}
    (hops : ∀ op ∈ ops, op.restores = false) :
    ((start.run ops).2.swap.pending ≤ 7 ∧
      ((start.run ops).2.readIndex 0 >>> 28) &&& 7 = (start.run ops).2.swap.pending.toUInt32 ∧
      (start.run ops).2.swap.completed.toNat +
          (if (start.run ops).2.swap.requested then 1 else 0) ≤ start.swapRequests 0 ops ∧
      ∀ op, op.restores = false →
        (start.run ops).2.swap.completed < ((start.run ops).2.perform op).2.swap.completed →
        (start.run ops).2.swap.requested = true ∧
          ((start.run ops).2.perform op).2.swap.requested = false ∧
          ((start.run ops).2.perform op).2.swap.completed =
            (start.run ops).2.swap.completed + 1) ∧
    ∀ d : Coprocessor, d.swap.requested = true → d.swap.pending > 0 →
      ∀ waiting, d.AwaitsSyncs waiting →
        if waiting.countP Operation.syncs < d.swap.pending.toNat then
          (d.run waiting).2.swap.pending.toNat + waiting.countP Operation.syncs =
              d.swap.pending.toNat ∧
            (d.run waiting).2.swap.requested = true ∧
            (d.run waiting).2.swap.completed = d.swap.completed
        else
          (d.run waiting).2.swap =
              { pending := 0, requested := false, completed := d.swap.completed + 1 } ∧
            (d.run waiting).2.vsync = (d.run waiting).2 := by
  have hzero : start.swap.Accounted 0 := by
    rcases hstart with ⟨mode, rfl⟩ | ⟨e, rfl⟩
    · exact .zero
    · exact .zero
  have hall := accounted_run hops hzero
  refine ⟨⟨hall.pending, readIndex_status hall.pending, ?_, fun op hop hgrows => ?_⟩,
    fun d hr hp waiting hw => ?_⟩
  · have hle := hall.completed
    cases hr : (start.run ops).2.swap.requested <;> simpa [hr] using hle
  · cases hreset : op.resets with
    | true =>
      cases op with
      | reset => exact absurd hgrows UInt64.not_lt_zero
      | _ => simp [Operation.resets] at hreset
    | false =>
      rcases completed_perform (start.run ops).2 hop hreset with hsame | hswap
      · rw [hsame] at hgrows
        exact absurd hgrows (UInt64.lt_irrefl _)
      · exact hswap
  · have hswap := swap_run hw
    split
    · next hlt =>
      rw [hswap]
      obtain ⟨hp', hr', hc⟩ := Swap.iterate_sync hr hlt
      exact ⟨hp', hr', hc⟩
    · next hge =>
      have hend := Swap.iterate_sync_of_le hr (UInt8.pos_iff_ne_zero.mp hp)
        (Nat.le_of_not_lt hge)
      rw [hend] at hswap
      exact ⟨hswap, vsync_of_not_requested (by rw [hswap])⟩

/-- Three swaps appended and one requested, which uses up one of them. -/
def threeAppended : List Operation :=
  [.writeIndex 0x48 0, .writeIndex 0x48 0, .writeIndex 0x48 0, .writeIndex 0x46 0]

/-- The second of two vertical syncs, with a register write between them, completes the swap. -/
theorem swaps_accounted_three_appended :
    (create .mb8).Fresh ∧ (∀ op ∈ threeAppended, op.restores = false) ∧
      ((create .mb8).run threeAppended).2.swap.completed.toNat + 1 ≤
        (create .mb8).swapRequests 0 threeAppended ∧
      ((create .mb8).run threeAppended).2.swap = { pending := 2, requested := true } ∧
      ((create .mb8).run threeAppended).2.AwaitsSyncs [.vsync, .writeIndex 0x56 1, .vsync] ∧
      (((create .mb8).run threeAppended).2.run [.vsync, .writeIndex 0x56 1, .vsync]).2.swap =
        { pending := 0, requested := false, completed := 1 } := by
  have hfresh : (create .mb8).Fresh := .inl ⟨_, rfl⟩
  have hops : ∀ op ∈ threeAppended, op.restores = false := by
    simp [threeAppended, Operation.restores]
  have hswap : ((create .mb8).run threeAppended).2.swap = { pending := 2, requested := true } := by
    decide +kernel
  have hawaits :
      ((create .mb8).run threeAppended).2.AwaitsSyncs [.vsync, .writeIndex 0x56 1, .vsync] := by
    refine ⟨by decide +kernel, ⟨rfl, fun s hs => ?_⟩, by decide +kernel, trivial⟩
    have hsteps : s = .write Register.colour0 1 := List.mem_singleton.mp hs
    rw [hsteps]
    decide
  obtain ⟨⟨-, -, hle, -⟩, hsyncs⟩ := swaps_accounted hfresh hops
  have hend := hsyncs _ (by rw [hswap]) (by rw [hswap]; decide) _ hawaits
  rw [hswap] at hle hend
  exact ⟨hfresh, hops, hle, hswap, hawaits, hend.1⟩

end Coprocessor

end PumaBoard
