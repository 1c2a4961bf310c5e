import PumaBoard.Proofs.Arithmetic.InRange

/-!
Overflow of a run. A restore takes over whatever swaps a snapshot claims, so a run is free of
overflows only if its snapshots claim no more pending swaps than the largest number and leave room
for the swaps still to be completed. Where sums are checked a run stops just where its arithmetic
leaves its range, as it does when a swap is appended to as many as their type holds.
-/

namespace PumaBoard

/-- No more swaps are pending than the largest number, and `n` more can be completed. -/
structure Swap.Roomy (s : Swap) (n : Nat) : Prop where
  pending : s.pending ≤ Swap.maxPending
  completed : s.completed.toNat + n < 2 ^ 64

namespace Coprocessor

open ExactResult

/-! ### Completed swaps -/

/-- The operation completes a swap: it counts one more, and is no reset and no restore. -/
def completesSwap (d : Coprocessor) (op : Operation) : Bool :=
  !op.resets && !op.restores && (d.perform op).2.swap.completed ≠ d.swap.completed

/-- The number of swaps that a run completes. -/
def completions (d : Coprocessor) : List Operation → Nat
  | [] => 0
  | op :: ops => (d.completesSwap op).toNat + (d.perform op).2.completions ops

section Runs

variable {d : Coprocessor} {op : Operation}

theorem completed_add_one_ne (n : UInt64) : n + 1 ≠ n := by
  intro h
  have hn := n.toNat_lt
  have hsum := congrArg UInt64.toNat h
  rw [UInt64.toNat_add, UInt64.toNat_one] at hsum
  omega

theorem completesSwap_of_completed (hreset : op.resets = false) (hrestore : op.restores = false)
    (h : (d.perform op).2.swap.completed = d.swap.completed + 1) : d.completesSwap op = true := by
  have hne : (d.perform op).2.swap.completed ≠ d.swap.completed := by
    rw [h]
    exact completed_add_one_ne _
  simp [completesSwap, hreset, hrestore, hne]

/-- An operation does not stop the program if there is room for the swap it completes. -/
theorem stops_of_roomy (h : d.swap.Roomy (d.completesSwap op).toNat) : d.stops op = false := by
  -- the room counts a completed swap, so it is enough that the operation is seen to complete one
  have hcan (hc : d.completesSwap op = true) : d.swap.canComplete = true := by
    have hroom := h.completed
    rw [hc] at hroom
    exact decide_eq_true hroom
  cases op with
  | swapBuffers =>
    cases hr : d.swap.requested with
    | false => rw [stops, hr, Bool.false_and]
    | true =>
      have hc : d.completesSwap .swapBuffers = true := by
        refine completesSwap_of_completed rfl rfl ?_
        show d.swapBuffers.swap.completed = _
        rw [swap_swapBuffers, if_pos hr]; rfl
      rw [stops, hcan hc, Bool.not_true, Bool.and_false]
  | vsync =>
    cases hready : d.enabled && d.swap.pending > 0 && d.swap.requested with
    | false => rw [stops, hready, Bool.false_and, Bool.false_and]
    | true =>
      by_cases h0 : d.swap.retire.pending = 0
      · have hc : d.completesSwap .vsync = true := by
          refine completesSwap_of_completed rfl rfl ?_
          show d.vsync.swap.completed = _
          rw [swap_vsync, if_pos hready, if_pos h0]; rfl
        rw [stops, hcan hc, Bool.not_true, Bool.and_false]
      · rw [stops, decide_eq_false h0, Bool.and_false, Bool.false_and]
  | _ => exact (Guarded.steps _).goesOn h.pending

/-- The room that an operation leaves. -/
theorem roomy_perform (hrestore : op.restores = false) {n : Nat} (hn : n < 2 ^ 32)
    (h : d.swap.Roomy ((d.completesSwap op).toNat + n)) : (d.perform op).2.swap.Roomy n := by
  refine ⟨(accounted_perform hrestore (.of_pending h.pending)).pending, ?_⟩
  have hroom := h.completed
  cases hreset : op.resets with
  | true =>
    cases op with
    | reset =>
      show (0 : UInt64).toNat + n < 2 ^ 64
      rw [UInt64.toNat_zero]
      omega
    | _ => simp [Operation.resets] at hreset
  | false =>
    rcases completed_perform d hrestore hreset with hsame | ⟨-, -, hnext⟩
    · rw [hsame]
      omega
    · have hle := d.swap.toNat_completed_add_one_le
      rw [completesSwap_of_completed hreset hrestore hnext] at hroom
      rw [hnext]
      simp only [Bool.toNat_true] at hroom
      omega

theorem swap_restore {r : Coprocessor} {s : Snapshot} (h : d.restore s = .ok r) :
    r.swap = s.swap := by
  obtain ⟨t, rfl⟩ := takeOver_of_restore h
  rfl

theorem roomy_next {n : Nat} (hn : n < 2 ^ 32)
    (hs : ∀ s, op = .restore s → s.swap.Roomy (2 ^ 32 - 1))
    (h : d.swap.Roomy ((d.completesSwap op).toNat + n)) : (d.perform op).2.swap.Roomy n := by
  cases op with
  | restore s =>
    obtain ⟨hp, hc⟩ := hs s rfl
    cases hr : d.restore s with
    | ok r =>
      rw [perform_restore hr, swap_restore hr]
      exact ⟨hp, by omega⟩
    | error e =>
      have hroom := h.completed
      rw [perform_refused hr]
      exact ⟨h.pending, by omega⟩
  | _ => exact roomy_perform rfl hn h

theorem allFit_run {ops : List Operation}
    (hs : ∀ s, .restore s ∈ ops → s.swap.Roomy (2 ^ 32 - 1))
    (hn : d.completions ops < 2 ^ 32) (h : d.swap.Roomy (d.completions ops)) :
    AllFit (d.runResults ops) ∧ (d.run ops).2.swap.pending ≤ Swap.maxPending := by
  induction ops generalizing d with
  | nil => exact ⟨allFit_nil, h.pending⟩
  | cons op ops ih =>
    have hn' : (d.perform op).2.completions ops < 2 ^ 32 :=
      Nat.lt_of_le_of_lt (Nat.le_add_left ..) hn
    have hnext : (d.perform op).2.swap.Roomy ((d.perform op).2.completions ops) :=
      roomy_next hn' (fun s hop => hs s (hop ▸ List.mem_cons_self)) h
    have hop : d.swap.Roomy (d.completesSwap op).toNat :=
      ⟨h.pending, Nat.lt_of_le_of_lt (Nat.add_le_add_left (Nat.le_add_right ..) _) h.completed⟩
    obtain ⟨hrest, hpending⟩ := ih (fun s hmem => hs s (List.mem_cons_of_mem _ hmem)) hn' hnext
    have hresults : AllFit (d.results op) := (d.allFit_results_iff op).mpr (stops_of_roomy hop)
    exact ⟨allFit_append hresults hrest, hpending⟩

/-- **Where sums are checked a run stops just where its arithmetic leaves its range.** -/
theorem stopped_run (d : Coprocessor) (ops : List Operation) :
    (d.run ops).2.stopped = false ↔ d.stopped = false ∧ ∀ r ∈ d.runResults ops, r.Fits := by
  induction ops generalizing d with
  | nil => exact (and_iff_left allFit_nil).symm
  | cons op ops ih =>
    calc (d.run (op :: ops)).2.stopped = false
      _ ↔ (d.perform op).2.stopped = false ∧ AllFit ((d.perform op).2.runResults ops) := ih _
      _ ↔ (d.stopped = false ∧ d.stops op = false) ∧
            AllFit ((d.perform op).2.runResults ops) := by
        rw [stopped_perform, Bool.or_eq_false_iff]
      _ ↔ d.stopped = false ∧ AllFit (d.runResults (op :: ops)) := by
        rw [runResults, allFit_append_iff, allFit_results_iff, and_assoc]

end Runs

/-- **No arithmetic of a run leaves its range**, and no more swaps are pending than the largest
number, if every snapshot that the run restores keeps to that number and leaves room for the swaps
that the run may still complete. -/
theorem runResults_fit {mode : Aperture.Mode} {ops : List Operation}
    (hs : ∀ s, .restore s ∈ ops → s.swap.Roomy (2 ^ 32 - 1))
    (hn : (create mode).completions ops < 2 ^ 32) :
    (∀ r ∈ (create mode).runResults ops, r.Fits) ∧
      ((create mode).run ops).2.swap.pending ≤ Swap.maxPending := by
  have hroom : (create mode).swap.Roomy ((create mode).completions ops) := by
    constructor
    · show (0 : UInt8) ≤ Swap.maxPending
      decide
    · show (0 : UInt64).toNat + _ < 2 ^ 64
      rw [UInt64.toNat_zero]
      omega
  exact allFit_run hs hn hroom

/-! ### Snapshots of swaps -/

section Restored

variable {d r : Coprocessor} {s : Snapshot} (h : d.restore s = .ok r) (ops : List Operation)

include h

theorem completions_restored : d.completions (.restore s :: ops) = r.completions ops := by
  have hnot : d.completesSwap (.restore s) = false := by simp [completesSwap, Operation.restores]
  rw [completions, perform_restore h, hnot, Bool.toNat_false, Nat.zero_add]

theorem runResults_restored : d.runResults (.restore s :: ops) = r.runResults ops := by
  rw [runResults, perform_restore h]; rfl

end Restored

/-- A snapshot of a new coprocessor that claims the given swaps. -/
def claiming (swap : Swap) : Snapshot := { (create .mb8).capture with swap := swap }

/-- The coprocessor that restores it. -/
def restored (swap : Swap) : Coprocessor :=
  (create .mb8).takeOver (claiming swap)
    ⟨(create .mb8).regs, (create .mb8).fog, (create .mb8).memory⟩

/-- The checks of a restore let any swaps through. -/
theorem checked_swap (s : Snapshot) (swap : Swap) (mode : Aperture.Mode) :
    { s with swap := swap }.checked mode = s.checked mode := rfl

theorem restore_claiming (swap : Swap) :
    (create .mb8).restore (claiming swap) = .ok (restored swap) := by
  have hchecked := checked_swap (create .mb8).capture swap (create .mb8).mode
  rw [checked_capture] at hchecked
  rw [restore_eq, claiming, hchecked]; rfl

/-- Restores swaps and appends one more. -/
def restoreThenAppend (swap : Swap) : List Operation :=
  [.restore (claiming swap), .writeIndex 0x48 0]

theorem completions_restoreThenAppend (swap : Swap) :
    (create .mb8).completions (restoreThenAppend swap) =
      ((restored swap).completesSwap (.writeIndex 0x48 0)).toNat :=
  completions_restored (restore_claiming swap) [.writeIndex 0x48 0]

theorem runResults_restoreThenAppend (swap : Swap) :
    (create .mb8).runResults (restoreThenAppend swap) =
      [.ofNat 8 ((restored swap).swap.pending.toNat + 1)] :=
  runResults_restored (restore_claiming swap) [.writeIndex 0x48 0]

/-- With the largest number of swaps pending one more can be appended. -/
theorem runResults_fit_seven :
    (∀ s, .restore s ∈ restoreThenAppend { pending := 7 } → s.swap.Roomy (2 ^ 32 - 1)) ∧
      (create .mb8).completions (restoreThenAppend { pending := 7 }) < 2 ^ 32 ∧
      (create .mb8).runResults (restoreThenAppend { pending := 7 }) = [.ofNat 8 8] ∧
      (∀ r ∈ (create .mb8).runResults (restoreThenAppend { pending := 7 }), r.Fits) ∧
      ((create .mb8).run (restoreThenAppend { pending := 7 })).2.swap.pending ≤ 7 := by
  have hs : ∀ s, .restore s ∈ restoreThenAppend { pending := 7 } →
      s.swap.Roomy (2 ^ 32 - 1) := by
    intro s hs
    have heq : s = claiming { pending := 7 } := by simpa [restoreThenAppend] using hs
    rw [heq]
    exact ⟨by decide, by decide⟩
  have hn : (create .mb8).completions (restoreThenAppend { pending := 7 }) < 2 ^ 32 := by
    rw [completions_restoreThenAppend]
    exact Nat.lt_of_le_of_lt (Bool.toNat_le _) (by decide)
  obtain ⟨hfit, hpending⟩ := runResults_fit hs hn
  exact ⟨hs, hn, runResults_restoreThenAppend _, hfit, hpending⟩

/-- A snapshot may claim more pending swaps than the largest number, and so many that one more
leaves the range of their type. -/
theorem appended_swap_overflows :
    (create .mb8).restore (claiming { pending := 200 }) = .ok (restored { pending := 200 }) ∧
      ¬ (restored { pending := 200 }).swap.pending ≤ Swap.maxPending ∧
      (create .mb8).restore (claiming { pending := 255 }) = .ok (restored { pending := 255 }) ∧
      (¬ ∀ r ∈ (create .mb8).runResults (restoreThenAppend { pending := 255 }), r.Fits) ∧
      ((create .mb8).run (restoreThenAppend { pending := 255 })).2.stopped = true := by
  have hoverflow :
      ¬ ∀ r ∈ (create .mb8).runResults (restoreThenAppend { pending := 255 }), r.Fits := by
    intro h
    rw [runResults_restoreThenAppend] at h
    have hsum := h _ List.mem_cons_self
    revert hsum
    decide +kernel
  refine ⟨restore_claiming _, by decide +kernel, restore_claiming _, hoverflow, ?_⟩
  by_contra hgoes
  rw [Bool.not_eq_true] at hgoes
  exact hoverflow ((stopped_run _ _).mp hgoes).2

end Coprocessor

end PumaBoard
