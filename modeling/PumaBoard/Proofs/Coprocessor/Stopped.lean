import PumaBoard.Proofs.Coprocessor.Restore
import PumaBoard.Proofs.Coprocessor.Swaps

/-!
Where sums are checked, a program stops at an operation that counts one swap more than the type of
the count holds. Nothing else stops it, so whether it does can be told from the swaps alone.
-/

namespace PumaBoard

/-! ### Steps that stop the program -/

/-- The effect of a register write appends a swap that does not fit. -/
def Effect.stops (swap : Swap) : Effect → Bool
  | .command .swapPend => !swap.canAppend
  | _ => false

namespace Coprocessor

/-- The step stops the program. -/
def Step.stops (swap : Swap) : Step → Bool
  | .write r _ => r.descriptor.effect.stops swap
  | .note n => n.stops
  | _ => false

/-- The program stops in the steps. -/
def stopsAlong (swap : Swap) : List Step → Bool
  | [] => false
  | s :: ss => s.stops swap || stopsAlong (s.onSwap swap) ss

theorem stopsAlong_append (swap : Swap) (ss ts : List Step) :
    stopsAlong swap (ss ++ ts) =
      (stopsAlong swap ss || stopsAlong (ss.foldl (fun swap s => s.onSwap swap) swap) ts) := by
  induction ss generalizing swap with
  | nil => rfl
  | cons s ss ih => rw [List.cons_append, stopsAlong, stopsAlong, ih, Bool.or_assoc, List.foldl_cons]

section Stopped

variable (d : Coprocessor)

theorem stopped_note (n : Notice) : (d.note n).stopped = (d.stopped || n.stops) :=
  Array.any_push

theorem stopped_note_of {n : Notice} (hn : n.stops = false) : (d.note n).stopped = d.stopped := by
  rw [stopped_note, hn, Bool.or_false]

theorem stopped_checkSum (fits : Bool) : (d.checkSum fits).stopped = (d.stopped || !fits) := by
  cases fits with
  | true => exact (Bool.or_false _).symm
  | false => exact d.stopped_note .overflow

theorem stopped_upload (tmu : Nat) : (d.upload tmu).stopped = d.stopped := by
  rw [upload_eq]
  split
  · rfl
  · exact d.stopped_note_of rfl

theorem stopped_submit (t : Triangle.Setup) : (d.submit t).stopped = d.stopped :=
  submit_of (fun e => e.stopped = d.stopped) (fun hn h => (stopped_note_of _ hn).trans h)
    (fun _ h => h) (fun _ h => h) (fun h => h) t rfl

theorem stopped_fastFill : d.fastFill.stopped = d.stopped := by
  rw [fastFill_eq]
  split
  · exact stopped_note_of _ rfl
  · rfl

theorem stopped_swapBuffers :
    d.swapBuffers.stopped = (d.stopped || (d.swap.requested && !d.swap.canComplete)) := by
  rw [swapBuffers_eq]
  split
  · next hr =>
    rw [stopped_note_of _ rfl, hr, Bool.true_and]
    exact d.stopped_checkSum _
  · next hr => rw [Bool.not_eq_true] at hr; rw [hr, Bool.false_and, Bool.or_false]

theorem stopped_vsync :
    d.vsync.stopped = (d.stopped ||
      (d.enabled && d.swap.pending > 0 && d.swap.requested && d.swap.retire.pending = 0 &&
        !d.swap.canComplete)) := by
  rw [vsync_eq]
  split
  · next hready =>
    rw [hready, Bool.true_and]
    rw [Bool.and_eq_true] at hready
    split
    · next h0 =>
      rw [stopped_swapBuffers, decide_eq_true h0, Bool.true_and]
      show (d.stopped || (d.swap.requested && !d.swap.canComplete)) = _
      rw [hready.2, Bool.true_and]
    · next h0 =>
      rw [decide_eq_false h0, Bool.false_and, Bool.or_false]
      rfl
  · next hready =>
    rw [Bool.not_eq_true] at hready
    rw [hready, Bool.false_and, Bool.false_and, Bool.or_false]

/-! ### Register writes -/

theorem stopped_execute (c : Command) :
    (d.execute c).stopped = (d.stopped || (Effect.command c).stops d.swap) := by
  cases c with
  | triangle | floatTriangle =>
    refine Eq.trans ?_ (Bool.or_false _).symm
    exact (stopped_submit ..).trans (d.stopped_note_of rfl)
  | fastFill =>
    refine Eq.trans ?_ (Bool.or_false _).symm
    exact (stopped_fastFill _).trans (d.stopped_note_of rfl)
  | nop | swapBuffer => exact stopped_note ..
  | swapPend =>
    rw [execute_swapPend, stopped_note_of _ rfl]
    exact d.stopped_checkSum _

theorem stopped_affect (e : Effect) (v : UInt32) :
    (d.affect e v).stopped = (d.stopped || e.stops d.swap) := by
  cases e with
  | none | triangle | floatTriangle | fog => exact (Bool.or_false _).symm
  | init n =>
    refine Eq.trans ?_ (Bool.or_false _).symm
    match n with
    | 3 => exact stopped_note_of _ rfl
    | 0 | 1 | 2 | 4 | 5 => rfl
  | ring c =>
    refine Eq.trans ?_ (Bool.or_false _).symm
    cases c with
    | readPtr | threshold => rfl
    | base | bottom | top | enable => exact stopped_note_of _ rfl
  | command c => exact stopped_execute ..

/-! ### Steps and operations -/

theorem stopped_step (s : Step) : (d.step s).stopped = (d.stopped || s.stops d.swap) := by
  cases s with
  | write r v => exact (d.store r v).stopped_affect ..
  | note n => exact d.stopped_note n
  | submit t => exact (d.stopped_submit t).trans (Bool.or_false _).symm
  | fastFill => exact d.stopped_fastFill.trans (Bool.or_false _).symm
  | upload tmu => exact (d.stopped_upload tmu).trans (Bool.or_false _).symm
  | countEntry =>
    rw [step, countEntry_eq]
    split <;> exact (Bool.or_false _).symm
  | updateThreshold =>
    rw [step, updateThreshold_eq]
    split <;> exact (Bool.or_false _).symm
  | _ => exact (Bool.or_false _).symm

theorem stopped_after (ss : List Step) :
    (d.after ss).stopped = (d.stopped || stopsAlong d.swap ss) := by
  induction ss generalizing d with
  | nil => exact (Bool.or_false _).symm
  | cons s ss ih => rw [after_cons, ih, stopped_step, swap_step, stopsAlong, Bool.or_assoc]

/-- The operation stops the program. -/
def stops (op : Operation) : Bool :=
  match op with
  | .swapBuffers => d.swap.requested && !d.swap.canComplete
  | .vsync =>
    d.enabled && d.swap.pending > 0 && d.swap.requested && d.swap.retire.pending = 0 &&
      !d.swap.canComplete
  | op => stopsAlong d.swap (d.steps op)

/-- The program has stopped if it had stopped before or the operation stops it. -/
theorem stopped_perform (op : Operation) :
    (d.perform op).2.stopped = (d.stopped || d.stops op) := by
  cases op with
  | reset => exact d.stopped_note .coprocessorReset
  | swapBuffers => exact d.stopped_swapBuffers
  | vsync => exact d.stopped_vsync
  | restore s =>
    cases hr : d.restore s with
    | ok r =>
      obtain ⟨t, rfl⟩ := takeOver_of_restore hr
      rw [perform_restore hr]
      exact (d.install s t.regs t.fog t.memory).stopped_note (.stateRestored d.mode)
    | error e =>
      rw [perform_refused hr]
      exact (Bool.or_false _).symm
  | _ => rw [← after_steps d rfl]; exact d.stopped_after _

end Stopped

end Coprocessor

end PumaBoard
