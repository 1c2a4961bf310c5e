import PumaBoard.Proofs.Arithmetic.Exact
import PumaBoard.Proofs.Coprocessor.Stopped
import PumaBoard.Proofs.Ring.Step

/-!
Which sums, differences and products stay in range. Almost all of them do in every state, by the
masks, clamps and bounds checks around them. Only the counts of pending and of completed swaps are
summed without such a check, and where such a sum does not fit the program stops: an operation
leaves its range just where it stops the program.
-/

namespace PumaBoard

namespace ExactResult

/-- All results are in range. -/
def AllFit (rs : List ExactResult) : Prop := ∀ r ∈ rs, r.Fits

variable {r : ExactResult} {rs ss : List ExactResult}

theorem allFit_nil : AllFit [] := fun _ h => absurd h List.not_mem_nil

theorem allFit_cons (h : r.Fits) (hs : AllFit rs) : AllFit (r :: rs) :=
  List.forall_mem_cons.mpr ⟨h, hs⟩

theorem allFit_append_iff : AllFit (rs ++ ss) ↔ AllFit rs ∧ AllFit ss :=
  List.forall_mem_append

theorem allFit_append (hr : AllFit rs) (hs : AllFit ss) : AllFit (rs ++ ss) :=
  allFit_append_iff.mpr ⟨hr, hs⟩

theorem allFit_cons_iff (hs : AllFit rs) : AllFit (r :: rs) ↔ r.Fits :=
  List.forall_mem_cons.trans (and_iff_left hs)

theorem allFit_ite {c : Prop} [Decidable c] (hr : AllFit rs) (hs : AllFit ss) :
    AllFit (if c then rs else ss) := by
  split
  · exact hr
  · exact hs

theorem allFit_flatMap {α : Type} {f : α → List ExactResult} {xs : List α}
    (h : ∀ x ∈ xs, AllFit (f x)) : AllFit (xs.flatMap f) := by
  intro r hr
  obtain ⟨x, hx, hrx⟩ := List.mem_flatMap.mp hr
  exact h x hx r hrx

theorem fits_ofNat_iff {bits n : Nat} : (ofNat bits n).Fits ↔ n < 2 ^ bits := by
  refine (and_iff_right (Int.natCast_nonneg n)).trans ?_
  show (n : Int) < 2 ^ bits ↔ _
  exact_mod_cast Iff.rfl

theorem fits_ofNat {bits n : Nat} (h : n < 2 ^ bits) : (ofNat bits n).Fits := fits_ofNat_iff.mpr h

theorem fits_ofSub {bits a b : Nat} (hle : b ≤ a) (ha : a < 2 ^ bits) : (ofSub bits a b).Fits := by
  have h := fits_ofNat (Nat.lt_of_le_of_lt (Nat.sub_le a b) ha)
  rwa [ofNat, Int.ofNat_sub hle] at h

end ExactResult

open ExactResult

/-! ### The aperture -/

namespace Aperture.Layout

theorem allFit_region {start size : UInt32} (h : start.toNat + size.toNat < 2 ^ 32)
    (addr : UInt32) : AllFit (regionResults start size addr) := by
  refine allFit_cons (fits_ofNat h) ?_
  split
  · next hin =>
    simp only [Bool.and_eq_true, decide_eq_true_eq] at hin
    exact allFit_cons (fits_ofSub (UInt32.le_iff_toNat_le.mp hin.1) addr.toNat_lt) allFit_nil
  · exact allFit_nil

/-- The regions of a mode end inside the address space. -/
theorem regions_fit (mode : Mode) :
    mode.layout.frameStart.toNat + mode.layout.frameSize.toNat < 2 ^ 32 ∧
      mode.layout.registerStart.toNat + mode.layout.registerSize.toNat < 2 ^ 32 ∧
      mode.layout.textureStart.toNat + mode.layout.textureSize.toNat < 2 ^ 32 := by
  cases mode <;> decide

theorem allFit_decode (mode : Mode) (addr : UInt32) :
    AllFit (mode.layout.decodeResults addr) := by
  obtain ⟨hframe, hregister, htexture⟩ := regions_fit mode
  have hrest := allFit_append (allFit_region hregister addr)
    (allFit_ite (c := (mode.layout.register? addr).isSome) allFit_nil (allFit_region htexture addr))
  exact allFit_append (allFit_region hframe addr) (allFit_ite allFit_nil hrest)

theorem allFit_page (mode : Mode) (n : UInt32) : AllFit (mode.layout.pageResults n) :=
  allFit_ite (allFit_region (regions_fit mode).2.1 _) allFit_nil

end Aperture.Layout

/-! ### The ring -/

namespace Ring

variable (r : Ring)

theorem words_lt : r.words.toNat < 2 ^ 31 := by
  have hwords := r.words_toNat
  have hstop := r.stop.toNat_lt
  omega

theorem allFit_words : AllFit r.wordsResults := by
  have hslots := r.slots_toNat
  have hstop := r.stop.toNat_lt
  have hfits : r.slots.toNat * 2 < 2 ^ 32 := by omega
  exact allFit_cons (fits_ofNat hfits) allFit_nil

theorem allFit_address (n : UInt32) : AllFit (r.addressResults n) := by
  refine allFit_append r.allFit_words ?_
  split
  · exact allFit_nil
  · next hw =>
    have hplace := r.place_add_four_le hw (r.readPtr.toNat + n.toNat)
    have hstop := r.stop.toNat_lt
    have hptr := r.readPtr.toNat_lt
    have hn := n.toNat_lt
    unfold place at hplace
    refine allFit_cons (fits_ofNat (by omega)) ?_
    refine allFit_cons (fits_ofNat (by omega)) ?_
    exact allFit_cons (fits_ofNat (by omega)) allFit_nil

theorem allFit_group {base : UInt32} (hb : base.toNat < 2 ^ 21) (mask : UInt32) :
    AllFit (r.groupResults base mask) := by
  refine allFit_flatMap fun x hx => ?_
  obtain ⟨position, k⟩ := x
  have hk := List.snd_lt_of_mem_zipIdx hx
  have hlen := Word.length_setBits_le mask
  have hposition : position.toNat < 32 := Word.lt_of_mem_setBits (List.fst_mem_of_mem_zipIdx hx)
  refine allFit_cons (fits_ofNat (by omega)) ?_
  exact allFit_cons (fits_ofNat (by omega)) (r.allFit_address _)

variable {r}

theorem allFit_advance (hr : r.readPtr < r.words) {n : UInt32} (hn : n.toNat < 2 ^ 31) :
    AllFit (r.advanceResults n) := by
  refine allFit_append r.allFit_words ?_
  split
  · exact allFit_nil
  · have hptr := UInt32.lt_iff_toNat_lt.mp hr
    have hwords := r.words_lt
    exact allFit_cons (fits_ofNat (by omega)) allFit_nil

theorem allFit_packet (hr : r.readPtr < r.words) (header data : UInt32) :
    AllFit (r.packetResults (.decode header data)) := by
  have hlength := Packet.length_lt (.decode header data)
  have hadvance := allFit_advance hr hlength
  unfold packetResults
  cases hp : Packet.decode header data with
  | nop | single => rwa [hp] at hadvance
  | group base mask =>
    rw [hp] at hadvance
    dsimp only
    split
    · exact hadvance
    · have hbase := Packet.toNat_page_lt header
      have hpop := Word.toNat_population mask
      have hlen := Word.length_setBits_le mask
      rw [← (Packet.decode_eq_group_iff.mp hp).2.1] at hbase
      exact allFit_append (r.allFit_group hbase mask)
        (allFit_cons (fits_ofNat (by omega)) hadvance)

end Ring

/-! ### Drawing -/

theorem Surface.Buffer.allFit_stride (w : UInt32) : AllFit (strideResults w) := by
  have hle : ((w >>> 22) &&& 0x1FF).toNat ≤ 0x1FF := by
    rw [UInt32.toNat_and]
    exact Nat.and_le_right
  exact allFit_cons (fits_ofNat (by omega)) allFit_nil

theorem Surface.Clip.edges_le (leftRight topBottom : UInt32) :
    (Clip.ofRegisters leftRight topBottom).right.toNat ≤ 0x7FF ∧
      (Clip.ofRegisters leftRight topBottom).bottom.toNat ≤ 0x7FF := by
  constructor
  · show ((leftRight >>> 16) &&& 0x7FF).toNat ≤ 0x7FF
    rw [UInt32.toNat_and]
    exact Nat.and_le_right
  · show ((topBottom >>> 16) &&& 0x7FF).toNat ≤ 0x7FF
    rw [UInt32.toNat_and]
    exact Nat.and_le_right

namespace FastFill

variable {f : FastFill}

theorem allFit_pixel {x : UInt32} (hx : x.toNat < 2 ^ 31) : AllFit (f.pixelResults x) := by
  have hfits := allFit_cons (fits_ofNat (show x.toNat * 2 < 2 ^ 32 by omega)) allFit_nil
  unfold pixelResults
  refine allFit_append ?_ ?_
  · exact allFit_ite hfits allFit_nil
  · exact allFit_ite hfits allFit_nil

theorem toNat_succ {x : UInt32} {n : Nat} (h : x.toNat + (n + 1) < 2 ^ 31) :
    (x + 1).toNat = x.toNat + 1 := by
  rw [UInt32.toNat_add, UInt32.toNat_one]
  exact Nat.mod_eq_of_lt (by omega)

theorem allFit_row {x : UInt32} {n : Nat} (h : x.toNat + n < 2 ^ 31) :
    AllFit (f.rowResults x n) := by
  induction n generalizing x with
  | zero => exact allFit_nil
  | succ n ih =>
    have hnext := toNat_succ h
    exact allFit_append (allFit_pixel (by omega)) (ih (by omega))

theorem allFit_bufferRow {y : UInt32} (h : y < f.clip.bottom) :
    AllFit (f.bufferRowResults y) := by
  have hlt := UInt32.lt_iff_toNat_lt.mp h
  have hbottom := f.clip.bottom.toNat_lt
  unfold bufferRowResults
  split
  · refine allFit_cons (fits_ofSub (by omega) (by omega)) ?_
    exact allFit_cons (fits_ofSub (by omega) (by omega)) allFit_nil
  · exact allFit_nil

/-- A row that is drawn lies above the bottom edge. -/
theorem allFit_rows (hright : f.clip.right.toNat ≤ 0x7FF) (hleft : f.clip.left < f.clip.right)
    (hbottom : f.clip.bottom.toNat ≤ 0x7FF) {y : UInt32} {n : Nat}
    (h : y.toNat + n = f.clip.bottom.toNat) : AllFit (f.rowsResults y n) := by
  have hlt := UInt32.lt_iff_toNat_lt.mp hleft
  induction n generalizing y with
  | zero => exact allFit_nil
  | succ n ih =>
    have hnext := toNat_succ (x := y) (n := n) (by omega)
    have hy : y < f.clip.bottom := UInt32.lt_iff_toNat_lt.mpr (by omega)
    exact allFit_append
      (allFit_append (allFit_bufferRow hy) (allFit_row (by omega))) (ih (by omega))

theorem allFit_execute (hright : f.clip.right.toNat ≤ 0x7FF)
    (hbottom : f.clip.bottom.toNat ≤ 0x7FF) : AllFit f.executeResults := by
  unfold executeResults
  split
  · next h =>
    simp only [Surface.Clip.isEmpty, Bool.and_eq_true, Bool.not_eq_true', Bool.or_eq_false_iff,
      decide_eq_false_iff_not, UInt32.not_le] at h
    obtain ⟨-, hleft, htop⟩ := h
    have hlt := UInt32.lt_iff_toNat_lt.mp htop
    exact allFit_rows hright hleft hbottom (by omega)
  · exact allFit_nil

end FastFill

namespace Coprocessor

section Drawing

variable (d : Coprocessor)

theorem allFit_stride (r : Register) : AllFit (d.strideResults r) :=
  Surface.Buffer.allFit_stride _

theorem allFit_upload : AllFit d.uploadResults := by
  unfold uploadResults
  split
  · have hsize : d.memory.texture.size < 2 ^ 32 := by
      rw [d.memory.texture_size]
      exact UInt32.toNat_lt _
    refine allFit_cons (fits_ofSub (by omega) hsize) ?_
    exact allFit_cons (fits_ofNat (by omega)) allFit_nil
  · exact allFit_nil

theorem allFit_submit : AllFit d.submitResults := by
  unfold submitResults
  split
  · cases d.backend with
    | none => exact allFit_nil
    | some b =>
      have hunits : AllFit (b.units.flatMap fun _ => d.uploadResults) :=
        allFit_flatMap fun _ _ => d.allFit_upload
      exact allFit_append
        (allFit_append (allFit_ite hunits allFit_nil) (d.allFit_stride _)) (d.allFit_stride _)
  · exact allFit_nil

theorem allFit_fastFill : AllFit d.fastFillResults := by
  unfold fastFillResults
  split
  · refine allFit_append (allFit_append (d.allFit_stride _) (d.allFit_stride _)) ?_
    have hedges := Surface.Clip.edges_le (d.regs.get Register.clipLeftRight)
      (d.regs.get Register.clipTopBottom)
    exact FastFill.allFit_execute hedges.1 hedges.2
  · exact allFit_nil

end Drawing

/-! ### Registers and swaps -/

section Swaps

variable (d : Coprocessor)

/-- The effect of a register write leaves its range just where it stops the program. -/
theorem allFit_affect_iff (e : Effect) :
    AllFit (d.affectResults e) ↔ e.stops d.swap = false := by
  cases e with
  | fog n =>
    have hn := n.isLt
    have hfits : AllFit (d.affectResults (.fog n)) :=
      allFit_cons (fits_ofNat (by omega)) (allFit_cons (fits_ofNat (by omega)) allFit_nil)
    exact iff_of_true hfits rfl
  | command c =>
    cases c with
    | triangle | floatTriangle => exact iff_of_true d.allFit_submit rfl
    | nop | swapBuffer => exact iff_of_true allFit_nil rfl
    | fastFill => exact iff_of_true d.allFit_fastFill rfl
    | swapPend =>
      refine (allFit_cons_iff allFit_nil).trans (fits_ofNat_iff.trans ?_)
      show _ ↔ (!d.swap.canAppend) = false
      rw [Bool.not_eq_false']
      exact decide_eq_true_iff.symm
  | _ => exact iff_of_true allFit_nil rfl

/-- There is room for one more than the largest number of pending swaps. -/
theorem stops_of_pending {swap : Swap} (h : swap.pending ≤ Swap.maxPending) (e : Effect) :
    e.stops swap = false := by
  have hle : swap.pending.toNat ≤ 7 := UInt8.le_iff_toNat_le.mp h
  have hcan : swap.canAppend = true := decide_eq_true (show _ < 256 by omega)
  cases e with
  | command c =>
    cases c with
    | swapPend => rw [Effect.stops, hcan]; rfl
    | _ => rfl
  | _ => rfl

theorem allFit_swapBuffers_iff :
    AllFit d.swapBuffersResults ↔ (d.swap.requested && !d.swap.canComplete) = false := by
  unfold swapBuffersResults
  cases d.swap.requested with
  | false => exact iff_of_true allFit_nil rfl
  | true =>
    refine (allFit_cons_iff (d.allFit_stride _)).trans (fits_ofNat_iff.trans ?_)
    rw [Bool.true_and, Bool.not_eq_false']
    exact decide_eq_true_iff.symm

theorem allFit_vsync_iff : AllFit d.vsyncResults ↔ d.stops .vsync = false := by
  unfold vsyncResults
  show _ ↔ (d.enabled && d.swap.pending > 0 && d.swap.requested && d.swap.retire.pending = 0 &&
    !d.swap.canComplete) = false
  split
  · next hready =>
    rw [hready, Bool.true_and]
    simp only [Bool.and_eq_true, decide_eq_true_eq] at hready
    obtain ⟨⟨-, hp⟩, hr⟩ := hready
    have hpos : 0 < d.swap.pending.toNat := UInt8.lt_iff_toNat_lt.mp hp
    have hlt := d.swap.pending.toNat_lt
    have hretire : (ofSub 8 d.swap.pending.toNat 1).Fits := fits_ofSub (by omega) (by omega)
    refine List.forall_mem_cons.trans ((and_iff_right hretire).trans ?_)
    split
    · next h0 =>
      -- retiring a pending swap leaves the requested and the completed ones alone
      have hcomplete := (d.setSwap d.swap.retire).allFit_swapBuffers_iff
      change _ ↔ (d.swap.requested && !d.swap.canComplete) = false at hcomplete
      rw [decide_eq_true h0, Bool.true_and]
      rwa [hr, Bool.true_and] at hcomplete
    · next h0 =>
      rw [decide_eq_false h0]
      exact iff_of_true allFit_nil rfl
  · next hready =>
    rw [Bool.not_eq_true] at hready
    rw [hready]
    exact iff_of_true allFit_nil rfl

end Swaps

/-! ### Steps -/

theorem stepsResults_append (d : Coprocessor) (ss ts : List Step) :
    d.stepsResults (ss ++ ts) = d.stepsResults ss ++ (d.after ss).stepsResults ts := by
  induction ss generalizing d with
  | nil => rfl
  | cons s ss ih =>
    rw [List.cons_append, stepsResults, stepsResults, ih, List.append_assoc]; rfl

theorem allFit_fetch (d : Coprocessor) : AllFit d.fetchResults := by
  refine allFit_append d.ring.allFit_words ?_
  split
  · exact allFit_nil
  · exact allFit_append (d.ring.allFit_address 0) (d.ring.allFit_address 1)

/-- What is known of a packet that was found. -/
theorem of_fetch {d : Coprocessor} {header : UInt32} {p : Ring.Packet}
    (h : d.fetch = .ok (header, p)) :
    d.ring.readPtr < d.ring.words ∧ ∃ data, p = .decode header data := by
  unfold fetch at h
  split at h
  · cases h
  · next hin =>
    split at h
    · cases h
      exact ⟨UInt32.not_le.mp hin, _, rfl⟩
    · cases h

/-- The notice of a packet that is not found stops nothing. -/
theorem stops_of_fetch {d : Coprocessor} {notice : Notice} (h : d.fetch = .error notice) :
    notice.stops = false := by
  unfold fetch at h
  split at h
  · cases h; rfl
  · split at h
    · cases h
    · cases h; rfl

theorem allFit_narrow (d : Coprocessor) (addr : UInt32) :
    AllFit (d.stepResults (.narrow addr)) := by
  have htwo : (addr &&& 2).toNat ≤ 2 := by
    rw [UInt32.toNat_and]
    exact Nat.and_le_right
  have hthree : (addr &&& 3).toNat ≤ 3 := by
    rw [UInt32.toNat_and]
    exact Nat.and_le_right
  refine allFit_cons (fits_ofNat (by omega)) ?_
  exact allFit_cons (fits_ofNat (by omega)) allFit_nil

/-- No step makes more swaps pending than the largest number. -/
theorem pending_after {d : Coprocessor} (h : d.swap.pending ≤ Swap.maxPending) (ss : List Step) :
    (d.after ss).swap.pending ≤ Swap.maxPending := by
  rw [swap_after]
  exact ((Swap.Accounted.of_pending h).steps ss).pending

/-- The steps leave their range just where they stop the program, which they do not if no more
swaps are pending than the largest number. -/
structure Guarded (d : Coprocessor) (ss : List Step) : Prop where
  inRange : AllFit (d.stepsResults ss) ↔ stopsAlong d.swap ss = false
  goesOn : d.swap.pending ≤ Swap.maxPending → stopsAlong d.swap ss = false

namespace Guarded

variable {d : Coprocessor} {s : Step} {ss ts : List Step}

theorem nil : d.Guarded [] := ⟨iff_of_true allFit_nil rfl, fun _ => rfl⟩

theorem cons_iff (hs : AllFit (d.stepResults s) ↔ s.stops d.swap = false)
    (hgoes : d.swap.pending ≤ Swap.maxPending → s.stops d.swap = false)
    (hss : (d.step s).Guarded ss) : d.Guarded (s :: ss) := by
  constructor
  · rw [stepsResults, allFit_append_iff, stopsAlong, Bool.or_eq_false_iff, hs, hss.inRange,
      swap_step]
  · intro h
    have hrest := hss.goesOn (pending_after h [s])
    rw [swap_step] at hrest
    rw [stopsAlong, hgoes h, hrest]; rfl

/-- A step that stays in range and does not stop the program. -/
theorem cons (hfit : AllFit (d.stepResults s)) (hgoes : s.stops d.swap = false)
    (hss : (d.step s).Guarded ss) : d.Guarded (s :: ss) :=
  cons_iff (iff_of_true hfit hgoes) (fun _ => hgoes) hss

theorem append (hs : d.Guarded ss) (ht : (d.after ss).Guarded ts) : d.Guarded (ss ++ ts) := by
  constructor
  · rw [stepsResults_append, allFit_append_iff, stopsAlong_append, Bool.or_eq_false_iff,
      hs.inRange, ht.inRange, swap_after]
  · intro h
    have hrest := ht.goesOn (pending_after h ss)
    rw [swap_after] at hrest
    rw [stopsAlong_append, hs.goesOn h, hrest]; rfl

theorem write (r : Register) (v : UInt32) : d.Guarded [.write r v] :=
  cons_iff ((d.store r v).allFit_affect_iff _) (fun h => stops_of_pending h _) nil

theorem writePageSteps (page v : UInt32) : d.Guarded (d.writePageSteps page v) := by
  refine cons (Aperture.Layout.allFit_page d.mode page) rfl ?_
  cases d.layout.page? page with
  | some r => exact write r v
  | none => exact cons allFit_nil rfl nil

theorem writePagesSteps (ws : List (UInt32 × UInt32)) : d.Guarded (d.writePagesSteps ws) := by
  induction ws generalizing d with
  | nil => exact nil
  | cons w ws ih =>
    refine append (writePageSteps w.1 w.2) ?_
    rw [after_writePageSteps]
    exact ih

theorem executePacketSteps {header : UInt32} {p : Ring.Packet} (hf : d.fetch = .ok (header, p)) :
    d.Guarded (d.executePacketSteps header p) := by
  obtain ⟨hr, data, hp⟩ := of_fetch hf
  have hpacket : AllFit (d.ring.packetResults p) := by
    rw [hp]
    exact Ring.allFit_packet hr header data
  cases p with
  | nop => exact cons hpacket rfl nil
  | single page v => exact cons hpacket rfl (writePageSteps (d := d.advance _) page v)
  | group base mask =>
    unfold Coprocessor.executePacketSteps
    dsimp only
    split
    · exact cons allFit_nil rfl (cons (d := d.note _) hpacket rfl nil)
    · exact cons hpacket rfl (writePagesSteps (d := d.advance _) _)

theorem drainUpToSteps {done n : Nat} (hn : done + n < 2 ^ 32) :
    d.Guarded (d.drainUpToSteps done n) := by
  -- on the packets left: those done and those left are together no more than the batch
  induction n generalizing d done with
  | zero => exact nil
  | succ n ih =>
    unfold Coprocessor.drainUpToSteps
    split
    · refine cons d.allFit_fetch rfl ?_
      show d.Guarded _
      cases hf : d.fetch with
      | error notice => exact cons allFit_nil (stops_of_fetch hf) nil
      | ok found =>
        obtain ⟨header, p⟩ := found
        refine append (executePacketSteps hf) ?_
        rw [after_executePacketSteps]
        have hretire := allFit_cons (fits_ofNat (show done + 1 < 2 ^ 32 by omega)) allFit_nil
        exact cons hretire rfl (ih (d := (d.executePacket header p).retire) (by omega))
    · exact nil

theorem drainSteps : d.Guarded d.drainSteps := by
  unfold Coprocessor.drainSteps
  split
  · have hbatch := d.ring.batch.toNat_lt
    exact append (drainUpToSteps (by omega)) (cons allFit_nil rfl nil)
  · exact nil

theorem writeRingSteps (offset v : UInt32) : d.Guarded (d.writeRingSteps offset v) := by
  unfold Coprocessor.writeRingSteps
  split
  · split
    · next hin =>
      rw [Ring.contains, Bool.and_eq_true, decide_eq_true_eq] at hin
      have hle := UInt32.le_iff_toNat_le.mp hin.1
      refine cons (allFit_cons (fits_ofSub hle offset.toNat_lt) allFit_nil) rfl ?_
      show d.Guarded _
      split
      · exact cons allFit_nil rfl nil
      · split
        · exact cons allFit_nil rfl (cons allFit_nil rfl drainSteps)
        · exact cons allFit_nil rfl nil
    · exact cons allFit_nil rfl nil
  · exact nil

theorem flushPageSteps (page : UInt32) : d.Guarded (d.flushPageSteps page) := by
  unfold Coprocessor.flushPageSteps
  cases d.backend with
  | none => exact nil
  | some b =>
    show d.Guarded (b.units.map fun tmu => .call (.flush page tmu))
    induction b.units generalizing d with
    | nil => exact nil
    | cons tmu units ih => exact cons allFit_nil rfl ih

theorem writeRegionSteps (addr v : UInt32) (region : Aperture.Region) :
    d.Guarded (d.writeRegionSteps addr v region) := by
  cases region with
  | frame offset =>
    unfold Coprocessor.writeRegionSteps
    dsimp only
    split
    · exact writeRingSteps offset v
    · exact cons allFit_nil rfl nil
  | register r => exact write r v
  | texture offset =>
    exact cons allFit_nil rfl (flushPageSteps
      (d := d.setMemory (d.memory.writeTexture32 (offset &&& ~~~3) v)) _)
  | invalid => exact cons allFit_nil rfl nil

theorem write32Steps (addr v : UInt32) : d.Guarded (d.write32Steps addr v) := by
  unfold Coprocessor.write32Steps
  split
  · exact cons (Aperture.Layout.allFit_decode d.mode addr) rfl (writeRegionSteps addr v _)
  · exact nil

theorem read32Steps (addr : UInt32) : d.Guarded (d.read32Steps addr) := by
  unfold Coprocessor.read32Steps
  split
  · refine cons (Aperture.Layout.allFit_decode d.mode addr) rfl ?_
    split
    · exact cons allFit_nil rfl nil
    · exact nil
  · exact nil

theorem rewriteSteps (addr : UInt32) (edit : UInt32 → UInt32) :
    d.Guarded (d.rewriteSteps addr edit) := by
  refine cons (d.allFit_narrow addr) rfl (append (read32Steps _) ?_)
  show ((d.after _).Guarded _)
  rw [after_read32Steps]
  exact write32Steps _ _

theorem bridgeWriteSteps (addr v : UInt32) : d.Guarded (d.bridgeWriteSteps addr v) := by
  unfold Coprocessor.bridgeWriteSteps
  split
  · refine append (write32Steps addr v) ?_
    split
    · exact cons allFit_nil rfl nil
    · exact nil
  · exact nil

theorem bridgeReadSteps (addr : UInt32) : d.Guarded (d.bridgeReadSteps addr) := by
  unfold Coprocessor.bridgeReadSteps
  split
  · refine append (read32Steps addr) ?_
    split
    · exact cons allFit_nil rfl nil
    · exact nil
  · exact nil

theorem steps (op : Operation) : d.Guarded (d.steps op) := by
  cases op with
  | setEnabled on =>
    unfold Coprocessor.steps
    dsimp only
    split
    · exact nil
    · exact cons allFit_nil rfl (cons allFit_nil rfl nil)
  | setWindow | attach | detach | editMemory => exact cons allFit_nil rfl nil
  | writeIndex index v =>
    show d.Guarded (writeIndexSteps index v)
    unfold writeIndexSteps
    split
    · exact write _ v
    · exact nil
  | write32 addr v => exact write32Steps addr v
  | write16 addr v =>
    exact rewriteSteps addr fun word => insertBits word 0xFFFF (halfShift addr) v.toUInt32
  | write8 addr v =>
    exact rewriteSteps addr fun word => insertBits word 0xFF (byteShift addr) v.toUInt32
  | read32 addr => exact read32Steps addr
  | read16 addr | read8 addr => exact cons (d.allFit_narrow addr) rfl (read32Steps _)
  | bridgeWrite addr v => exact bridgeWriteSteps addr v
  | bridgeRead addr => exact bridgeReadSteps addr
  | writeRing offset v => exact writeRingSteps offset v
  | drain => exact drainSteps
  | renderTriangle => exact cons d.allFit_submit rfl nil
  | fastFill => exact cons d.allFit_fastFill rfl nil
  | loadTexture tmu =>
    unfold Coprocessor.steps
    dsimp only
    split
    · exact cons d.allFit_upload rfl nil
    · exact nil
  | pixelAddress x y =>
    have hframe : AllFit (d.stepResults (.pixel x y)) := by
      have hle : 1 ≤ d.layout.frameSize.toNat := by
        show 1 ≤ d.mode.layout.frameSize.toNat
        cases d.mode <;> decide
      exact allFit_cons (fits_ofSub hle (UInt32.toNat_lt _)) (d.allFit_stride _)
    exact cons hframe rfl nil
  | _ => exact nil

end Guarded

/-- **An operation leaves its range just where it stops the program.** -/
theorem allFit_results_iff (d : Coprocessor) (op : Operation) :
    AllFit (d.results op) ↔ d.stops op = false := by
  cases op with
  | swapBuffers => exact d.allFit_swapBuffers_iff
  | vsync => exact d.allFit_vsync_iff
  | _ => exact (Guarded.steps _).inRange

end Coprocessor

end PumaBoard
