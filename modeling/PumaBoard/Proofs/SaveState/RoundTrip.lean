import PumaBoard.Proofs.SaveState.Number
import PumaBoard.Proofs.Triangle.Places
import PumaBoard.SaveState.Basic

/-!
Saved states come back from their bytes. The parts of a saved state are lawful one after the other,
so a state is read back whatever follows its bytes, and bytes that end early are refused: what a
reader accepts, it accepts with more bytes behind it too, and takes no more of them.
-/

namespace PumaBoard

namespace Codec

/-! ### The setup banks -/

theorem lawful_setup : setup.Lawful fun _ => True := by
  refine .record (fun f => ?_) (fun f => ?_) Triangle.Setup.get_put Triangle.Setup.eq_of_get
  · split
    · exact lawful_signedWord
    · exact lawful_word
  · exact Triangle.Field.of_index (by decide) f

theorem lawful_floatSetup : floatSetup.Lawful fun _ => True := by
  refine .record (fun _ => lawful_fixedWord) (fun f => ?_) Triangle.FloatSetup.get_set
    Triangle.FloatSetup.eq_of_get
  exact f.mem_all

/-! ### Records of few parts -/

theorem lawful_mode : mode.Lawful fun _ => True :=
  lawful_word.partIso.mono fun m _ => ⟨trivial, by cases m <;> rfl⟩

theorem lawful_fogEntry : fogEntry.Lawful fun _ => True :=
  ((lawful_byte.pair lawful_byte).iso fun _ _ => rfl).mono fun _ _ => ⟨trivial, trivial⟩

theorem lawful_ring : ring.Lawful fun _ => True :=
  ((lawful_flag.pair <| lawful_word.pair <| lawful_word.pair <| lawful_word.pair <|
    lawful_word.pair <| lawful_word.pair lawful_word).iso fun _ _ => rfl).mono
      fun _ _ => by simp only [and_self]

theorem lawful_swap : swap.Lawful fun _ => True :=
  ((lawful_byte.pair <| lawful_flag.pair lawful_long).iso fun _ _ => rfl).mono
    fun _ _ => by simp only [and_self]

theorem lawful_counters : counters.Lawful fun _ => True :=
  ((lawful_word.pair <| lawful_word.pair <| lawful_word.pair <| lawful_word.pair lawful_word).iso
    fun _ _ => rfl).mono fun _ _ => by simp only [and_self]

theorem lawful_window : window.Lawful fun _ => True :=
  ((lawful_signed.pair <| lawful_signed.pair <| lawful_word.pair lawful_word).iso
    fun _ _ => rfl).mono fun _ _ => by simp only [and_self]

end Codec

/-! ### The whole -/

/-- The lengths of the parts of a snapshot are numbers of 64 bits, as all lengths in memory are. -/
structure Snapshot.LengthsFit (s : Snapshot) : Prop where
  regs : s.regs.size < 2 ^ 64
  fog : s.fog.size < 2 ^ 64
  frame : s.frame.size < 2 ^ 64
  texture : s.texture.size < 2 ^ 64

/-- The lengths of the parts of a saved state are numbers of 64 bits. -/
structure SaveState.LengthsFit (s : SaveState) : Prop where
  stamp : s.time.stamp.toUTF8.size < 2 ^ 64
  description : s.description.toUTF8.size < 2 ^ 64
  snapshot : s.snapshot.LengthsFit

namespace Codec

theorem lawful_snapshot : snapshot.Lawful Snapshot.LengthsFit :=
  ((lawful_mode.pair <| (lawful_length.array lawful_word).pair <| lawful_setup.pair <|
    lawful_floatSetup.pair <| (lawful_length.array lawful_fogEntry).pair <| lawful_word.pair <|
    lawful_ring.pair <| lawful_swap.pair <| lawful_counters.pair <| lawful_window.pair <|
    lawful_flag.pair <| lawful_flag.pair <| lawful_flag.pair <| lawful_bytes.pair
      lawful_bytes).iso fun _ _ => rfl).mono fun _ h =>
        ⟨trivial, ⟨h.regs, fun _ _ => trivial⟩, trivial, trivial, ⟨h.fog, fun _ _ => trivial⟩,
          trivial, trivial, trivial, trivial, trivial, trivial, trivial, trivial, h.frame,
          h.texture⟩

theorem lawful_saveState :
    saveState.Lawful fun s =>
      s.LengthsFit ∧ Time.Instant.ofStamp? s.time.stamp = some s.time :=
  ((lawful_word.pair <| lawful_text.partIso.pair <| lawful_mode.pair <| lawful_long.pair <|
    lawful_text.pair lawful_snapshot).iso fun _ _ => rfl).mono fun _ h =>
      ⟨trivial, ⟨h.1.stamp, h.2⟩, trivial, trivial, h.1.description, h.1.snapshot⟩

/-- Bytes that end before the end of a value are refused. -/
theorem Lawful.read_prefix {α : Type} {c : Codec α} {f : α → Prop} (h : c.Lawful f) {v : α}
    (hv : f v) {p q : ByteArray} (hpq : c.write .empty v = p ++ q) (hq : q ≠ .empty) :
    c.read p 0 = none := by
  cases hp : c.read p 0 with
  | none => rfl
  | some found =>
    obtain ⟨u, j⟩ := found
    -- the value found in the prefix is also found in the whole, where it ends later
    obtain ⟨hj, hwhole⟩ := h.steady (Nat.zero_le _) hp
    have hread := h.read_write hv .empty
    rw [hpq] at hread
    have hend : j = (p ++ q).size :=
      congrArg Prod.snd (Option.some.inj ((hwhole q).symm.trans hread))
    have hpos : q.size ≠ 0 := fun h0 => hq (ByteArray.size_eq_zero_iff.mp h0)
    rw [ByteArray.size_append] at hend
    omega

end Codec

namespace SaveState

/-- **Saved states come back from their bytes.** If its time stamp stands for its time, a state of
the current version is read back from its bytes, whatever follows them; a state of any other version
is refused for its version; and bytes that break off anywhere before the end are malformed. -/
theorem ofBytes_toBytes {s : SaveState} (hfit : s.LengthsFit)
    (hstamp : Time.Instant.ofStamp? s.time.stamp = some s.time) :
    (s.version = 1 → ∀ t, ofBytes (s.toBytes ++ t) = .ok s) ∧
    (s.version ≠ 1 → ∀ t, ofBytes (s.toBytes ++ t) = .error (.stateVersion 1 s.version)) ∧
    ∀ p q, s.toBytes = p ++ q → q ≠ .empty → ofBytes p = .error .malformedState := by
  have hlawful := Codec.lawful_saveState
  have hread (t : ByteArray) : ofBytes (s.toBytes ++ t) =
      if s.version = 1 then .ok s else .error (.stateVersion 1 s.version) := by
    have h := hlawful.read_append ⟨hfit, hstamp⟩ .empty t
    rw [ofBytes, toBytes, show (0 : Nat) = ByteArray.empty.size from rfl, h]; rfl
  refine ⟨fun hv t => ?_, fun hv t => ?_, fun p q hpq hq => ?_⟩
  · rw [hread, if_pos hv]
  · rw [hread, if_neg hv]
  · rw [ofBytes, hlawful.read_prefix ⟨hfit, hstamp⟩ hpq hq]

/-- A state with a few words and bytes. -/
def small : SaveState where
  version := 1
  time := ⟨1700000000, 123000000⟩
  mode := .mb4
  swaps := 0x1234567890
  description := "after boot"
  snapshot :=
    { mode := .mb4
      regs := #[0, 250, 251, 0xFFFF, 0x10000]
      triangle := .zero
      floatTriangle := Triangle.FloatSetup.zero.set (.vertex .a .x) 0x7FC00001
      fog := #[⟨1, 2⟩]
      status := 0x3C0
      ring := {}
      swap := { pending := 3 }
      counters := {}
      window := { x := -5 }
      enabled := true
      pumaRequest := false
      pumaGrant := true
      frame := ⟨#[1, 2, 3]⟩
      texture := ⟨#[]⟩ }

theorem ofBytes_toBytes_small :
    small.LengthsFit ∧ Time.Instant.ofStamp? small.time.stamp = some small.time ∧
      ofBytes (small.toBytes ++ [7].toByteArray) = .ok small := by
  have hfit : small.LengthsFit :=
    ⟨by decide +kernel, by decide +kernel,
      ⟨by decide +kernel, by decide +kernel, by decide +kernel, by decide +kernel⟩⟩
  have hstamp : Time.Instant.ofStamp? small.time.stamp = some small.time := by decide +kernel
  exact ⟨hfit, hstamp, (ofBytes_toBytes hfit hstamp).1 rfl _⟩

end SaveState

end PumaBoard
