import Mathlib.Data.List.TakeWhile
import PumaBoard.Proofs.Text.Numeral
import PumaBoard.Proofs.Text.Pieces
import PumaBoard.Trace.Script

/-!
The language of trace scripts. A line is a sentence of words, and a sentence asks for one access or
for none. Every sentence of the language is read as the access that it asks for, and a line that is
no sentence is an error with its number.
-/

namespace PumaBoard.Trace

open Text (Writes Spaced Lined)

/-! ### Sentences -/

/-- The text is a number of 32 bits: a decimal numeral, or a hexadecimal one after `0x` or `0X`. -/
inductive Operand : List Char → UInt32 → Prop
  | decimal {cs w} : Writes 10 cs w.toNat → Operand cs w
  | hexadecimal {x cs w} : x = 'x' ∨ x = 'X' → Writes 16 cs w.toNat → Operand ('0' :: x :: cs) w

/-- The command words, each with its route and the largest value that is written through it. -/
def commands : List (String × Route × Nat) :=
  [("mmio.b", .window8, 0xFF), ("mmio.w", .window16, 0xFFFF), ("mmio.l", .window32, 0xFFFFFFFF),
    ("puma", .aperture, 0xFFFFFFFF), ("thp", .bridge, 0xFFFFFFFF), ("reg", .register, 0xFFFFFFFF)]

/-- The words ask for the access, or for none if there are no words. -/
inductive Sentence : List (List Char) → Option Access → Prop
  | empty : Sentence [] none
  | vsync : Sentence ["vsync".toList] (some .vsync)
  | read {command route largest addr a} : (command, route, largest) ∈ commands → Operand addr a →
      Sentence [command.toList, addr] (some (.transfer route a none))
  | write {command route largest addr a value v} : (command, route, largest) ∈ commands →
      Operand addr a → Operand value v → v.toNat ≤ largest →
      Sentence [command.toList, addr, value] (some (.transfer route a (some v)))

/-- The line without its comment, which begins with the first number sign. -/
def Uncommented (line code : List Char) : Prop :=
  '#' ∉ code ∧ (line = code ∨ ∃ comment, line = code ++ '#' :: comment)

/-- The line asks for the access, or for none. -/
def Denotes (line : List Char) (access : Option Access) : Prop :=
  ∃ code words, Uncommented line code ∧ Spaced code words ∧ Sentence words access

/-! ### Operands -/

theorem bind_eq_ok_iff {ε α β : Type} {x : Except ε α} {f : α → Except ε β} {r : β} :
    x >>= f = .ok r ↔ ∃ a, x = .ok a ∧ f a = .ok r := by
  cases x with
  | error e => exact iff_of_false (fun h => nomatch h) fun ⟨_, h, _⟩ => nomatch h
  | ok a =>
    constructor
    · exact fun h => ⟨a, rfl, h⟩
    · rintro ⟨b, hb, h⟩
      obtain rfl : a = b := Except.ok.inj hb
      exact h

theorem not_writes_of_letter {x : Char} (hx : x = 'x' ∨ x = 'X') (cs : List Char) (n : Nat) :
    ¬ Writes 10 ('0' :: x :: cs) n := by
  intro h
  have hmem : x ∈ '0' :: x :: cs := List.mem_cons_of_mem _ List.mem_cons_self
  rcases h.mem hmem with rfl | ⟨d, hd⟩
  · rcases hx with hx | hx <;> exact absurd hx (by decide)
  · rw [Text.isDigit_iff (by decide)] at hd
    have hcode : x.toNat = 120 ∨ x.toNat = 88 := hx.imp (congrArg Char.toNat) (congrArg Char.toNat)
    omega

/-- Naming the text in the fault of a reading leaves its success alone. -/
theorem named_eq_ok_iff (reading : Except Text.NumberFault Nat) (text : String) {n : Nat} :
    (match reading with
      | .ok n => .ok n
      | .error fault => .error (LineFault.number text fault)) = Except.ok n ↔ reading = .ok n := by
  cases reading with
  | ok m => rw [Except.ok.injEq, Except.ok.injEq]
  | error fault => exact iff_of_false (fun h => nomatch h) fun h => nomatch h

theorem readOperand_hexadecimal {x : Char} (hx : x = 'x' ∨ x = 'X') {digits : List Char} {n : Nat} :
    readOperand ('0' :: x :: digits) = .ok n ↔ Text.readNumber 16 digits = .ok n := by
  rcases hx with rfl | rfl <;> exact named_eq_ok_iff (Text.readNumber 16 digits) _

theorem readOperand_decimal {cs : List Char} {n : Nat}
    (hcs : ¬ ∃ x digits, (x = 'x' ∨ x = 'X') ∧ cs = '0' :: x :: digits) :
    readOperand cs = .ok n ↔ Text.readNumber 10 cs = .ok n := by
  unfold readOperand
  split
  · next digits => exact absurd ⟨_, digits, .inl rfl, rfl⟩ hcs
  · next digits => exact absurd ⟨_, digits, .inr rfl, rfl⟩ hcs
  · exact named_eq_ok_iff (Text.readNumber 10 _) _

/-- An operand is read if it is a number of 32 bits. -/
theorem readOperand_eq_ok_iff {cs : List Char} {n : Nat} :
    readOperand cs = .ok n ↔ ∃ w : UInt32, w.toNat = n ∧ Operand cs w := by
  have hword {P : Nat → Prop} : P n ∧ n < 2 ^ 32 ↔ ∃ w : UInt32, w.toNat = n ∧ P w.toNat := by
    constructor
    · rintro ⟨hn, hlt⟩
      have hw : (UInt32.ofNat n).toNat = n := UInt32.toNat_ofNat_of_lt' hlt
      exact ⟨.ofNat n, hw, hw.symm ▸ hn⟩
    · rintro ⟨w, rfl, hn⟩
      exact ⟨hn, w.toNat_lt⟩
  by_cases hcs : ∃ x digits, (x = 'x' ∨ x = 'X') ∧ cs = '0' :: x :: digits
  · obtain ⟨x, digits, hx, rfl⟩ := hcs
    rw [readOperand_hexadecimal hx, Text.readNumber_eq_ok_iff (by decide) (by decide), hword]
    refine exists_congr fun w => and_congr_right fun _ => ⟨.hexadecimal hx, fun h => ?_⟩
    cases h with
    | decimal h => exact absurd h (not_writes_of_letter hx digits _)
    | hexadecimal _ h => exact h
  · rw [readOperand_decimal hcs, Text.readNumber_eq_ok_iff (by decide) (by decide), hword]
    refine exists_congr fun w => and_congr_right fun _ => ⟨.decimal, fun h => ?_⟩
    cases h with
    | decimal h => exact h
    | hexadecimal hx _ => exact absurd ⟨_, _, hx, rfl⟩ hcs

/-! ### Words -/

/-- The table of commands holds the routes with their command words and bounds. -/
theorem mem_commands_iff {s : String} {route : Route} {largest : Nat} :
    (s, route, largest) ∈ commands ↔ s = route.command ∧ largest + 1 = route.valueBound := by
  cases route <;> simp [commands, Route.command, Route.valueBound]

theorem ofCommand?_eq_some_iff {s : String} {route : Route} :
    Route.ofCommand? s = some route ↔ s = route.command := by
  constructor
  · intro h
    have hs := List.find?_some h
    exact (of_decide_eq_true hs).symm
  · rintro rfl
    cases route <;> rfl

/-- An access is made of a command word of a route, an address and maybe a value in its bound. -/
theorem ofOperands_eq_ok_iff {command : String} {addr : Nat} {value : Option Nat}
    {access : Access} :
    Access.ofOperands command addr value = .ok access ↔
      ∃ route : Route, command = route.command ∧ (∀ v ∈ value, v < route.valueBound) ∧
        .transfer route (.ofNat addr) (value.map .ofNat) = access := by
  unfold Access.ofOperands
  cases hroute : Route.ofCommand? command with
  | none =>
    refine iff_of_false (fun h => nomatch h) ?_
    rintro ⟨route, hcommand, -⟩
    rw [ofCommand?_eq_some_iff.mpr hcommand] at hroute
    exact nomatch hroute
  | some route =>
    have hunique (r : Route) : command = r.command ↔ route = r := by
      rw [← ofCommand?_eq_some_iff, hroute, Option.some_inj]
    simp only [hunique, exists_eq_left']
    cases value with
    | none => simp
    | some v =>
      dsimp only
      split
      · next hv => simp [hv]
      · next hv => simp [hv]

theorem readOperands_one {command : String} {cs : List Char} {addr : Nat} {value : Option Nat} :
    readOperands command [cs] = .ok (addr, value) ↔ readOperand cs = .ok addr ∧ value = none := by
  rw [readOperands, bind_eq_ok_iff]
  constructor
  · rintro ⟨a, ha, h⟩
    obtain ⟨rfl, rfl⟩ := Prod.mk.inj (Except.ok.inj h)
    exact ⟨ha, rfl⟩
  · rintro ⟨ha, rfl⟩
    exact ⟨addr, ha, rfl⟩

theorem readOperands_two {command : String} {cs ds : List Char} {addr : Nat} {value : Option Nat} :
    readOperands command [cs, ds] = .ok (addr, value) ↔
      readOperand cs = .ok addr ∧ ∃ v, readOperand ds = .ok v ∧ value = some v := by
  simp only [readOperands, bind_eq_ok_iff]
  constructor
  · rintro ⟨a, ha, v, hv, h⟩
    obtain ⟨rfl, rfl⟩ := Prod.mk.inj (Except.ok.inj h)
    exact ⟨ha, v, hv, rfl⟩
  · rintro ⟨ha, v, hv, rfl⟩
    exact ⟨addr, ha, v, hv, rfl⟩

theorem command_ne_sync (route : Route) : route.command ≠ syncCommand := by
  cases route <;> decide

/-- The words of an access that is not a vertical sync. -/
theorem ofWords_transfer {command : String} {texts : List (List Char)} {access : Option Access}
    (hcommand : command ≠ syncCommand) :
    Access.ofWords (command.toList :: texts) = .ok access ↔
      ∃ addr value a, readOperands command texts = .ok (addr, value) ∧
        Access.ofOperands command addr value = .ok a ∧ access = some a := by
  simp only [Access.ofWords, String.ofList_toList, if_neg hcommand, bind_eq_ok_iff]
  constructor
  · rintro ⟨⟨addr, value⟩, hread, a, ha, h⟩
    exact ⟨addr, value, a, hread, ha, (Except.ok.inj h).symm⟩
  · rintro ⟨addr, value, a, hread, ha, rfl⟩
    exact ⟨⟨addr, value⟩, hread, a, ha, rfl⟩

theorem ofWords_sync {texts : List (List Char)} {access : Option Access} :
    Access.ofWords (syncCommand.toList :: texts) = .ok access ↔
      texts = [] ∧ access = some .vsync := by
  simp only [Access.ofWords, String.ofList_toList, if_true]
  cases texts with
  | nil =>
    constructor
    · exact fun h => ⟨rfl, (Except.ok.inj h).symm⟩
    · rintro ⟨-, rfl⟩
      rfl
  | cons cs texts => exact iff_of_false (fun h => nomatch h) fun h => nomatch h.1

theorem sentence_of_ofWords {ws : List (List Char)} {access : Option Access}
    (h : Access.ofWords ws = .ok access) : Sentence ws access := by
  cases ws with
  | nil =>
    obtain rfl := Except.ok.inj h
    exact .empty
  | cons word texts =>
    obtain ⟨command, rfl⟩ : ∃ command : String, word = command.toList :=
      ⟨.ofList word, String.toList_ofList.symm⟩
    by_cases hsync : command = syncCommand
    · subst hsync
      obtain ⟨rfl, rfl⟩ := ofWords_sync.mp h
      exact .vsync
    · obtain ⟨addr, value, a, hread, ha, rfl⟩ := (ofWords_transfer hsync).mp h
      obtain ⟨route, hroute, hbound, rfl⟩ := ofOperands_eq_ok_iff.mp ha
      have hmem : (command, route, route.valueBound - 1) ∈ commands :=
        mem_commands_iff.mpr ⟨hroute, by cases route <;> rfl⟩
      match texts, hread with
      | [cs], hread =>
        obtain ⟨hcs, rfl⟩ := readOperands_one.mp hread
        obtain ⟨w, rfl, hw⟩ := readOperand_eq_ok_iff.mp hcs
        rw [UInt32.ofNat_toNat]
        exact .read hmem hw
      | [cs, ds], hread =>
        obtain ⟨hcs, v, hds, rfl⟩ := readOperands_two.mp hread
        obtain ⟨w, rfl, hw⟩ := readOperand_eq_ok_iff.mp hcs
        obtain ⟨x, rfl, hx⟩ := readOperand_eq_ok_iff.mp hds
        rw [UInt32.ofNat_toNat, Option.map_some, UInt32.ofNat_toNat]
        exact .write hmem hw hx (Nat.le_sub_one_of_lt (hbound _ rfl))

theorem ofWords_of_sentence {ws : List (List Char)} {access : Option Access}
    (h : Sentence ws access) : Access.ofWords ws = .ok access := by
  cases h with
  | empty => rfl
  | vsync => exact ofWords_sync.mpr ⟨rfl, rfl⟩
  | @read command route largest addr a hcommand haddr =>
    obtain ⟨rfl, -⟩ := mem_commands_iff.mp hcommand
    refine (ofWords_transfer (command_ne_sync route)).mpr ⟨a.toNat, none, _,
      readOperands_one.mpr ⟨readOperand_eq_ok_iff.mpr ⟨a, rfl, haddr⟩, rfl⟩,
      ofOperands_eq_ok_iff.mpr ⟨route, rfl, nofun, rfl⟩, ?_⟩
    rw [UInt32.ofNat_toNat]
    rfl
  | @write command route largest addr a value v hcommand haddr hvalue hle =>
    obtain ⟨rfl, hlargest⟩ := mem_commands_iff.mp hcommand
    have hbound : ∀ n ∈ some v.toNat, n < route.valueBound := by
      rintro n ⟨⟩
      omega
    refine (ofWords_transfer (command_ne_sync route)).mpr ⟨a.toNat, some v.toNat, _,
      readOperands_two.mpr ⟨readOperand_eq_ok_iff.mpr ⟨a, rfl, haddr⟩, v.toNat,
        readOperand_eq_ok_iff.mpr ⟨v, rfl, hvalue⟩, rfl⟩,
      ofOperands_eq_ok_iff.mpr ⟨route, rfl, hbound, rfl⟩, ?_⟩
    rw [UInt32.ofNat_toNat, Option.map_some, UInt32.ofNat_toNat]

/-- **Words are read as the access that they ask for.** -/
theorem ofWords_eq_ok_iff {ws : List (List Char)} {access : Option Access} :
    Access.ofWords ws = .ok access ↔ Sentence ws access :=
  ⟨sentence_of_ofWords, ofWords_of_sentence⟩

/-! ### Lines -/

theorem dropComment_of_not_mem {code : List Char} (hcode : '#' ∉ code) :
    dropComment code = code := by
  refine List.takeWhile_eq_self_iff.mpr fun c hc => decide_eq_true ?_
  exact fun h => hcode (h ▸ hc)

theorem dropComment_append {code : List Char} (hcode : '#' ∉ code) (comment : List Char) :
    dropComment (code ++ '#' :: comment) = code := by
  have hself := dropComment_of_not_mem hcode
  unfold dropComment at hself ⊢
  rw [List.takeWhile_append_of_pos (List.takeWhile_eq_self_iff.mp hself)]
  simp

theorem uncommented_dropComment (line : List Char) : Uncommented line (dropComment line) := by
  have hmem {l : List Char} (hl : ∀ c ∈ l, decide (c = '#') = false) : '#' ∉ l := fun h =>
    of_decide_eq_false (hl '#' h) rfl
  induction line using Text.induction_on_pieces (· = '#') with
  | last l hl =>
    rw [dropComment_of_not_mem (hmem hl)]
    exact ⟨hmem hl, .inl rfl⟩
  | cut l c rest hl hc _ =>
    obtain rfl := of_decide_eq_true hc
    rw [dropComment_append (hmem hl)]
    exact ⟨hmem hl, .inr ⟨rest, rfl⟩⟩

theorem dropComment_eq_iff {line code : List Char} :
    dropComment line = code ↔ Uncommented line code := by
  constructor
  · rintro rfl
    exact uncommented_dropComment line
  · rintro ⟨hcode, rfl | ⟨comment, rfl⟩⟩
    · exact dropComment_of_not_mem hcode
    · exact dropComment_append hcode comment

/-- **A line is read as the access that it asks for.** -/
theorem ofLine_eq_ok_iff {number : Nat} {line : List Char} {access : Option Access} :
    Access.ofLine number line = .ok access ↔ Denotes line access := by
  have hdenotes : Denotes line access ↔
      Access.ofWords (Text.words (dropComment line)) = .ok access := by
    rw [ofWords_eq_ok_iff]
    constructor
    · rintro ⟨code, words, hcode, hwords, h⟩
      rwa [dropComment_eq_iff.mpr hcode, Text.words_eq_iff.mpr hwords]
    · exact fun h => ⟨_, _, uncommented_dropComment line, Text.spaced_words _, h⟩
  rw [hdenotes, Access.ofLine]
  cases Access.ofWords (Text.words (dropComment line)) with
  | ok a => rw [Except.ok.injEq, Except.ok.injEq]
  | error fault => exact iff_of_false (fun h => nomatch h) fun h => nomatch h

/-- A line that asks for nothing sensible is an error with its number. -/
theorem ofLine_eq_error_iff {number : Nat} {line : List Char} :
    (∃ fault, Access.ofLine number line = .error (.line number fault)) ↔
      ∀ access, ¬ Denotes line access := by
  constructor
  · rintro ⟨fault, h⟩ access hd
    rw [ofLine_eq_ok_iff.mpr hd] at h
    exact nomatch h
  · intro h
    cases hwords : Access.ofWords (Text.words (dropComment line)) with
    | ok a =>
      have hline : Access.ofLine number line = .ok a := by rw [Access.ofLine, hwords]
      exact absurd (ofLine_eq_ok_iff.mp hline) (h a)
    | error fault => exact ⟨fault, by rw [Access.ofLine, hwords]⟩

end PumaBoard.Trace
