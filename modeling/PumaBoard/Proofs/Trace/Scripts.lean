import PumaBoard.Proofs.Trace.Language

/-!
Whole scripts in the language of lines. A script is read as the accesses of all its lines, or it is
the error of its first line that is no sentence; and every access is found again in any line that
spells it.
-/

namespace PumaBoard.Trace

open Text (Writes Spaced Lined IsSpace)

/-! ### Scripts -/

/-- The accesses of lines that are numbered from `n` on, each with the number of its line. -/
def numbered (n : Nat) (accesses : List (Option Access)) : Script :=
  (accesses.zipIdx n).filterMap fun (access, i) => access.map (i, ·)

theorem numbered_cons (n : Nat) (access : Option Access) (accesses : List (Option Access)) :
    numbered n (access :: accesses) =
      match access with
      | some a => (n, a) :: numbered (n + 1) accesses
      | none => numbered (n + 1) accesses := by
  cases access <;> rfl

/-- Lines are a script if each of them asks for something. -/
theorem ofLines_eq_ok_iff {n : Nat} {lines : List (List Char)} {script : Script} :
    Script.ofLines n lines = .ok script ↔
      ∃ accesses, List.Forall₂ Denotes lines accesses ∧ script = numbered n accesses := by
  induction lines generalizing n script with
  | nil =>
    constructor
    · intro h
      exact ⟨[], .nil, (Except.ok.inj h).symm⟩
    · rintro ⟨accesses, haccesses, rfl⟩
      obtain rfl := List.forall₂_nil_left_iff.mp haccesses
      rfl
  | cons line lines ih =>
    simp only [Script.ofLines, bind_eq_ok_iff, ofLine_eq_ok_iff, ih]
    constructor
    · rintro ⟨access, hline, rest, ⟨accesses, hlines, rfl⟩, h⟩
      refine ⟨access :: accesses, .cons hline hlines, ?_⟩
      rw [numbered_cons]
      exact (Except.ok.inj h).symm
    · rintro ⟨accesses, haccesses, rfl⟩
      obtain ⟨access, accesses, hline, hlines, rfl⟩ := List.forall₂_cons_left_iff.mp haccesses
      refine ⟨access, hline, numbered (n + 1) accesses, ⟨accesses, hlines, rfl⟩, ?_⟩
      rw [numbered_cons]
      rfl

/-- The rest of a script is to blame if its first line is not. -/
theorem ofLines_cons_eq_error_iff {n : Nat} {line : List Char} {lines : List (List Char)}
    {access : Option Access} (hline : Access.ofLine n line = .ok access) {e : Error} :
    Script.ofLines n (line :: lines) = .error e ↔ Script.ofLines (n + 1) lines = .error e := by
  rw [Script.ofLines, hline]
  cases Script.ofLines (n + 1) lines with
  | ok rest => exact iff_of_false (fun h => nomatch h) fun h => nomatch h
  | error e' => exact Iff.rfl

/-- The error of a script is that of its first line that asks for nothing sensible. -/
theorem ofLines_eq_error_iff {n : Nat} {lines : List (List Char)} {e : Error} :
    Script.ofLines n lines = .error e ↔
      ∃ before line after, lines = before ++ line :: after ∧
        (∀ l ∈ before, ∃ access, Denotes l access) ∧
        Access.ofLine (n + before.length) line = .error e := by
  induction lines generalizing n with
  | nil =>
    refine iff_of_false (fun h => nomatch h) ?_
    rintro ⟨before, line, after, hlines, -⟩
    exact List.append_ne_nil_of_right_ne_nil before (List.cons_ne_nil line after) hlines.symm
  | cons line lines ih =>
    cases hline : Access.ofLine n line with
    | error e' =>
      have hscript : Script.ofLines n (line :: lines) = .error e' := by
        rw [Script.ofLines, hline]
        rfl
      rw [hscript]
      constructor
      · intro h
        exact ⟨[], line, lines, rfl, nofun, Except.error.inj h ▸ hline⟩
      · rintro ⟨_ | ⟨first, before⟩, bad, after, hlines, hbefore, hbad⟩
        · obtain ⟨rfl, rfl⟩ := List.cons.inj hlines
          rw [Except.error.inj (hline.symm.trans hbad)]
        · -- the first line is malformed, so no line stands before it
          obtain ⟨rfl, rfl⟩ := List.cons.inj hlines
          obtain ⟨access, hd⟩ := hbefore line List.mem_cons_self
          rw [ofLine_eq_ok_iff.mpr hd] at hline
          exact nomatch hline
    | ok access =>
      rw [ofLines_cons_eq_error_iff hline, ih]
      constructor
      · rintro ⟨before, bad, after, rfl, hbefore, hbad⟩
        refine ⟨line :: before, bad, after, rfl, ?_, ?_⟩
        · exact List.forall_mem_cons.mpr ⟨⟨access, ofLine_eq_ok_iff.mp hline⟩, hbefore⟩
        · rwa [List.length_cons, Nat.add_comm before.length, ← Nat.add_assoc]
      · rintro ⟨_ | ⟨first, before⟩, bad, after, hlines, hbefore, hbad⟩
        · obtain ⟨rfl, rfl⟩ := List.cons.inj hlines
          rw [List.length_nil, Nat.add_zero, hline] at hbad
          exact nomatch hbad
        · obtain ⟨rfl, rfl⟩ := List.cons.inj hlines
          refine ⟨before, bad, after, rfl, (List.forall_mem_cons.mp hbefore).2, ?_⟩
          rwa [List.length_cons, Nat.add_comm before.length, ← Nat.add_assoc] at hbad

/-! ### Spelled accesses -/

/-- The command word of an access. -/
def Access.mnemonic : Access → String
  | .transfer route _ _ => route.command
  | .vsync => syncCommand

/-- The numbers of an access: its address, and the value if it writes one. -/
def Access.numbers : Access → List UInt32
  | .transfer _ addr value => addr :: value.toList
  | .vsync => []

/-- The value of a write is one that its route takes. -/
def Access.Fits : Access → Prop
  | .transfer route _ value => ∀ v ∈ value, v.toNat < route.valueBound
  | .vsync => True

theorem sentence_of_numbers {a : Access} (ha : a.Fits) {texts : List (List Char)}
    (htexts : List.Forall₂ Operand texts a.numbers) :
    Sentence (a.mnemonic.toList :: texts) (some a) := by
  cases a with
  | vsync =>
    obtain rfl := List.forall₂_nil_right_iff.mp htexts
    exact .vsync
  | transfer route addr value =>
    have hmem : (route.command, route, route.valueBound - 1) ∈ commands :=
      mem_commands_iff.mpr ⟨rfl, by cases route <;> rfl⟩
    obtain ⟨cs, rest, haddr, hrest, rfl⟩ := List.forall₂_cons_right_iff.mp htexts
    cases value with
    | none =>
      obtain rfl := List.forall₂_nil_right_iff.mp hrest
      exact .read hmem haddr
    | some v =>
      obtain ⟨ds, rest, hvalue, hnil, rfl⟩ := List.forall₂_cons_right_iff.mp hrest
      obtain rfl := List.forall₂_nil_right_iff.mp hnil
      exact .write hmem haddr hvalue (Nat.le_sub_one_of_lt (ha v rfl))

theorem not_mem_operand {cs : List Char} {w : UInt32} (h : Operand cs w) : '#' ∉ cs := by
  have hwrites {base n : Nat} (hbase : base ≤ 16) {cs : List Char} (h : Writes base cs n) :
      '#' ∉ cs := by
    intro hmem
    rcases h.mem hmem with hplus | ⟨d, hd⟩
    · exact absurd hplus (by decide)
    · rw [Text.isDigit_iff hbase] at hd
      have hcode : '#'.toNat = 35 := rfl
      omega
  cases h with
  | decimal h => exact hwrites (by decide) h
  | hexadecimal hx h =>
    have hnot := hwrites (by decide) h
    rcases hx with rfl | rfl <;> simpa using hnot

theorem not_mem_command (route : Route) : '#' ∉ route.command.toList := by
  cases route <;> decide

/-- No number sign stands in the words of an access or between them. -/
theorem not_mem_spelled {a : Access} {texts : List (List Char)} {code : List Char}
    (htexts : List.Forall₂ Operand texts a.numbers)
    (hcode : Spaced code (a.mnemonic.toList :: texts)) : '#' ∉ code := by
  intro hmem
  rcases hcode.mem hmem with hspace | ⟨word, hword, hmem⟩
  · exact absurd hspace (by unfold IsSpace; decide)
  · rcases List.mem_cons.mp hword with rfl | hword
    · cases a with
      | vsync => exact absurd hmem (by decide)
      | transfer route => exact absurd hmem (not_mem_command route)
    · obtain ⟨i, hi, rfl⟩ := List.getElem_of_mem hword
      exact not_mem_operand (htexts.get hi (htexts.length_eq ▸ hi)) hmem

/-- Every number of 32 bits has a decimal and a hexadecimal numeral. -/
theorem operand_toDigits (w : UInt32) :
    Operand (Nat.toDigits 10 w.toNat) w ∧ Operand ('0' :: 'x' :: Nat.toDigits 16 w.toNat) w :=
  ⟨.decimal (Text.writes_toDigits (by decide) (by decide) w.toNat),
    .hexadecimal (.inl rfl) (Text.writes_toDigits (by decide) (by decide) w.toNat)⟩

/-- **Traces are read by their language.** A line is read as the access that it denotes, and it is
an error with its number if it denotes none. So an access is found again in each line that spells
it, whatever the numerals, the spacing and the comment are, and every number has numerals in both
bases. A text is read as the accesses of all its lines with their numbers, or else it gives the
error of its first malformed line. -/
theorem script_language :
    (∀ number line access,
      Access.ofLine number line = .ok access ↔ Denotes line access) ∧
    (∀ number line, (∃ fault, Access.ofLine number line = .error (.line number fault)) ↔
      ∀ access, ¬ Denotes line access) ∧
    (∀ (a : Access) (number : Nat) texts code line, a.Fits →
      List.Forall₂ Operand texts a.numbers → Spaced code (a.mnemonic.toList :: texts) →
      (line = code ∨ ∃ comment, line = code ++ '#' :: comment) →
      Access.ofLine number line = .ok (some a)) ∧
    (∀ w : UInt32, Operand (Nat.toDigits 10 w.toNat) w ∧
      Operand ('0' :: 'x' :: Nat.toDigits 16 w.toNat) w) ∧
    (∀ text script, Script.ofText text = .ok script ↔
      ∃ lines accesses, Lined text.toList lines ∧ List.Forall₂ Denotes lines accesses ∧
        script = numbered 1 accesses) ∧
    (∀ text e, Script.ofText text = .error e ↔
      ∃ before line after, Lined text.toList (before ++ line :: after) ∧
        (∀ l ∈ before, ∃ access, Denotes l access) ∧ (∀ access, ¬ Denotes line access) ∧
        ∃ fault, e = .line (before.length + 1) fault ∧
          Access.ofLine (before.length + 1) line = .error e) := by
  refine ⟨fun _ _ _ => ofLine_eq_ok_iff, fun _ _ => ofLine_eq_error_iff, ?_, operand_toDigits,
    ?_, ?_⟩
  · intro a number texts code line ha htexts hcode hline
    exact ofLine_eq_ok_iff.mpr
      ⟨code, _, ⟨not_mem_spelled htexts hcode, hline⟩, hcode, sentence_of_numbers ha htexts⟩
  · intro text script
    rw [Script.ofText, ofLines_eq_ok_iff]
    constructor
    · rintro ⟨accesses, hlines, h⟩
      exact ⟨_, accesses, Text.lined_lines _, hlines, h⟩
    · rintro ⟨lines, accesses, hlined, hlines, h⟩
      exact ⟨accesses, hlined.lines_eq ▸ hlines, h⟩
  · intro text e
    rw [Script.ofText, ofLines_eq_error_iff]
    constructor
    · rintro ⟨before, line, after, hlines, hbefore, hbad⟩
      rw [Nat.add_comm] at hbad
      have hnone : ∀ access, ¬ Denotes line access := by
        intro access hd
        rw [ofLine_eq_ok_iff.mpr hd] at hbad
        exact nomatch hbad
      obtain ⟨fault, hfault⟩ := ofLine_eq_error_iff.mpr hnone
      exact ⟨before, line, after, hlines ▸ Text.lined_lines _, hbefore, hnone, fault,
        Except.error.inj (hbad.symm.trans hfault), hbad⟩
    · rintro ⟨before, line, after, hlined, hbefore, -, fault, -, hbad⟩
      exact ⟨before, line, after, hlined.lines_eq, hbefore, Nat.add_comm 1 _ ▸ hbad⟩

/-- A byte write after a no-break space, with a capital prefix, a sign and a leading zero. -/
def oddWrite : List Char := "\u00A0mmio.b\t0X2b  +0128 ".toList

theorem script_language_oddWrite :
    let a : Access := .transfer .window8 0x2B (some 128)
    let texts := ["0X2b".toList, "+0128".toList]
    a.Fits ∧ List.Forall₂ Operand texts a.numbers ∧
      Spaced oddWrite (a.mnemonic.toList :: texts) ∧
      Access.ofLine 7 (oddWrite ++ "# top # byte".toList) = .ok (some a) := by
  intro a texts
  have ha : a.Fits := by
    rintro v ⟨⟩
    decide
  have haddr : Operand "0X2b".toList 0x2B :=
    .hexadecimal (.inr rfl) ((Text.readNumber_eq_ok_iff (by decide) (by decide)).mp rfl).1
  have hvalue : Operand "+0128".toList 128 :=
    .decimal ((Text.readNumber_eq_ok_iff (by decide) (by decide)).mp rfl).1
  have htexts : List.Forall₂ Operand texts a.numbers := .cons haddr (.cons hvalue .nil)
  have hspaced : Spaced oddWrite (a.mnemonic.toList :: texts) := Text.words_eq_iff.mp (by decide)
  exact ⟨ha, htexts, hspaced,
    script_language.2.2.1 a 7 texts oddWrite _ ha htexts hspaced (.inr ⟨_, rfl⟩)⟩

end PumaBoard.Trace
