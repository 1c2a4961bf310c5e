import Mathlib.Data.List.Forall2
import Mathlib.Data.Nat.Digits.Defs
import PumaBoard.Text.Number

/-!
Numerals: maybe a plus sign, then digits of a base. A text is read as a number if and only if it is
a numeral whose value fits 32 bits, and every number has the numeral that is printed for it.
-/

namespace PumaBoard.Text

/-! ### Digits -/

/-- The character is the digit `d` of a base up to 16, a letter in either case. -/
def IsDigit (base : Nat) (c : Char) (d : Nat) : Prop :=
  d < base ∧
    ("0123456789abcdef".toList[d]? = some c ∨ "0123456789ABCDEF".toList[d]? = some c)

theorem ofNat_eq_iff {n : Nat} (hn : n < 128) {c : Char} : Char.ofNat n = c ↔ c.toNat = n := by
  have htable : ∀ n < 128, (Char.ofNat n).toNat = n := by decide
  constructor
  · rintro rfl
    exact htable n hn
  · rintro rfl
    exact Char.ofNat_toNat c

/-- A digit by its code point. -/
theorem isDigit_iff {base : Nat} (hbase : base ≤ 16) {c : Char} {d : Nat} :
    IsDigit base c d ↔ d < base ∧ (d < 10 ∧ c.toNat = 48 + d ∨
      10 ≤ d ∧ (c.toNat = 87 + d ∨ c.toNat = 55 + d)) := by
  have hlower : ∀ d < 16, "0123456789abcdef".toList[d]? =
      some (Char.ofNat (if d < 10 then 48 + d else 87 + d)) := by decide
  have hupper : ∀ d < 16, "0123456789ABCDEF".toList[d]? =
      some (Char.ofNat (if d < 10 then 48 + d else 55 + d)) := by decide
  unfold IsDigit
  refine and_congr_right fun hd => ?_
  rw [hlower d (by omega), hupper d (by omega), Option.some_inj, Option.some_inj]
  split
  · rw [ofNat_eq_iff (by omega)]
    omega
  · rw [ofNat_eq_iff (by omega), ofNat_eq_iff (by omega)]
    omega

theorem digitValue?_eq_some_iff {base : Nat} (hbase : base ≤ 16) {c : Char} {d : Nat} :
    digitValue? base c = some d ↔ IsDigit base c d := by
  have hle (a b : Char) : a ≤ b ↔ a.toNat ≤ b.toNat := Iff.rfl
  have h0 : '0'.toNat = 48 := rfl
  have h9 : '9'.toNat = 57 := rfl
  have ha : 'a'.toNat = 97 := rfl
  have hz : 'z'.toNat = 122 := rfl
  have hA : 'A'.toNat = 65 := rfl
  have hZ : 'Z'.toNat = 90 := rfl
  rw [isDigit_iff hbase]
  simp only [digitValue?, hle, h0, h9, ha, hz, hA, hZ, Option.ite_none_right_eq_some,
    Option.some_inj]
  split
  · omega
  · split
    · omega
    · split <;> omega

/-- Lean's digits are digits. -/
theorem isDigit_digitChar {base : Nat} (hbase : base ≤ 16) {d : Nat} (hd : d < base) :
    IsDigit base d.digitChar d := by
  have hlower : ∀ d < 16, "0123456789abcdef".toList[d]? = some d.digitChar := by decide
  exact ⟨hd, .inl (hlower d (by omega))⟩

theorem not_isDigit_plus {base : Nat} (hbase : base ≤ 16) (d : Nat) : ¬ IsDigit base '+' d := by
  rw [isDigit_iff hbase]
  have hplus : '+'.toNat = 43 := rfl
  omega

/-! ### Numerals -/

/-- Behind the digits of `v`, the characters are further digits and make it `n`. -/
def Continues (base v : Nat) (cs : List Char) (n : Nat) : Prop :=
  ∃ ds, List.Forall₂ (IsDigit base) cs ds ∧
    n = Nat.ofDigits base ds.reverse + base ^ ds.length * v

/-- The text writes a number in a base: maybe a plus sign, then one digit or more, the most
significant one first. -/
def Writes (base : Nat) (cs : List Char) (n : Nat) : Prop :=
  ∃ digits ds, (cs = digits ∨ cs = '+' :: digits) ∧ digits ≠ [] ∧
    List.Forall₂ (IsDigit base) digits ds ∧ n = Nat.ofDigits base ds.reverse

section Reading

variable {base v n : Nat} {c : Char} {cs : List Char}

theorem continues_nil : Continues base v [] n ↔ v = n := by
  constructor
  · rintro ⟨ds, hds, rfl⟩
    obtain rfl := List.forall₂_nil_left_iff.mp hds
    simp
  · rintro rfl
    exact ⟨[], .nil, by simp⟩

theorem continues_cons :
    Continues base v (c :: cs) n ↔ ∃ d, IsDigit base c d ∧ Continues base (v * base + d) cs n := by
  have hvalue (d : Nat) (ds : List Nat) :
      Nat.ofDigits base (d :: ds).reverse + base ^ (d :: ds).length * v =
        Nat.ofDigits base ds.reverse + base ^ ds.length * (v * base + d) := by
    rw [List.reverse_cons, Nat.ofDigits_append, Nat.ofDigits_singleton, List.length_reverse,
      List.length_cons]
    ring
  constructor
  · rintro ⟨ds, hds, hn⟩
    obtain ⟨d, ds, hc, hcs, rfl⟩ := List.forall₂_cons_left_iff.mp hds
    exact ⟨d, hc, ds, hcs, hvalue d ds ▸ hn⟩
  · rintro ⟨d, hc, ds, hds, hn⟩
    exact ⟨d :: ds, .cons hc hds, (hvalue d ds).symm ▸ hn⟩

/-- Further digits never make a number smaller. -/
theorem Continues.le (hpos : 0 < base) (h : Continues base v cs n) : v ≤ n := by
  obtain ⟨ds, -, rfl⟩ := h
  have := Nat.le_mul_of_pos_left v (Nat.pow_pos (n := ds.length) hpos)
  omega

variable (hpos : 0 < base) (hbase : base ≤ 16)

include hpos hbase

/-- Digits are read as long as the number fits. -/
theorem readDigits_eq_ok_iff (hv : v < 2 ^ 32) :
    readDigits base v cs = .ok n ↔ Continues base v cs n ∧ n < 2 ^ 32 := by
  induction cs generalizing v with
  | nil =>
    rw [readDigits, Except.ok.injEq, continues_nil]
    exact ⟨fun h => ⟨h, h ▸ hv⟩, And.left⟩
  | cons c cs ih =>
    rw [readDigits, continues_cons]
    cases hd : digitValue? base c with
    | none =>
      refine iff_of_false (fun h => nomatch h) ?_
      rintro ⟨⟨d, hc, -⟩, -⟩
      rw [(digitValue?_eq_some_iff hbase).mpr hc] at hd
      exact nomatch hd
    | some d =>
      have hdigit (e : Nat) : IsDigit base c e ↔ d = e := by
        rw [← digitValue?_eq_some_iff hbase, hd, Option.some_inj]
      simp only [hdigit, exists_eq_left']
      split
      · next hfit => exact ih hfit
      · next hfit =>
        refine iff_of_false (fun h => nomatch h) ?_
        rintro ⟨hn, hlt⟩
        exact hfit (Nat.lt_of_le_of_lt (hn.le hpos) hlt)

omit hpos in
theorem writes_plus : Writes base ('+' :: cs) n ↔ cs ≠ [] ∧ Continues base 0 cs n := by
  constructor
  · rintro ⟨digits, ds, hcs | hcs, hne, hds, rfl⟩
    · subst hcs
      obtain ⟨d, ds, hc, -⟩ := List.forall₂_cons_left_iff.mp hds
      exact absurd hc (not_isDigit_plus hbase d)
    · obtain rfl := List.tail_eq_of_cons_eq hcs
      exact ⟨hne, ds, hds, rfl⟩
  · rintro ⟨hne, ds, hds, hn⟩
    exact ⟨cs, ds, .inr rfl, hne, hds, hn⟩

omit hpos hbase in
theorem writes_of_ne_plus (hc : c ≠ '+') :
    Writes base (c :: cs) n ↔ Continues base 0 (c :: cs) n := by
  constructor
  · rintro ⟨digits, ds, rfl | hcs, -, hds, rfl⟩
    · exact ⟨ds, hds, rfl⟩
    · exact absurd (List.head_eq_of_cons_eq hcs) hc
  · rintro ⟨ds, hds, hn⟩
    exact ⟨c :: cs, ds, .inl rfl, List.cons_ne_nil c cs, hds, hn⟩

/-- **A text is read as a number if it is a numeral and the number fits.** -/
theorem readNumber_eq_ok_iff : readNumber base cs = .ok n ↔ Writes base cs n ∧ n < 2 ^ 32 := by
  unfold readNumber
  split
  · refine iff_of_false (fun h => nomatch h) ?_
    rintro ⟨⟨digits, ds, hcs, hne, -⟩, -⟩
    rcases hcs with rfl | hcs
    · exact hne rfl
    · exact nomatch hcs
  · refine iff_of_false (fun h => nomatch h) ?_
    rw [writes_plus hbase]
    exact fun h => h.1.1 rfl
  · next digits hne =>
    rw [readDigits_eq_ok_iff hpos hbase (by decide), writes_plus hbase, and_iff_right hne]
  · next hne _ hplus =>
    obtain ⟨c, cs, rfl⟩ := List.exists_cons_of_ne_nil hne
    have hc : c ≠ '+' := by
      rintro rfl
      exact hplus cs rfl
    rw [readDigits_eq_ok_iff hpos hbase (by decide), writes_of_ne_plus hc]

end Reading

/-! ### Numerals of numbers -/

/-- A numeral holds nothing but a plus sign and digits. -/
theorem Writes.mem {base n : Nat} {cs : List Char} (h : Writes base cs n) {c : Char} (hc : c ∈ cs) :
    c = '+' ∨ ∃ d, IsDigit base c d := by
  obtain ⟨digits, ds, hcs, -, hds, -⟩ := h
  have hdigit (hmem : c ∈ digits) : ∃ d, IsDigit base c d := by
    obtain ⟨i, hi, rfl⟩ := List.getElem_of_mem hmem
    exact ⟨_, hds.get hi (hds.length_eq ▸ hi)⟩
  rcases hcs with rfl | rfl
  · exact .inr (hdigit hc)
  · exact (List.mem_cons.mp hc).imp_right hdigit

theorem Writes.concat {base : Nat} {cs : List Char} {n : Nat} (h : Writes base cs n) {c : Char}
    {d : Nat} (hc : IsDigit base c d) : Writes base (cs ++ [c]) (base * n + d) := by
  obtain ⟨digits, ds, hcs, hne, hds, rfl⟩ := h
  refine ⟨digits ++ [c], ds ++ [d], ?_, List.append_ne_nil_of_left_ne_nil hne _,
    List.rel_append hds (.cons hc .nil), ?_⟩
  · rcases hcs with rfl | rfl
    · exact .inl rfl
    · exact .inr rfl
  · rw [List.reverse_append, List.reverse_singleton, List.singleton_append, Nat.ofDigits_cons]
    simp [Nat.add_comm]

/-- A number is written by the digits that are printed for it. -/
theorem writes_toDigits {base : Nat} (hlow : 1 < base) (hbase : base ≤ 16) (n : Nat) :
    Writes base (Nat.toDigits base n) n := by
  induction n using Nat.strongRecOn with
  | ind n ih =>
    by_cases hn : n < base
    · rw [Nat.toDigits_of_lt_base hn]
      exact ⟨[n.digitChar], [n], .inl rfl, List.cons_ne_nil _ _,
        .cons (isDigit_digitChar hbase hn) .nil, by simp⟩
    · have hdigit := isDigit_digitChar hbase (Nat.mod_lt n (by omega : 0 < base))
      rw [Nat.toDigits_of_base_le hlow (by omega)]
      have h := (ih (n / base) (Nat.div_lt_self (by omega) hlow)).concat hdigit
      rwa [Nat.div_add_mod] at h

end PumaBoard.Text
