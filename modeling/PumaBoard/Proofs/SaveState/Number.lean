import PumaBoard.Proofs.SaveState.Lawful

/-!
The codecs of single values are lawful: bytes and truth values, numbers of fixed and of variable
width, signed numbers, byte strings and texts.
-/

namespace PumaBoard.Codec

/-! ### Bytes -/

theorem push_eq_append (acc : ByteArray) (v : UInt8) : acc.push v = acc ++ [v].toByteArray :=
  ByteArray.append_toByteArray_singleton.symm

theorem appends_push {acc s : ByteArray} {v : UInt8} (h : ∃ t, s = acc.push v ++ t) :
    ∃ t, s = acc ++ t := by
  obtain ⟨t, rfl⟩ := h
  exact ⟨[v].toByteArray ++ t, by rw [push_eq_append, ByteArray.append_assoc]⟩

theorem lawful_byte : byte.Lawful fun _ => True where
  steady b i v j hi h := by
    simp only [byte] at h ⊢
    split at h
    · next hlt =>
      obtain ⟨rfl, rfl⟩ := Prod.mk.inj (Option.some.inj h)
      refine ⟨hlt, fun t => ?_⟩
      rw [dif_pos (by rw [ByteArray.size_append]; omega), ByteArray.getElem_append_left hlt]
    · cases h
  appends acc v := ⟨_, push_eq_append acc v⟩
  read_write {v} _ acc := by
    simp only [byte, ByteArray.size_push]
    rw [dif_pos (by omega)]
    simp only [push_eq_append]
    rw [ByteArray.getElem_append_right (Nat.le_refl _)]
    simp

theorem read_flag (b : ByteArray) (i : Nat) :
    flag.read b i = (byte.read b i).bind fun p =>
      if p.1 = 0 then some (false, p.2) else if p.1 = 1 then some (true, p.2) else none := by
  simp only [flag]
  cases byte.read b i with
  | none => rfl
  | some p =>
    obtain ⟨x, j⟩ := p
    by_cases h0 : x = 0
    · subst h0; rfl
    · by_cases h1 : x = 1
      · subst h1; rfl
      · rw [Option.bind_some, if_neg h0, if_neg h1]
        split
        · next h => exact absurd (congrArg Prod.fst (Option.some.inj h)) h0
        · next h => exact absurd (congrArg Prod.fst (Option.some.inj h)) h1
        · rfl

theorem lawful_flag : flag.Lawful fun _ => True where
  steady := by
    refine cast (congrArg Steady ?_) (lawful_byte.steady.bind
      (s := fun x _ i => if x = 0 then some (false, i) else if x = 1 then some (true, i) else none)
      fun x => .ite (.some false) (.ite (.some true) .none))
    funext b i
    exact (read_flag b i).symm
  appends acc v := ⟨_, push_eq_append acc _⟩
  read_write {v} _ acc := by
    have h := lawful_byte.read_write (v := if v then 1 else 0) trivial acc
    have hwrite : flag.write acc v = byte.write acc (if v then 1 else 0) := rfl
    rw [hwrite, read_flag, h]
    cases v <;> rfl

/-! ### Numbers of fixed width -/

theorem appends_writeLow (acc : ByteArray) (n width : Nat) : ∃ t, writeLow acc n width = acc ++ t := by
  induction width generalizing acc n with
  | zero => exact ⟨.empty, ByteArray.append_empty.symm⟩
  | succ width ih => exact appends_push (ih (acc.push (UInt8.ofNat (n % 256))) (n / 256))

theorem steady_readLow (width : Nat) : Steady fun b i => readLow b i width := by
  induction width with
  | zero => exact .some 0
  | succ width ih =>
    exact lawful_byte.steady.bind fun low => ih.bind fun high => .some (low.toNat + 256 * high)

theorem readLow_writeLow (width : Nat) {n : Nat} (h : n < 256 ^ width) (acc : ByteArray) :
    readLow (writeLow acc n width) acc.size width = some (n, (writeLow acc n width).size) := by
  induction width generalizing acc n with
  | zero =>
    have : n = 0 := by simpa using h
    rw [this]; rfl
  | succ width ih =>
    have hdiv : n / 256 < 256 ^ width := Nat.div_lt_of_lt_mul (by rwa [Nat.pow_succ'] at h)
    obtain ⟨t, ht⟩ := appends_writeLow (acc.push (UInt8.ofNat (n % 256))) (n / 256) width
    have hlow := lawful_byte.read_append (v := UInt8.ofNat (n % 256)) trivial acc t
    have hhigh := ih hdiv (acc.push (UInt8.ofNat (n % 256)))
    have hbyte : (UInt8.ofNat (n % 256)).toNat = n % 256 :=
      UInt8.toNat_ofNat_of_lt' (Nat.mod_lt _ (by decide))
    have hwrite : byte.write acc (UInt8.ofNat (n % 256)) = acc.push (UInt8.ofNat (n % 256)) := rfl
    rw [hwrite, ← ht] at hlow
    rw [writeLow, readLow]
    simp only [hlow, hhigh, hbyte, Option.bind_eq_bind, Option.bind_some, Option.pure_def,
      Nat.mod_add_div]

theorem lawful_fixedWord : fixedWord.Lawful fun _ => True where
  steady := (steady_readLow 4).map UInt32.ofNat
  appends acc v := appends_writeLow acc v.toNat 4
  read_write {v} _ acc := by
    have h := readLow_writeLow 4 v.toNat_lt acc
    simp only [fixedWord, h, Option.map_some, UInt32.ofNat_toNat]

/-! ### Numbers of variable width -/

theorem appends_writeNumber (acc : ByteArray) (n : Nat) : ∃ t, writeNumber acc n = acc ++ t := by
  unfold writeNumber
  split
  · exact ⟨_, push_eq_append ..⟩
  · split
    · exact appends_push (appends_writeLow (acc.push 251) n 2)
    · split
      · exact appends_push (appends_writeLow (acc.push 252) n 4)
      · exact appends_push (appends_writeLow (acc.push 253) n 8)

/-- Reads the rest of a number after its mark. -/
def readMarked (width : Nat) (mark : UInt8) : Reader Nat := fun b i =>
  if mark < 251 then some (mark.toNat, i)
  else if mark = 251 ∧ 2 ≤ width then readLow b i 2
  else if mark = 252 ∧ 4 ≤ width then readLow b i 4
  else if mark = 253 ∧ 8 ≤ width then readLow b i 8
  else none

theorem readNumber_eq (width : Nat) (b : ByteArray) (i : Nat) :
    readNumber width b i = (byte.read b i).bind fun p => readMarked width p.1 b p.2 := rfl

theorem steady_readNumber (width : Nat) : Steady (readNumber width) :=
  lawful_byte.steady.bind fun mark =>
    show Steady (readMarked width mark) from
      .ite (.some mark.toNat) <| .ite (steady_readLow 2) <| .ite (steady_readLow 4) <|
        .ite (steady_readLow 8) .none

/-- A mark and the bytes after it are read back as a number. -/
theorem readNumber_marked {mark : UInt8} {bytes n : Nat} (h : n < 256 ^ bytes) (width : Nat)
    (acc : ByteArray)
    (hmark : ∀ b i, readMarked width mark b i = readLow b i bytes) :
    readNumber width (writeLow (acc.push mark) n bytes) acc.size =
      some (n, (writeLow (acc.push mark) n bytes).size) := by
  obtain ⟨t, ht⟩ := appends_writeLow (acc.push mark) n bytes
  have hbyte := lawful_byte.read_append (v := mark) trivial acc t
  have hwrite : byte.write acc mark = acc.push mark := rfl
  rw [hwrite, ← ht] at hbyte
  rw [readNumber_eq, hbyte, Option.bind_some, hmark]
  exact readLow_writeLow bytes h (acc.push mark)

/-- A number is read back by a reader that is wide enough for it. -/
theorem readNumber_writeNumber (width : Nat) {n : Nat} (hwidth : width = 4 ∨ width = 8)
    (h : n < 256 ^ width) (acc : ByteArray) :
    readNumber width (writeNumber acc n) acc.size = some (n, (writeNumber acc n).size) := by
  unfold writeNumber
  split
  · next hn =>
    have hbyte := lawful_byte.read_write (v := UInt8.ofNat n) trivial acc
    have hwrite : byte.write acc (UInt8.ofNat n) = acc.push (UInt8.ofNat n) := rfl
    have hnat : (UInt8.ofNat n).toNat = n :=
      UInt8.toNat_ofNat_of_lt' (Nat.lt_trans hn (by decide))
    have hlt : UInt8.ofNat n < 251 := UInt8.lt_iff_toNat_lt.mpr (by rw [hnat]; exact hn)
    rw [hwrite] at hbyte
    rw [readNumber_eq, hbyte, Option.bind_some, readMarked, if_pos hlt, hnat]
  · split
    · next hn =>
      refine readNumber_marked hn width acc fun b i => ?_
      rcases hwidth with rfl | rfl <;> rfl
    · split
      · next hn =>
        refine readNumber_marked hn width acc fun b i => ?_
        rcases hwidth with rfl | rfl <;> rfl
      · next hn =>
        -- what does not fit four bytes is read by the wide reader alone
        rcases hwidth with rfl | rfl
        · exact absurd h hn
        · exact readNumber_marked h 8 acc fun b i => rfl

theorem lawful_word : word.Lawful fun _ => True where
  steady := (steady_readNumber 4).map UInt32.ofNat
  appends acc v := appends_writeNumber acc v.toNat
  read_write {v} _ acc := by
    have h := readNumber_writeNumber 4 (.inl rfl) v.toNat_lt acc
    simp only [word, h, Option.map_some, UInt32.ofNat_toNat]

theorem lawful_long : long.Lawful fun _ => True where
  steady := (steady_readNumber 8).map UInt64.ofNat
  appends acc v := appends_writeNumber acc v.toNat
  read_write {v} _ acc := by
    have h := readNumber_writeNumber 8 (.inr rfl) v.toNat_lt acc
    simp only [long, h, Option.map_some, UInt64.ofNat_toNat]

theorem lawful_length : length.Lawful (· < 2 ^ 64) where
  steady := steady_readNumber 8
  appends acc v := appends_writeNumber acc v
  read_write hv acc := readNumber_writeNumber 8 (.inr rfl) hv acc

/-! ### Signed numbers -/

theorem toInt32_neg_iff (w : UInt32) : w.toInt32 < 0 ↔ 2 ^ 31 ≤ w.toNat := by
  have h : w.toInt32.toInt = w.toBitVec.toInt := rfl
  rw [Int32.lt_iff_toInt_lt, h, BitVec.toInt_eq_toNat_cond]
  have := w.toNat_lt
  have hb : w.toBitVec.toNat = w.toNat := rfl
  simp only [hb, Int32.toInt_zero]
  split <;> omega

theorem unfoldSign_foldSign (w : UInt32) : unfoldSign (foldSign w) = w := by
  have hw := w.toNat_lt
  have hshift (v : UInt32) : (v <<< 1).toNat = 2 * v.toNat % 2 ^ 32 := by
    rw [UInt32.toNat_shiftLeft]; simp [Nat.shiftLeft_eq, Nat.mul_comm]
  have hhalf (v : UInt32) : (v >>> 1).toNat = v.toNat / 2 := by
    rw [UInt32.toNat_shiftRight]; simp [Nat.shiftRight_eq_div_pow]
  have hnot (v : UInt32) : (~~~v).toNat = 2 ^ 32 - 1 - v.toNat := UInt32.toNat_not v
  have hodd (v : UInt32) : v &&& 1 = 0 ↔ v.toNat % 2 = 0 := by
    rw [← UInt32.toNat_inj, UInt32.toNat_and]
    exact iff_of_eq (congrArg (· = 0) (Nat.and_one_is_mod _))
  unfold foldSign unfoldSign
  simp only [toInt32_neg_iff]
  apply UInt32.toNat_inj.mp
  split
  · rw [if_neg (by rw [hodd, hnot, hshift]; omega), hnot, hhalf, hnot, hshift]
    omega
  · rw [if_pos (by rw [hodd, hshift]; omega), hhalf, hshift]
    omega

theorem lawful_signedWord : signedWord.Lawful fun _ => True :=
  lawful_word.iso fun v _ => unfoldSign_foldSign v

theorem lawful_signed : signed.Lawful fun _ => True :=
  lawful_signedWord.iso fun _ _ => rfl

/-! ### Bytes and texts -/

theorem lawful_bytes : bytes.Lawful (·.size < 2 ^ 64) where
  steady := by
    refine lawful_length.steady.bind
      (s := fun n b i => if i + n ≤ b.size then some (b.extract i (i + n), i + n) else none)
      fun n => ?_
    intro b i v j _ h
    dsimp only at h ⊢
    split at h
    · next hle =>
      obtain ⟨rfl, rfl⟩ := Prod.mk.inj (Option.some.inj h)
      refine ⟨hle, fun t => ?_⟩
      have hpast : t.extract (i - b.size) (i + n - b.size) = .empty := by
        rw [ByteArray.extract_eq_empty_iff]; omega
      rw [if_pos (by rw [ByteArray.size_append]; omega), ByteArray.extract_append, hpast,
        ByteArray.append_empty]
    · cases h
  appends acc v := by
    obtain ⟨t, ht⟩ := lawful_length.appends acc v.size
    exact ⟨t ++ v, by rw [← ByteArray.append_assoc, ← ht]; rfl⟩
  read_write {v} hv acc := by
    have hn := lawful_length.read_append hv acc v
    simp only [bytes, hn, Option.bind_eq_bind, Option.bind_some, ByteArray.size_append]
    rw [if_pos (Nat.le_refl _), ByteArray.extract_append_eq_right rfl rfl]

theorem fromUTF8?_toUTF8 (s : String) : String.fromUTF8? s.toUTF8 = some s := by
  unfold String.fromUTF8? String.toUTF8
  rw [dif_pos s.isValidUTF8]; rfl

theorem lawful_text : text.Lawful (·.toUTF8.size < 2 ^ 64) :=
  lawful_bytes.partIso.mono fun v hv => ⟨hv, fromUTF8?_toUTF8 v⟩

end PumaBoard.Codec
