import PumaBoard.Proofs.Triangle.Places
import PumaBoard.Proofs.Word.Number

/-!
The register formats of the integer bank. What a format keeps of a value it keeps as it is when the
value is written again, and it lies in the range of the format. Main statement: every field of the
fixed-point image of a floating point bank is in its format, whatever numbers the patterns stand
for.
-/

namespace PumaBoard

/-! ### Cutting twice -/

namespace Word

/-- The low bits in two's complement are found again in a wider two's complement number. -/
theorem signedLow_eq_bmod (w : UInt32) {n : Nat} (hn : n ≤ 32) :
    signedLow w n = Int.bmod (signedLow w 32) (2 ^ n) := by
  have hdvd : 2 ^ n ∣ 2 ^ 32 := Nat.pow_dvd_pow 2 hn
  rw [signedLow, signedLow, Int.bmod_bmod_of_dvd hdvd]

/-- A word that stands for the low bits of another one stands for its own. -/
theorem extend_extend {extend : UInt32 → UInt32} {n : Nat} (hn : n ≤ 32)
    (h : ∀ w, (extend w).toInt32.toInt = signedLow w n) (w : UInt32) :
    extend (extend w) = extend w := by
  have hlow : signedLow (extend w) n = signedLow w n := by
    rw [signedLow_eq_bmod _ hn, ← toInt_toInt32, h, signedLow, Int.bmod_bmod]
  have hword : (extend (extend w)).toInt32 = (extend w).toInt32 := by
    rw [← Int32.toInt_inj, h, h, hlow]
  calc extend (extend w) = (extend (extend w)).toInt32.toUInt32 := rfl
    _ = extend w := by rw [hword]; rfl

theorem low24_low24 (w : UInt32) : low24 (low24 w) = low24 w := by
  refine low24_congr ?_
  rw [toNat_low24, bitsAt, Nat.pow_zero, Nat.div_one, Nat.mod_mod]

end Word

namespace Triangle

open Word

theorem Format.store_store (format : Format) (v : UInt32) :
    format.store (format.store v) = format.store v := by
  cases format with
  | signed16 => exact extend_extend (by decide) toInt_signExtend16 v
  | unsigned24 => exact low24_low24 v
  | signed24 => exact extend_extend (by decide) toInt_signExtend24 v
  | unsigned32 => rfl
  | signed32 => rfl

/-! ### Banks in their formats -/

namespace Setup

/-- A bank that the registers can hold: writing any field as it stands changes nothing, and the
numbers lie in the ranges of the formats. -/
structure InFormat (t : Setup) : Prop where
  set_get : ∀ f, t.set f (t.get f) = t
  vertex : ∀ corner axis, -32768 ≤ (t.signed (.vertex corner axis)).toInt ∧
    (t.signed (.vertex corner axis)).toInt ≤ 32767
  colourStart : ∀ q, q.isColour = true → (t.get (.start q)).toNat ≤ 2 ^ 24 - 1
  colourGradient : ∀ q axis, q.isColour = true →
    -2 ^ 23 ≤ (t.signed (.gradient q axis)).toInt ∧
      (t.signed (.gradient q axis)).toInt ≤ 2 ^ 23 - 1

variable {t : Setup}

/-- A bank is in its formats if every field was cut to its format. -/
theorem inFormat_of_store {value : Field → UInt32}
    (h : ∀ f, t.get f = f.format.store (value f)) : t.InFormat where
  set_get f := by
    refine eq_of_get fun g => ?_
    rw [get_set]
    split
    · next hfg => rw [hfg, h g, Format.store_store]
    · rfl
  vertex corner axis := by
    obtain ⟨hlo, hhi⟩ := signedLow_bounds (value (.vertex corner axis)) (show 0 < 16 by decide)
    have hcut : (t.signed (.vertex corner axis)).toInt =
        signedLow (value (.vertex corner axis)) 16 := by
      rw [signed, h]
      exact toInt_signExtend16 _
    omega
  colourStart q hq := by
    have hcut : (t.get (.start q)).toNat = bitsAt (value (.start q)) 0 24 := by
      rw [h, Field.format, if_pos hq]
      exact toNat_low24 _
    have := bitsAt_lt (value (.start q)) 0 24
    omega
  colourGradient q axis hq := by
    obtain ⟨hlo, hhi⟩ := signedLow_bounds (value (.gradient q axis)) (show 0 < 24 by decide)
    have hcut : (t.signed (.gradient q axis)).toInt = signedLow (value (.gradient q axis)) 24 := by
      rw [signed, h, Field.format, if_pos hq]
      exact toInt_signExtend24 _
    omega

end Setup

/-! ### Banks written field by field -/

namespace FloatSetup

theorem get_toFixed (t : FloatSetup) (f : Field) :
    t.toFixed.get f = f.format.store (t.toWord f) := by
  rw [toFixed, get_foldl_put Setup.get_set, if_pos f.mem_all]

/-- **The fixed-point image is a bank that the registers can hold**, for every pattern in every
field. -/
theorem inFormat_toFixed (t : FloatSetup) : t.toFixed.InFormat :=
  Setup.inFormat_of_store t.get_toFixed

end FloatSetup

/-- Writing every field of a bank in its formats gives the bank, whatever was there before. -/
theorem Setup.InFormat.rewrite {t : Setup} (h : t.InFormat) (u : Setup) :
    Field.all.foldl (fun u f => u.set f (t.get f)) u = t := by
  refine eq_of_get fun g => ?_
  have hg : (t.set g (t.get g)).get g = t.get g := by rw [h.set_get]
  rw [get_set, if_pos rfl] at hg
  rw [get_foldl_put get_set, if_pos g.mem_all, hg]

end Triangle

end PumaBoard
