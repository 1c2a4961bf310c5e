import Mathlib.Algebra.Group.Nat.Defs
import PumaBoard.Proofs.Triangle.Places
import PumaBoard.SaveState.Codec

/-!
What a codec has to keep to, and that the ways to combine codecs keep to it. A reader takes no more
than the bytes there are and does not look past those it takes; a writer only appends; and what was
written is read back by a reader that starts where the writer did.
-/

namespace PumaBoard.Codec

/-! ### Readers -/

/-- A way to read a value at a position, with the position after it. -/
abbrev Reader (α : Type) := ByteArray → Nat → Option (α × Nat)

/-- The reader stays within the bytes, and bytes after those it takes do not matter. -/
def Steady {α : Type} (read : Reader α) : Prop :=
  ∀ ⦃b i v j⦄, i ≤ b.size → read b i = some (v, j) →
    j ≤ b.size ∧ ∀ t, read (b ++ t) i = some (v, j)

namespace Steady

variable {α β : Type} {r : Reader α}

theorem some (x : α) : Steady fun _ i => some (x, i) := by
  intro b i v j hi h
  obtain ⟨rfl, rfl⟩ := Prod.mk.inj (Option.some.inj h)
  exact ⟨hi, fun _ => rfl⟩

theorem none : Steady fun _ _ => (none : Option (α × Nat)) := by
  intro b i v j _ h
  cases h

theorem bind {s : α → Reader β} (hr : Steady r) (hs : ∀ x, Steady (s x)) :
    Steady fun b i => (r b i).bind fun p => s p.1 b p.2 := by
  intro b i v j hi h
  obtain ⟨⟨x, k⟩, hx, hv⟩ := Option.bind_eq_some_iff.mp h
  obtain ⟨hk, hxt⟩ := hr hi hx
  obtain ⟨hj, hvt⟩ := hs x hk hv
  refine ⟨hj, fun t => ?_⟩
  dsimp only
  rw [hxt, Option.bind_some, hvt]

theorem map (f : α → β) (hr : Steady r) : Steady fun b i => (r b i).map fun p => (f p.1, p.2) := by
  intro b i v j hi h
  obtain ⟨⟨x, k⟩, hx, hv⟩ := Option.map_eq_some_iff.mp h
  obtain ⟨rfl, rfl⟩ := Prod.mk.inj hv
  obtain ⟨hk, hxt⟩ := hr hi hx
  refine ⟨hk, fun t => ?_⟩
  dsimp only
  rw [hxt, Option.map_some]

theorem ite {c : Prop} [Decidable c] {s : Reader α} (hr : Steady r) (hs : Steady s) :
    Steady fun b i => if c then r b i else s b i := by
  by_cases h : c
  · simpa only [h, if_true] using hr
  · simpa only [h, if_false] using hs

end Steady

/-! ### What a codec keeps to -/

/-- The codec reads steadily, writes by appending, and reads back every value of a kind. -/
structure Lawful {α : Type} (c : Codec α) (fits : α → Prop) : Prop where
  steady : Steady c.read
  appends : ∀ acc v, ∃ t, c.write acc v = acc ++ t
  read_write : ∀ {v}, fits v → ∀ acc,
    c.read (c.write acc v) acc.size = some (v, (c.write acc v).size)

namespace Lawful

variable {α β : Type} {a : Codec α} {b : Codec β} {f : α → Prop} {g : β → Prop}

theorem size_le (h : a.Lawful f) (acc : ByteArray) (v : α) : acc.size ≤ (a.write acc v).size := by
  obtain ⟨t, ht⟩ := h.appends acc v
  rw [ht, ByteArray.size_append]
  omega

/-- A value is read back whatever follows it. -/
theorem read_append (h : a.Lawful f) {v : α} (hv : f v) (acc t : ByteArray) :
    a.read (a.write acc v ++ t) acc.size = some (v, (a.write acc v).size) :=
  (h.steady (h.size_le acc v) (h.read_write hv acc)).2 t

theorem mono {f' : α → Prop} (h : a.Lawful f) (hf : ∀ v, f' v → f v) : a.Lawful f' :=
  ⟨h.steady, h.appends, fun hv => h.read_write (hf _ hv)⟩

/-! ### Combinations -/

theorem pair (ha : a.Lawful f) (hb : b.Lawful g) :
    (a.pair b).Lawful fun v => f v.1 ∧ g v.2 where
  steady := ha.steady.bind fun x => hb.steady.bind fun y => .some (x, y)
  appends acc v := by
    obtain ⟨s, hs⟩ := ha.appends acc v.1
    obtain ⟨t, ht⟩ := hb.appends (a.write acc v.1) v.2
    exact ⟨s ++ t, by rw [← ByteArray.append_assoc, ← hs, ← ht]; rfl⟩
  read_write {v} hv acc := by
    obtain ⟨t, ht⟩ := hb.appends (a.write acc v.1) v.2
    have hx := ha.read_append hv.1 acc t
    have hy := hb.read_write hv.2 (a.write acc v.1)
    rw [← ht] at hx
    simp only [Codec.pair, hx, hy, Option.bind_eq_bind, Option.bind_some, Option.pure_def]

theorem iso {pack : α → β} {unpack : β → α} (ha : a.Lawful f)
    (h : ∀ v, f (unpack v) → pack (unpack v) = v) :
    (a.iso pack unpack).Lawful fun v => f (unpack v) where
  steady := ha.steady.map pack
  appends acc v := ha.appends acc (unpack v)
  read_write {v} hv acc := by
    simp only [Codec.iso, ha.read_write hv acc, Option.map_some, h v hv]

theorem partIso {pack : α → Option β} {unpack : β → α} (ha : a.Lawful f) :
    (a.partIso pack unpack).Lawful fun v => f (unpack v) ∧ pack (unpack v) = some v where
  steady := by
    refine ha.steady.bind (s := fun x _ i => (pack x).bind fun y => some (y, i)) fun x => ?_
    cases pack x with
    | none => exact .none
    | some y => exact .some y
  appends acc v := ha.appends acc (unpack v)
  read_write {v} hv acc := by
    simp only [Codec.partIso, ha.read_write hv.1 acc, hv.2, Option.bind_eq_bind, Option.bind_some,
      Option.pure_def]

/-! ### Lists of values -/

theorem appends_foldl (ha : a.Lawful f) (xs : List α) (acc : ByteArray) :
    ∃ t, xs.foldl a.write acc = acc ++ t := by
  induction xs generalizing acc with
  | nil => exact ⟨.empty, ByteArray.append_empty.symm⟩
  | cons x xs ih =>
    obtain ⟨s, hs⟩ := ha.appends acc x
    obtain ⟨t, ht⟩ := ih (a.write acc x)
    exact ⟨s ++ t, by rw [List.foldl_cons, ht, hs, ByteArray.append_assoc]⟩

theorem steady_readMany (ha : a.Lawful f) (n : Nat) (xs : Array α) :
    Steady fun b i => a.readMany b i xs n := by
  induction n generalizing xs with
  | zero => exact .some xs
  | succ n ih =>
    refine cast (congrArg Steady ?_) (ha.steady.bind fun x => ih (xs.push x))
    funext b i
    rw [readMany]
    cases a.read b i <;> rfl

theorem readMany_foldl (ha : a.Lawful f) {xs : List α} (hxs : ∀ x ∈ xs, f x) (acc : ByteArray)
    (ys : Array α) :
    a.readMany (xs.foldl a.write acc) acc.size ys xs.length =
      some (ys ++ xs.toArray, (xs.foldl a.write acc).size) := by
  induction xs generalizing acc ys with
  | nil => simp [readMany]
  | cons x xs ih =>
    obtain ⟨hx, hxs⟩ := List.forall_mem_cons.mp hxs
    obtain ⟨t, ht⟩ := ha.appends_foldl xs (a.write acc x)
    have hread := ha.read_append hx acc t
    rw [← ht] at hread
    rw [List.foldl_cons, List.length_cons, readMany, hread]
    dsimp only
    rw [ih hxs]
    simp

theorem array (hlength : length.Lawful (· < 2 ^ 64)) (ha : a.Lawful f) :
    (array a).Lawful fun xs => xs.size < 2 ^ 64 ∧ ∀ x ∈ xs, f x where
  steady := hlength.steady.bind fun n => ha.steady_readMany n #[]
  appends acc xs := by
    obtain ⟨s, hs⟩ := hlength.appends acc xs.size
    obtain ⟨t, ht⟩ := ha.appends_foldl xs.toList (length.write acc xs.size)
    exact ⟨s ++ t, by rw [← ByteArray.append_assoc, ← hs, ← ht, Array.foldl_toList]; rfl⟩
  read_write {xs} hxs acc := by
    obtain ⟨t, ht⟩ := ha.appends_foldl xs.toList (length.write acc xs.size)
    have hn := hlength.read_append hxs.1 acc t
    have hall : ∀ x ∈ xs.toList, f x := by simpa using hxs.2
    have hmany := ha.readMany_foldl hall (length.write acc xs.size) #[]
    rw [← ht] at hn
    simp only [Array.foldl_toList, Array.length_toList, Array.toArray_toList, Array.empty_append]
      at hn hmany
    simp only [Codec.array, hn, hmany, Option.bind_eq_bind, Option.bind_some]

/-! ### Records -/

section Record

variable {ι : Type} {part : ι → Codec UInt32} {get : α → ι → UInt32} {put : α → ι → UInt32 → α}

theorem appends_writeParts (get : α → ι → UInt32) (hpart : ∀ k, (part k).Lawful fun _ => True)
    (v : α) (ks : List ι) (acc : ByteArray) : ∃ t, writeParts part get acc v ks = acc ++ t := by
  induction ks generalizing acc with
  | nil => exact ⟨.empty, ByteArray.append_empty.symm⟩
  | cons k ks ih =>
    obtain ⟨s, hs⟩ := (hpart k).appends acc (get v k)
    obtain ⟨t, ht⟩ := ih ((part k).write acc (get v k))
    exact ⟨s ++ t, by rw [← ByteArray.append_assoc, ← hs, ← ht]; rfl⟩

theorem steady_readParts (put : α → ι → UInt32 → α) (hpart : ∀ k, (part k).Lawful fun _ => True)
    (ks : List ι) (v : α) : Steady fun b i => readParts part put b i v ks := by
  induction ks generalizing v with
  | nil => exact .some v
  | cons k ks ih =>
    refine cast (congrArg Steady ?_) ((hpart k).steady.bind fun w => ih (put v k w))
    funext b i
    rw [readParts]
    cases (part k).read b i <;> rfl

/-- Reading the parts of a record puts them, one after the other, into the record begun. -/
theorem readParts_writeParts (get : α → ι → UInt32) (put : α → ι → UInt32 → α)
    (hpart : ∀ k, (part k).Lawful fun _ => True) (v : α) (ks : List ι) (acc : ByteArray) (u : α) :
    readParts part put (writeParts part get acc v ks) acc.size u ks =
      some (ks.foldl (fun u k => put u k (get v k)) u, (writeParts part get acc v ks).size) := by
  induction ks generalizing acc u with
  | nil => rfl
  | cons k ks ih =>
    obtain ⟨t, ht⟩ := appends_writeParts get hpart v ks ((part k).write acc (get v k))
    have hread := (hpart k).read_append (v := get v k) trivial acc t
    rw [← ht] at hread
    have hwrite : writeParts part get acc v (k :: ks) =
        writeParts part get ((part k).write acc (get v k)) v ks := rfl
    rw [hwrite, readParts, hread]
    exact ih _ _

/-- A record is lawful if its order misses no part, and the parts make up the record. -/
theorem record [DecidableEq ι] {order : List ι} {blank : α}
    (hpart : ∀ k, (part k).Lawful fun _ => True) (hall : ∀ k, k ∈ order)
    (hput : ∀ u k l w, get (put u k w) l = if k = l then w else get u l)
    (hget : ∀ {u v}, (∀ k, get u k = get v k) → u = v) :
    (record order part get put blank).Lawful fun _ => True where
  steady := steady_readParts put hpart order blank
  appends acc v := appends_writeParts get hpart v order acc
  read_write {v} _ acc := by
    have hwhole : order.foldl (fun u k => put u k (get v k)) blank = v :=
      hget fun k => (get_foldl_put hput (get v) order blank k).trans (if_pos (hall k))
    have h := readParts_writeParts get put hpart v order acc blank
    rw [hwhole] at h
    exact h

end Record

end Lawful

end PumaBoard.Codec
