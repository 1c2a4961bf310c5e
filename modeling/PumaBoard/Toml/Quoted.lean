import PumaBoard.Text.Number

/-!
TOML strings in quotes: basic strings with escapes, literal strings without, and both in a form
that runs over several lines. Each reader starts after the opening quotes and gives the characters
up to the closing quotes and what follows them.
-/

namespace PumaBoard.Toml

/-- What a reader of a string gives. -/
abbrev Reading := Option (List Char × List Char)

/-- The character may stand in a string or a comment: controls but the tab may not. -/
def isPlain (c : Char) : Bool := c = '\t' || (0x20 ≤ c.toNat && c.toNat ≠ 0x7F)

/-- The character is a space or a tab. -/
def isSpace (c : Char) : Bool := c = ' ' || c = '\t'

/-- Puts a character in front of what a reader gives. -/
def Reading.cons (c : Char) (r : Reading) : Reading := r.map fun (cs, rest) => (c :: cs, rest)

/-! ### Escapes -/

/-- The character that a single letter stands for after a backslash. -/
def escaped? (c : Char) : Option Char :=
  if c = 'b' then some '\x08'
  else if c = 't' then some '\t'
  else if c = 'n' then some '\n'
  else if c = 'f' then some '\x0c'
  else if c = 'r' then some '\r'
  else if c = 'e' then some '\x1b'
  else if c = '"' then some '"'
  else if c = '\\' then some '\\'
  else none

/-- The character with the given number in hexadecimal digits. -/
def numbered? (digits : List Char) : Option Char := do
  let values ← digits.mapM (Text.digitValue? 16)
  let n := values.foldl (fun n d => n * 16 + d) 0
  if h : n.isValidChar then some (Char.ofNatAux n h) else none

/-! ### On one line -/

/-- Reads a basic string. -/
def readBasic : List Char → Reading
  | [] => none
  | '"' :: rest => some ([], rest)
  | '\\' :: 'x' :: a :: b :: rest => do
    let x ← numbered? [a, b]
    Reading.cons x (readBasic rest)
  | '\\' :: 'u' :: a :: b :: c :: d :: rest => do
    let x ← numbered? [a, b, c, d]
    Reading.cons x (readBasic rest)
  | '\\' :: 'U' :: a :: b :: c :: d :: e :: f :: g :: h :: rest => do
    let x ← numbered? [a, b, c, d, e, f, g, h]
    Reading.cons x (readBasic rest)
  | '\\' :: c :: rest => do
    let x ← escaped? c
    Reading.cons x (readBasic rest)
  | c :: rest => if isPlain c then Reading.cons c (readBasic rest) else none

/-- Reads a literal string. -/
def readLiteral : List Char → Reading
  | [] => none
  | '\'' :: rest => some ([], rest)
  | c :: rest => if isPlain c then Reading.cons c (readLiteral rest) else none

/-! ### On several lines -/

/-- The rest of the line is empty but for spaces. -/
def endsLine (cs : List Char) : Bool :=
  match cs.dropWhile isSpace with
  | '\n' :: _ => true
  | '\r' :: '\n' :: _ => true
  | _ => false

/-- Reads a basic string on several lines. While `skipping`, spaces and line ends are left out: a
backslash at the end of a line starts that. One or two quotes may stand before the closing ones. -/
def readMultiBasic (skipping : Bool) : List Char → Reading
  | [] => none
  | '"' :: '"' :: '"' :: '"' :: '"' :: rest => some (['"', '"'], rest)
  | '"' :: '"' :: '"' :: '"' :: rest => some (['"'], rest)
  | '"' :: '"' :: '"' :: rest => some ([], rest)
  | '\\' :: 'x' :: a :: b :: rest => do
    let x ← numbered? [a, b]
    Reading.cons x (readMultiBasic false rest)
  | '\\' :: 'u' :: a :: b :: c :: d :: rest => do
    let x ← numbered? [a, b, c, d]
    Reading.cons x (readMultiBasic false rest)
  | '\\' :: 'U' :: a :: b :: c :: d :: e :: f :: g :: h :: rest => do
    let x ← numbered? [a, b, c, d, e, f, g, h]
    Reading.cons x (readMultiBasic false rest)
  | '\\' :: c :: rest =>
    if endsLine (c :: rest) then readMultiBasic true (c :: rest)
    else do
      let x ← escaped? c
      Reading.cons x (readMultiBasic false rest)
  | '\r' :: '\n' :: rest =>
    if skipping then readMultiBasic true rest else Reading.cons '\n' (readMultiBasic false rest)
  | '\n' :: rest =>
    if skipping then readMultiBasic true rest else Reading.cons '\n' (readMultiBasic false rest)
  | c :: rest =>
    if skipping && isSpace c then readMultiBasic true rest
    else if isPlain c then Reading.cons c (readMultiBasic false rest)
    else none

/-- Reads a literal string on several lines. -/
def readMultiLiteral : List Char → Reading
  | [] => none
  | '\'' :: '\'' :: '\'' :: '\'' :: '\'' :: rest => some (['\'', '\''], rest)
  | '\'' :: '\'' :: '\'' :: '\'' :: rest => some (['\''], rest)
  | '\'' :: '\'' :: '\'' :: rest => some ([], rest)
  | '\r' :: '\n' :: rest => Reading.cons '\n' (readMultiLiteral rest)
  | c :: rest =>
    if c = '\n' || isPlain c then Reading.cons c (readMultiLiteral rest) else none

/-- The text without a line end in front: the one after opening quotes does not count. -/
def dropFirstLineEnd : List Char → List Char
  | '\n' :: rest => rest
  | '\r' :: '\n' :: rest => rest
  | cs => cs

/-! ### What is left -/

theorem Reading.rest_of_cons {c : Char} {r : Reading} {s rest : List Char}
    (h : r.cons c = some (s, rest)) : ∃ t, r = some (t, rest) := by
  cases r with
  | none => simp [Reading.cons] at h
  | some p =>
    obtain ⟨t, u⟩ := p
    simp only [Reading.cons, Option.map_some, Option.some.injEq, Prod.mk.injEq] at h
    exact ⟨t, by rw [h.2]⟩

theorem Reading.rest_of_bind {α : Type} {x : Option α} {f : α → Char} {r : Reading}
    {s rest : List Char} (h : (x.bind fun a => r.cons (f a)) = some (s, rest)) :
    ∃ t, r = some (t, rest) :=
  let ⟨_, _, h⟩ := Option.bind_eq_some_iff.1 h
  Reading.rest_of_cons h

theorem length_of_readBasic {cs s rest : List Char} (h : readBasic cs = some (s, rest)) :
    rest.length < cs.length := by
  fun_induction readBasic cs generalizing s with
  | case1 => simp at h
  | case2 r => simp_all
  | case3 _ _ _ ih | case4 _ _ _ _ _ ih | case5 _ _ _ _ _ _ _ _ _ ih | case6 _ _ _ _ _ ih =>
    obtain ⟨_, h⟩ := Reading.rest_of_bind h
    have := ih h
    simp only [List.length_cons]
    omega
  | case7 _ _ _ _ _ _ _ _ ih =>
    obtain ⟨_, h⟩ := Reading.rest_of_cons h
    have := ih h
    simp only [List.length_cons]
    omega
  | case8 => simp at h

theorem length_of_readLiteral {cs s rest : List Char} (h : readLiteral cs = some (s, rest)) :
    rest.length < cs.length := by
  fun_induction readLiteral cs generalizing s with
  | case1 => simp at h
  | case2 r => simp_all
  | case3 _ _ _ _ ih =>
    obtain ⟨_, h⟩ := Reading.rest_of_cons h
    have := ih h
    simp only [List.length_cons]
    omega
  | case4 => simp at h

theorem length_of_readMultiBasic {skipping : Bool} {cs s rest : List Char}
    (h : readMultiBasic skipping cs = some (s, rest)) : rest.length < cs.length := by
  fun_induction readMultiBasic skipping cs generalizing s with
  | case1 => simp at h
  | case2 | case3 | case4 =>
    simp only [Option.some.injEq, Prod.mk.injEq] at h
    simp only [← h.2, List.length_cons]
    omega
  | case5 | case6 | case7 | case9 =>
    rename_i ih
    obtain ⟨_, h⟩ := Reading.rest_of_bind h
    have := ih h
    simp only [List.length_cons]
    omega
  | case8 | case10 | case12 | case14 =>
    rename_i ih
    have := ih h
    simp only [List.length_cons] at this ⊢
    omega
  | case11 | case13 | case15 =>
    rename_i ih
    obtain ⟨_, h⟩ := Reading.rest_of_cons h
    have := ih h
    simp only [List.length_cons]
    omega
  | case16 => simp at h

theorem length_of_readMultiLiteral {cs s rest : List Char}
    (h : readMultiLiteral cs = some (s, rest)) : rest.length < cs.length := by
  fun_induction readMultiLiteral cs generalizing s with
  | case1 => simp at h
  | case2 | case3 | case4 =>
    simp only [Option.some.injEq, Prod.mk.injEq] at h
    simp only [← h.2, List.length_cons]
    omega
  | case5 _ ih | case6 _ _ _ _ _ _ _ ih =>
    obtain ⟨_, h⟩ := Reading.rest_of_cons h
    have := ih h
    simp only [List.length_cons]
    omega
  | case7 => simp at h

theorem length_dropFirstLineEnd (cs : List Char) : (dropFirstLineEnd cs).length ≤ cs.length := by
  unfold dropFirstLineEnd
  split
  · simp only [List.length_cons]
    omega
  · simp only [List.length_cons]
    omega
  · exact Nat.le_refl _

end PumaBoard.Toml
