import PumaBoard.Toml.Scalar
import PumaBoard.Toml.Token

/-!
The statements of a TOML text, one on a line: headers of tables, headers of elements of arrays of
tables, and values for keys. Within brackets and braces lines may end anywhere but inside of a
path. Arrays and inline tables are nested at most `maxNesting` deep.
-/

namespace PumaBoard.Toml

/-- A statement; paths are given as the keys before the last one and the last key. -/
inductive Statement where
  | table (path : List String) (key : String)
  | element (path : List String) (key : String)
  | assign (path : List String) (key : String) (value : Value)

/-! ### Blanks -/

/-- What is left after something has been read from tokens. -/
abbrev Rest (ts : List Token) := { rest : List Token // rest.length < ts.length }

/-- The tokens without blanks in front. -/
def skipBlanks : List Token → List Token
  | .blank _ :: ts => skipBlanks ts
  | ts => ts

/-- The tokens without blanks and line ends in front. -/
def skipLines : List Token → List Token
  | .blank _ :: ts => skipLines ts
  | .lineEnd :: ts => skipLines ts
  | ts => ts

theorem length_skipBlanks (ts : List Token) : (skipBlanks ts).length ≤ ts.length := by
  fun_induction skipBlanks ts with
  | case1 _ _ ih => exact Nat.le_succ_of_le ih
  | case2 => exact Nat.le_refl _

theorem length_skipLines (ts : List Token) : (skipLines ts).length ≤ ts.length := by
  fun_induction skipLines ts with
  | case1 _ _ ih | case2 _ ih => exact Nat.le_succ_of_le ih
  | case3 => exact Nat.le_refl _

/-- What follows a token that blanks and line ends may stand in front of. -/
theorem length_of_skipLines {ts rest : List Token} {t : Token} (h : skipLines ts = t :: rest) :
    rest.length < ts.length := by
  have := length_skipLines ts
  rw [h, List.length_cons] at this
  omega

/-! ### Keys -/

/-- The character may stand in a key without quotes. -/
def isKeyChar (c : Char) : Bool :=
  ('a' ≤ c && c ≤ 'z') || ('A' ≤ c && c ≤ 'Z') || ('0' ≤ c && c ≤ '9') || c = '_' || c = '-'

/-- The key that a token stands for. -/
def Token.key? : Token → Option String
  | .bare text => if text.all isKeyChar then some (String.ofList text) else none
  | .quoted text false => some text
  | _ => none

/-- Reads keys with dots between them, after those in `keys`. While `expecting`, a key must come
next. -/
def readKeys? (keys : List String) (expecting : Bool) :
    List Token → Option (List String × List Token)
  | [] => if expecting then none else some (keys, [])
  | .blank _ :: ts => readKeys? keys expecting ts
  | .dot :: ts => if expecting then none else readKeys? keys true ts
  | t :: ts =>
    if expecting then
      match t.key? with
      | some key => readKeys? (keys ++ [key]) false ts
      | none => none
    else some (keys, t :: ts)

/-- Where a key is expected, one is read. -/
theorem length_of_readKeys? {keys found : List String} {expecting : Bool} {ts rest : List Token}
    (h : readKeys? keys expecting ts = some (found, rest)) :
    rest.length + expecting.toNat ≤ ts.length := by
  fun_induction readKeys? keys expecting ts with
  | case1 | case4 | case7 => simp at h
  | case2 | case8 =>
    simp only [Option.some.injEq, Prod.mk.injEq] at h
    simp_all
  | case3 _ _ _ _ ih =>
    have := ih h
    simp only [List.length_cons]
    omega
  | case5 _ _ _ _ ih | case6 _ _ _ _ _ _ _ ih =>
    have := ih h
    simp_all
    try omega

/-- The most keys in a path. -/
def maxKeys : Nat := 80

/-- Reads a path of keys. -/
def readPath? (ts : List Token) : Option (List String × String × Rest ts) :=
  match h : readKeys? [] true ts with
  | none => none
  | some (keys, rest) =>
    match keys.getLast? with
    | none => none
    | some last =>
      if keys.length ≤ maxKeys then
        some (keys.dropLast, last, ⟨rest, length_of_readKeys? h⟩)
      else none

/-! ### Values -/

/-- How deep arrays and inline tables may be nested. -/
def maxNesting : Nat := 80

/-- Takes the text of a scalar: pieces and dots, and the spaces between pieces. -/
def takeScalar : List Token → List Char × List Token
  | .bare text :: ts => let (cs, rest) := takeScalar ts; (text ++ cs, rest)
  | .dot :: ts => let (cs, rest) := takeScalar ts; ('.' :: cs, rest)
  | .blank spaces :: .bare text :: ts =>
    let (cs, rest) := takeScalar ts
    (spaces ++ text ++ cs, rest)
  | ts => ([], ts)

theorem length_takeScalar (ts : List Token) : (takeScalar ts).2.length ≤ ts.length := by
  fun_induction takeScalar ts with
  | case1 _ _ _ _ h ih | case2 _ _ _ h ih =>
    rw [h] at ih
    exact Nat.le_succ_of_le ih
  | case3 _ _ _ _ _ h ih =>
    rw [h] at ih
    exact Nat.le_succ_of_le (Nat.le_succ_of_le ih)
  | case4 => exact Nat.le_refl _

/-- A scalar that holds characters is gone from what is left. -/
theorem length_takeScalar_of_ne_nil (ts : List Token) (h : (takeScalar ts).1 ≠ []) :
    (takeScalar ts).2.length < ts.length := by
  revert h
  fun_cases takeScalar ts with
  | case1 _ ts _ _ h | case2 ts _ _ h =>
    have := length_takeScalar ts
    rw [h] at this
    exact fun _ => Nat.lt_succ_of_le this
  | case3 _ _ ts _ _ h =>
    have := length_takeScalar ts
    rw [h] at this
    exact fun _ => Nat.lt_succ_of_le (Nat.le_succ_of_le this)
  | case4 => exact fun h => absurd rfl h

/-- A reader of one value. -/
abbrev ValueReader := (ts : List Token) → Option (Value × Rest ts)

/-- Reads a scalar. -/
def readPlain? : ValueReader := fun ts =>
  match h : takeScalar ts with
  | ([], _) => none
  | (c :: cs, rest) =>
    (readScalar? (c :: cs)).map fun v =>
      (v, ⟨rest, by simpa [h] using length_takeScalar_of_ne_nil ts (by simp [h])⟩)

/-- Reads the items of an array up to its closing bracket. -/
def readItems? (one : ValueReader) (ts : List Token) : Option (List Value × Rest ts) :=
  match hs : skipLines ts with
  | .closeBracket :: rest => some ([], ⟨rest, length_of_skipLines hs⟩)
  | inner =>
    match one inner with
    | none => none
    | some (v, ⟨after, _⟩) =>
      have : after.length < ts.length := by
        have := length_skipLines ts
        rw [hs] at this
        omega
      match h : skipLines after with
      | .closeBracket :: rest =>
        some ([v], ⟨rest, Nat.lt_trans (length_of_skipLines h) this⟩)
      | .comma :: next =>
        have : next.length < ts.length := Nat.lt_trans (length_of_skipLines h) this
        match readItems? one next with
        | none => none
        | some (vs, ⟨rest, _⟩) => some (v :: vs, ⟨rest, by omega⟩)
      | _ => none
termination_by ts.length

/-- Reads a path, an equals sign and a value within an inline table. -/
def readEntry? (one : ValueReader) (ts : List Token) :
    Option (List String × String × Value × Rest ts) :=
  match readPath? ts with
  | none => none
  | some (path, key, ⟨after, _⟩) =>
    match h : skipLines after with
    | .equals :: next =>
      match one (skipLines next) with
      | none => none
      | some (v, ⟨rest, _⟩) =>
        some (path, key, v, ⟨rest, by
          have := length_of_skipLines h
          have := length_skipLines next
          omega⟩)
    | _ => none

/-- Reads the entries of an inline table up to its closing brace and adds them to others. -/
def readEntries? (one : ValueReader) (es : Entries) (ts : List Token) :
    Option (Entries × Rest ts) :=
  match hs : skipLines ts with
  | .closeBrace :: rest => some (es, ⟨rest, length_of_skipLines hs⟩)
  | inner =>
    match readEntry? one inner with
    | none => none
    | some (path, key, v, ⟨after, _⟩) =>
      have : after.length < ts.length := by
        have := length_skipLines ts
        rw [hs] at this
        omega
      match Entries.assign? path key v .inline es, h : skipLines after with
      | some es, .closeBrace :: rest =>
        some (es, ⟨rest, Nat.lt_trans (length_of_skipLines h) this⟩)
      | some es, .comma :: next =>
        have : next.length < ts.length := Nat.lt_trans (length_of_skipLines h) this
        match readEntries? one es next with
        | none => none
        | some (es, ⟨rest, _⟩) => some (es, ⟨rest, by omega⟩)
      | _, _ => none
termination_by ts.length

/-- Reads a value in which arrays and inline tables are nested at most so deep. -/
def readValue? : Nat → ValueReader
  | _, .quoted text _ :: ts => some (.string text, ⟨ts, Nat.lt_succ_self _⟩)
  | 0, .openBracket :: _ => none
  | 0, .openBrace :: _ => none
  | depth + 1, .openBracket :: ts =>
    (readItems? (readValue? depth) ts).map fun (vs, rest) =>
      (.array false vs, ⟨rest, Nat.lt_succ_of_lt rest.2⟩)
  | depth + 1, .openBrace :: ts =>
    (readEntries? (readValue? depth) [] ts).map fun (es, rest) =>
      (.table .inline es, ⟨rest, Nat.lt_succ_of_lt rest.2⟩)
  | _, ts => readPlain? ts

/-! ### Statements -/

/-- Reads the end of a line. -/
def readLineEnd? (ts : List Token) : Option (List Token) :=
  match skipBlanks ts with
  | [] => some []
  | .lineEnd :: ts => some ts
  | _ => none

theorem length_of_readLineEnd? {ts rest : List Token} (h : readLineEnd? ts = some rest) :
    rest.length ≤ ts.length := by
  have := length_skipBlanks ts
  unfold readLineEnd? at h
  split at h <;> simp_all
  omega

/-- Reads a header after its first bracket. -/
def Statement.readHeader? : (ts : List Token) → Option (Statement × Rest ts)
  | .openBracket :: ts =>
    match readPath? ts with
    | some (path, key, ⟨.closeBracket :: .closeBracket :: rest, h⟩) =>
      some (.element path key, ⟨rest, by simp only [List.length_cons] at h ⊢; omega⟩)
    | _ => none
  | ts =>
    match readPath? ts with
    | some (path, key, ⟨.closeBracket :: rest, h⟩) =>
      some (.table path key, ⟨rest, by simp only [List.length_cons] at h; omega⟩)
    | _ => none

/-- Reads a value for a key. -/
def Statement.readAssignment? (ts : List Token) : Option (Statement × Rest ts) :=
  match readPath? ts with
  | some (path, key, ⟨.equals :: next, h⟩) =>
    match readValue? maxNesting (skipBlanks next) with
    | none => none
    | some (v, ⟨rest, _⟩) =>
      some (.assign path key v, ⟨rest, by
        have := length_skipBlanks next
        simp only [List.length_cons] at h
        omega⟩)
  | _ => none

/-- Reads a statement without the end of its line. -/
def Statement.read? : (ts : List Token) → Option (Statement × Rest ts)
  | .openBracket :: ts =>
    (readHeader? ts).map fun (s, rest) => (s, ⟨rest, Nat.lt_succ_of_lt rest.2⟩)
  | ts => readAssignment? ts

/-- Reads the statements of a text. -/
def Statement.readAll? (ts : List Token) : Option (List Statement) :=
  match hs : skipLines ts with
  | [] => some []
  | inner =>
    match Statement.read? inner with
    | none => none
    | some (s, ⟨after, _⟩) =>
      match h : readLineEnd? after with
      | none => none
      | some rest =>
        have : rest.length < ts.length := by
          have := length_of_readLineEnd? h
          have := length_skipLines ts
          rw [hs] at this
          omega
        (Statement.readAll? rest).map (s :: ·)
termination_by ts.length

end PumaBoard.Toml
