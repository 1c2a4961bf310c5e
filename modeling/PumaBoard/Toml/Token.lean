import PumaBoard.Toml.Quoted

/-!
The tokens of a TOML text. Spaces and comments are blanks; a line end is a token of its own. What
is neither blank, quoted nor punctuation is a bare piece, whatever characters it holds; quotes
inside of it are not those of a string.
-/

namespace PumaBoard.Toml

/-- A token. -/
inductive Token where
  | lineEnd
  | blank (text : List Char)
  | equals
  | dot
  | comma
  | openBracket
  | closeBracket
  | openBrace
  | closeBrace
  | bare (text : List Char)
  /-- A string; one that may run over several lines cannot be a key. -/
  | quoted (text : String) (severalLines : Bool)
deriving DecidableEq, Repr

namespace Token

/-- The token of a punctuation character. -/
def ofMark? (c : Char) : Option Token :=
  if c = '=' then some equals
  else if c = '.' then some dot
  else if c = ',' then some comma
  else if c = '[' then some openBracket
  else if c = ']' then some closeBracket
  else if c = '{' then some openBrace
  else if c = '}' then some closeBrace
  else none

/-- The character belongs to a bare piece. -/
def isBare (c : Char) : Bool :=
  (ofMark? c).isNone && !(isSpace c || c = '\n' || c = '\r' || c = '#')

/-- The token of a string that has been read. -/
def ofReading (severalLines : Bool) (r : Reading) : Option (Token × List Char) :=
  r.map fun (cs, rest) => (quoted (String.ofList cs) severalLines, rest)

/-- The comment up to the end of the line, if its characters may stand there. -/
def ofComment (cs : List Char) : Option (Token × List Char) :=
  let text := cs.takeWhile fun c => c ≠ '\n' ∧ c ≠ '\r'
  if text.all isPlain then some (blank text, cs.drop text.length) else none

/-- The longest run of a class of characters that a text starts with, as a token. -/
def ofRun (p : Char → Bool) (make : List Char → Token) (cs : List Char) :
    Option (Token × List Char) :=
  let text := cs.takeWhile p
  if text.isEmpty then none else some (make text, cs.drop text.length)

/-- The first token of a text and what follows it. -/
def next? : List Char → Option (Token × List Char)
  | [] => none
  | '\n' :: rest => some (lineEnd, rest)
  | '\r' :: '\n' :: rest => some (lineEnd, rest)
  | '#' :: rest => ofComment rest
  | '"' :: '"' :: '"' :: rest =>
    ofReading true (readMultiBasic false (dropFirstLineEnd rest))
  | '"' :: rest => ofReading false (readBasic rest)
  | '\'' :: '\'' :: '\'' :: rest =>
    ofReading true (readMultiLiteral (dropFirstLineEnd rest))
  | '\'' :: rest => ofReading false (readLiteral rest)
  | c :: rest =>
    match ofMark? c with
    | some mark => some (mark, rest)
    | none => (ofRun isSpace blank (c :: rest)).or (ofRun isBare bare (c :: rest))

/-! ### What is left -/

theorem rest_of_ofReading {b : Bool} {r : Reading} {t : Token} {rest : List Char}
    (h : ofReading b r = some (t, rest)) : ∃ cs, r = some (cs, rest) := by
  cases r with
  | none => simp [ofReading] at h
  | some p =>
    obtain ⟨cs, u⟩ := p
    simp only [ofReading, Option.map_some, Option.some.injEq, Prod.mk.injEq] at h
    exact ⟨cs, by rw [h.2]⟩

theorem length_of_ofComment {cs rest : List Char} {t : Token}
    (h : ofComment cs = some (t, rest)) : rest.length ≤ cs.length := by
  simp only [ofComment] at h
  split at h
  · simp only [Option.some.injEq, Prod.mk.injEq] at h
    simp only [← h.2, List.length_drop]
    omega
  · simp at h

theorem length_of_ofRun {p : Char → Bool} {make : List Char → Token} {cs rest : List Char}
    {t : Token} (h : ofRun p make cs = some (t, rest)) : rest.length < cs.length := by
  simp only [ofRun] at h
  split at h
  · simp at h
  · rename_i hne
    simp only [Option.some.injEq, Prod.mk.injEq] at h
    have hpos : 0 < (cs.takeWhile p).length := List.length_pos_iff.2 (by simpa using hne)
    have hle : (cs.takeWhile p).length ≤ cs.length := (List.takeWhile_prefix p).length_le
    simp only [← h.2, List.length_drop]
    omega

theorem length_of_next? {cs rest : List Char} {t : Token} (h : next? cs = some (t, rest)) :
    rest.length < cs.length := by
  unfold next? at h
  split at h
  · simp at h
  · simp_all
  · simp only [Option.some.injEq, Prod.mk.injEq] at h
    simp only [← h.2, List.length_cons]
    omega
  · have := length_of_ofComment h
    simp only [List.length_cons]
    omega
  · rename_i r
    obtain ⟨_, h⟩ := rest_of_ofReading h
    have := length_of_readMultiBasic h
    have := length_dropFirstLineEnd r
    simp only [List.length_cons]
    omega
  · obtain ⟨_, h⟩ := rest_of_ofReading h
    have := length_of_readBasic h
    simp only [List.length_cons]
    omega
  · rename_i r
    obtain ⟨_, h⟩ := rest_of_ofReading h
    have := length_of_readMultiLiteral h
    have := length_dropFirstLineEnd r
    simp only [List.length_cons]
    omega
  · obtain ⟨_, h⟩ := rest_of_ofReading h
    have := length_of_readLiteral h
    simp only [List.length_cons]
    omega
  · split at h
    · simp_all
    · rcases Option.or_eq_some_iff.1 h with h | ⟨_, h⟩ <;> exact length_of_ofRun h

/-- The tokens of a text. -/
def scan (cs : List Char) : Option (List Token) :=
  if cs.isEmpty then some []
  else
    match _h : next? cs with
    | none => none
    | some (token, rest) => (scan rest).map (token :: ·)
termination_by cs.length
decreasing_by exact length_of_next? ‹_›

end Token

end PumaBoard.Toml
