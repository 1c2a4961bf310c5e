import PumaBoard.Text.Blank

/-!
The words and the lines of a text. The words are what stands between white space, and the lines what
stands between line feeds; a text has no other words and no other lines.
-/

namespace PumaBoard.Text

/-! ### Pieces between separators -/

/-- A text is a piece without separators, or such a piece, a separator and a text. -/
@[elab_as_elim]
theorem induction_on_pieces {motive : List Char → Prop} (p : Char → Bool) (cs : List Char)
    (last : ∀ l, (∀ c ∈ l, p c = false) → motive l)
    (cut : ∀ l c rest, (∀ c ∈ l, p c = false) → p c = true → motive rest →
      motive (l ++ c :: rest)) : motive cs := by
  induction hn : cs.length using Nat.strongRecOn generalizing cs with
  | ind n ih =>
    cases hfind : cs.find? p with
    | none =>
      refine last cs fun c hc => ?_
      simpa using List.find?_eq_none.mp hfind c hc
    | some c =>
      obtain ⟨hc, l, rest, rfl, hl⟩ := List.find?_eq_some_iff_append.mp hfind
      refine cut l c rest (fun c hc => ?_) hc (ih rest.length ?_ rest rfl)
      · simpa using hl c hc
      · rw [← hn, List.length_append, List.length_cons]
        omega

theorem consWord_eq {ws : List (List Char)} (c : Char) (hws : ws ≠ []) :
    consWord c ws = ws.modifyHead (c :: ·) := by
  cases ws with
  | nil => exact absurd rfl hws
  | cons w ws => rfl

theorem pieces_eq (cs : List Char) : pieces cs = cs.splitOnP isBlank := by
  induction cs with
  | nil => rfl
  | cons c cs ih =>
    rw [pieces, List.splitOnP_cons_eq_if_modifyHead, ih,
      consWord_eq c (List.splitOnP_ne_nil isBlank cs)]

theorem cutLines_eq (cs : List Char) : cutLines cs = cs.splitOnP (· = '\n') := by
  induction cs with
  | nil => rfl
  | cons c cs ih =>
    rw [cutLines, List.splitOnP_cons_eq_if_modifyHead, ih,
      consWord_eq c (List.splitOnP_ne_nil _ cs)]
    simp only [decide_eq_true_eq]

/-! ### Words -/

/-- The code points with the property `White_Space` of the Unicode standard. -/
def whiteSpace : List Nat :=
  [0x09, 0x0A, 0x0B, 0x0C, 0x0D, 0x20, 0x85, 0xA0, 0x1680, 0x2000, 0x2001, 0x2002, 0x2003, 0x2004,
    0x2005, 0x2006, 0x2007, 0x2008, 0x2009, 0x200A, 0x2028, 0x2029, 0x202F, 0x205F, 0x3000]

/-- The character is white space in the Unicode standard. -/
def IsSpace (c : Char) : Prop := c.toNat ∈ whiteSpace

/-- A word is not empty and holds no white space. -/
def IsWord (w : List Char) : Prop := w ≠ [] ∧ ∀ c ∈ w, ¬ IsSpace c

/-- The text consists of the words, with white space between them and maybe around them. -/
inductive Spaced : List Char → List (List Char) → Prop
  | nil : Spaced [] []
  | space {c cs ws} : IsSpace c → Spaced cs ws → Spaced (c :: cs) ws
  | last {w} : IsWord w → Spaced w [w]
  | word {w c cs ws} : IsWord w → IsSpace c → Spaced cs ws → Spaced (w ++ c :: cs) (w :: ws)

theorem isBlank_iff (c : Char) : isBlank c = true ↔ IsSpace c := by
  simp only [isBlank, IsSpace, whiteSpace, Bool.or_eq_true, Bool.and_eq_true, decide_eq_true_eq,
    List.mem_cons, List.not_mem_nil, or_false]
  omega

theorem isBlank_eq_false_iff (c : Char) : isBlank c = false ↔ ¬ IsSpace c := by
  rw [← isBlank_iff, Bool.not_eq_true]

/-- The words of a text are those on both sides of any white space in it. -/
theorem words_append_cons {c : Char} (hc : IsSpace c) (l rest : List Char) :
    words (l ++ c :: rest) = words l ++ words rest := by
  unfold words
  rw [pieces_eq, pieces_eq, pieces_eq, List.splitOnP_append_cons l rest ((isBlank_iff c).mpr hc),
    List.filter_append]

theorem words_of_isWord {w : List Char} (hw : IsWord w) : words w = [w] := by
  unfold words
  rw [pieces_eq, List.splitOnP_eq_singleton fun c hc => (isBlank_eq_false_iff c).mpr (hw.2 c hc)]
  simp [hw.1]

theorem Spaced.words_eq {cs : List Char} {ws : List (List Char)} (h : Spaced cs ws) :
    words cs = ws := by
  induction h with
  | nil => rfl
  | space hc _ ih => exact (words_append_cons hc [] _).trans ih
  | last hw => exact words_of_isWord hw
  | word hw hc _ ih => rw [words_append_cons hc, words_of_isWord hw, ih, List.singleton_append]

/-- Every text is spaced in one way. -/
theorem spaced_words (cs : List Char) : Spaced cs (words cs) := by
  have hword {l : List Char} (hl : ∀ c ∈ l, isBlank c = false) (hne : l ≠ []) : IsWord l :=
    ⟨hne, fun c hc => (isBlank_eq_false_iff c).mp (hl c hc)⟩
  induction cs using induction_on_pieces isBlank with
  | last l hl =>
    by_cases hne : l = []
    · rw [hne]
      exact .nil
    · rw [words_of_isWord (hword hl hne)]
      exact .last (hword hl hne)
  | cut l c rest hl hc ih =>
    have hspace := (isBlank_iff c).mp hc
    rw [words_append_cons hspace]
    by_cases hne : l = []
    · rw [hne]
      exact .space hspace ih
    · rw [words_of_isWord (hword hl hne)]
      exact .word (hword hl hne) hspace ih

/-- **The words of a text are the words that it is spaced into.** -/
theorem words_eq_iff {cs : List Char} {ws : List (List Char)} : words cs = ws ↔ Spaced cs ws :=
  ⟨fun h => h ▸ spaced_words cs, Spaced.words_eq⟩

/-- A character of a spaced text is white space or stands in a word. -/
theorem Spaced.mem {cs : List Char} {ws : List (List Char)} (h : Spaced cs ws) {c : Char}
    (hc : c ∈ cs) : IsSpace c ∨ ∃ w ∈ ws, c ∈ w := by
  induction h with
  | nil => exact absurd hc List.not_mem_nil
  | space hspace _ ih =>
    rcases List.mem_cons.mp hc with rfl | hc
    · exact .inl hspace
    · exact ih hc
  | @last w _ => exact .inr ⟨w, List.mem_singleton_self w, hc⟩
  | @word w d cs ws _ hspace _ ih =>
    rcases List.mem_append.mp hc with hc | hc
    · exact .inr ⟨w, List.mem_cons_self, hc⟩
    · rcases List.mem_cons.mp hc with rfl | hc
      · exact .inl hspace
      · exact (ih hc).imp_right fun ⟨v, hv, hcv⟩ => ⟨v, List.mem_cons_of_mem w hv, hcv⟩

/-! ### Lines -/

/-- The text consists of the lines. A line ends with a line feed or with a carriage return and a
line feed, which do not belong to it; the last one may go up to the end of the text. -/
inductive Lined : List Char → List (List Char) → Prop
  | nil : Lined [] []
  | last {l} : l ≠ [] → '\n' ∉ l → Lined l [l]
  | feed {l cs ls} : '\n' ∉ l → l.getLast? ≠ some '\r' → Lined cs ls →
      Lined (l ++ '\n' :: cs) (l :: ls)
  | returnFeed {l cs ls} : '\n' ∉ l → Lined cs ls → Lined (l ++ '\r' :: '\n' :: cs) (l :: ls)

theorem cutLines_of_not_mem {l : List Char} (hl : '\n' ∉ l) : cutLines l = [l] := by
  rw [cutLines_eq, List.splitOnP_eq_singleton]
  intro c hc
  exact decide_eq_false fun h => hl (h ▸ hc)

theorem lines_of_not_mem {l : List Char} (hl : '\n' ∉ l) (hne : l ≠ []) : lines l = [l] := by
  unfold lines
  rw [cutLines_of_not_mem hl]
  simp [hne]

/-- Cutting at a line feed gives a line and the lines of the rest. -/
theorem lines_append_cons {l : List Char} (hl : '\n' ∉ l) (rest : List Char) :
    lines (l ++ '\n' :: rest) = dropReturn l :: lines rest := by
  have hcut : cutLines (l ++ '\n' :: rest) = l :: cutLines rest := by
    rw [cutLines_eq, List.splitOnP_append_cons l rest (decide_eq_true rfl), ← cutLines_eq,
      ← cutLines_eq, cutLines_of_not_mem hl, List.singleton_append]
  have hne : cutLines rest ≠ [] := by
    rw [cutLines_eq]
    exact List.splitOnP_ne_nil _ rest
  obtain ⟨w, ws, hw⟩ := List.exists_cons_of_ne_nil hne
  unfold lines
  rw [hcut, hw]
  rfl

theorem dropReturn_of_ne {l : List Char} (h : l.getLast? ≠ some '\r') : dropReturn l = l := by
  unfold dropReturn
  split
  · next hr => exact absurd hr h
  · rfl

theorem dropReturn_concat (l : List Char) : dropReturn (l ++ ['\r']) = l := by
  unfold dropReturn
  rw [List.getLast?_concat]
  exact List.dropLast_concat

theorem Lined.lines_eq {cs : List Char} {ls : List (List Char)} (h : Lined cs ls) :
    lines cs = ls := by
  induction h with
  | nil => rfl
  | last hne hl => exact lines_of_not_mem hl hne
  | feed hl hr _ ih => rw [lines_append_cons hl, dropReturn_of_ne hr, ih]
  | @returnFeed l cs ls hl _ ih =>
    have hl' : '\n' ∉ l ++ ['\r'] := by simpa using hl
    rw [show l ++ '\r' :: '\n' :: cs = (l ++ ['\r']) ++ '\n' :: cs by simp, lines_append_cons hl',
      dropReturn_concat, ih]

/-- Every text is cut into lines in one way. -/
theorem lined_lines (cs : List Char) : Lined cs (lines cs) := by
  have hmem {l : List Char} (hl : ∀ c ∈ l, decide (c = '\n') = false) : '\n' ∉ l := fun h =>
    of_decide_eq_false (hl '\n' h) rfl
  induction cs using induction_on_pieces (· = '\n') with
  | last l hl =>
    by_cases hne : l = []
    · rw [hne]
      exact .nil
    · rw [lines_of_not_mem (hmem hl) hne]
      exact .last hne (hmem hl)
  | cut l c rest hl hc ih =>
    obtain rfl := of_decide_eq_true hc
    rw [lines_append_cons (hmem hl)]
    by_cases hr : l.getLast? = some '\r'
    · obtain ⟨l, rfl⟩ := List.getLast?_eq_some_iff.mp hr
      rw [dropReturn_concat, show (l ++ ['\r']) ++ '\n' :: rest = l ++ '\r' :: '\n' :: rest by simp]
      exact .returnFeed (fun h => hmem hl (List.mem_append_left _ h)) ih
    · rw [dropReturn_of_ne hr]
      exact .feed (hmem hl) hr ih

/-- **The lines of a text are the lines that it consists of.** -/
theorem lines_eq_iff {cs : List Char} {ls : List (List Char)} : lines cs = ls ↔ Lined cs ls :=
  ⟨fun h => h ▸ lined_lines cs, Lined.lines_eq⟩

end PumaBoard.Text
