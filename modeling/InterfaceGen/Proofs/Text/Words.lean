import InterfaceGen.Text.Lines
import Mathlib.Data.List.TakeWhile

/-!
# Lines and words

The lines and the words of a text are told here without cutting: lines are what line feeds join, and words
are found from left to right as runs of characters that are not blank, each as long as it can be.  A text
is blank if and only if none of its lines has a word.

Main definitions:

- `HasWords`: the words that a text has, read from left to right.
- `wordRows`: the words of each line of a text, lines without words left out.

Main results:

- Theorem `intercalate_lines`: the lines of a text are joined by line feeds to the text.
- Theorems `hasWords_words` and `words_of_hasWords`: a text has its words, and no others.
- Theorem `wordRows_eq_nil_iff`: only a text of blanks has no words in its lines.
- Theorem `normalLines_eq_map`: the normalized lines of a text are its rows of words.
- Theorem `normalLines_normalLines`: normalized lines are normalized already.
-/

namespace InterfaceGen.Text

/-! ## Lines -/

/-- The lines of a text are joined by line feeds to the text. -/
theorem intercalate_lines (t : Text) : ['\n'].intercalate (lines t) = t := by
  unfold lines
  induction t with
  | nil => rfl
  | cons c rest ih =>
    obtain ⟨first, more, hpieces⟩ := List.exists_cons_of_ne_nil (pieces_ne_nil (· == '\n') rest)
    rw [hpieces] at ih
    by_cases hc : c = '\n'
    · rw [pieces, if_pos (by simpa using hc), hpieces, List.intercalate_cons_cons, ih, hc]
      rfl
    · rw [pieces, if_neg (by simpa using hc), hpieces, List.modifyHead_cons]
      cases more with
      | nil => simpa using ih
      | cons next more =>
        rw [List.intercalate_cons_cons] at ih ⊢
        rw [List.cons_append, List.cons_append, ih]

/-- A line holds no line feed. -/
theorem not_lineFeed_of_mem_lines {t line : Text} (h : line ∈ lines t) : '\n' ∉ line := by
  intro hmem
  have hcut := not_of_mem_pieces h '\n' hmem
  revert hcut
  decide

/-- A character other than the separator is in joined texts if and only if it is in one of them. -/
theorem mem_intercalate_iff {sep c : Char} (h : c ≠ sep) (texts : List Text) :
    c ∈ [sep].intercalate texts ↔ ∃ t ∈ texts, c ∈ t := by
  induction texts with
  | nil => simp
  | cons t rest ih =>
    cases rest with
    | nil => simp
    | cons next more =>
      rw [List.intercalate_cons_cons, List.mem_append, List.mem_append, ih]
      simp [h]

/-- A character other than a line feed is in a text if and only if it is on one of its lines. -/
theorem mem_iff_exists_line {t : Text} {c : Char} (hfeed : c ≠ '\n') :
    c ∈ t ↔ ∃ line ∈ lines t, c ∈ line := by
  rw [← mem_intercalate_iff hfeed, intercalate_lines]

/-! ## Words -/

/-- A text has words: blanks are passed over, and a word is a run of other characters that goes on up to
a blank or to the end. -/
inductive HasWords : Text → List Text → Prop
  | nil : HasWords [] []
  | blank {c : Char} {t : Text} {row : List Text} (hc : isBlank c = true) (h : HasWords t row) :
    HasWords (c :: t) row
  | word {w t : Text} {row : List Text} (hne : w ≠ []) (hw : ∀ c ∈ w, isBlank c = false)
    (hend : ∀ c, t.head? = some c → isBlank c = true) (h : HasWords t row) : HasWords (w ++ t) (w :: row)

/-- The words that a text has are its words. -/
theorem words_of_hasWords {t : Text} {row : List Text} (h : HasWords t row) : words t = row := by
  induction h with
  | nil => rfl
  | @blank c t row hc _ ih =>
    have hstep := words_append_cons hc [] t
    rw [List.nil_append, ih] at hstep
    exact hstep
  | @word w t row hne hw hend _ ih =>
    cases t with
    | nil =>
      obtain rfl : [] = row := ih
      rw [List.append_nil, words_of_not_blank hne hw]
    | cons c rest =>
      have hc : isBlank c = true := hend c rfl
      have hrest : words (c :: rest) = words rest := words_append_cons hc [] rest
      rw [words_append_cons hc, words_of_not_blank hne hw, ← hrest, ih]
      rfl

/-- Every text has words. -/
theorem exists_hasWords : ∀ t : Text, ∃ row, HasWords t row
  | [] => ⟨[], .nil⟩
  | c :: rest => by
    by_cases hc : isBlank c = true
    · obtain ⟨row, hrow⟩ := exists_hasWords rest
      exact ⟨row, .blank hc hrow⟩
    · -- the first word goes on to the next blank
      have hsplit := List.takeWhile_append_dropWhile (p := fun d => !isBlank d) (l := rest)
      have hshorter := (List.dropWhile_suffix (l := rest) fun d => !isBlank d).length_le
      obtain ⟨row, hrow⟩ := exists_hasWords (rest.dropWhile fun d => !isBlank d)
      rw [← hsplit]
      refine ⟨_, .word (List.cons_ne_nil c _) ?_ ?_ hrow⟩
      · intro d hd
        rcases List.mem_cons.1 hd with rfl | hd
        · simpa using hc
        · simpa using List.all_eq_true.1 List.all_takeWhile d hd
      · intro d hd
        have hstop := List.head?_dropWhile_not (fun d => !isBlank d) rest
        rw [hd] at hstop
        simpa using hstop
termination_by t => t.length

/-- A text has its words. -/
theorem hasWords_words (t : Text) : HasWords t (words t) := by
  obtain ⟨row, hrow⟩ := exists_hasWords t
  rwa [words_of_hasWords hrow]

/-- Every character that is not blank is part of a word. -/
theorem exists_word_of_mem {t : Text} {c : Char} (hc : c ∈ t) (hblank : isBlank c = false) :
    ∃ word ∈ words t, c ∈ word := by
  have hwords := hasWords_words t
  generalize words t = row at hwords
  induction hwords with
  | nil => cases hc
  | @blank d t row hd _ ih =>
    rcases List.mem_cons.1 hc with rfl | hc
    · rw [hblank] at hd
      cases hd
    · exact ih hc
  | @word w t row _ _ _ _ ih =>
    rcases List.mem_append.1 hc with hc | hc
    · exact ⟨w, List.mem_cons_self, hc⟩
    · obtain ⟨word, hword, hmem⟩ := ih hc
      exact ⟨word, List.mem_cons_of_mem w hword, hmem⟩

/-! ## Rows of words -/

/-- The words of each line of a text; lines without words are left out. -/
def wordRows (t : Text) : List (List Text) :=
  ((lines t).map words).filter (!·.isEmpty)

/-- A row of words is that of a line, and not empty. -/
theorem exists_line_of_mem_wordRows {t : Text} {row : List Text} (h : row ∈ wordRows t) :
    row ≠ [] ∧ ∃ line ∈ lines t, words line = row := by
  obtain ⟨hmem, hne⟩ := List.mem_filter.1 h
  obtain ⟨line, hline, rfl⟩ := List.mem_map.1 hmem
  exact ⟨by simpa using hne, line, hline, rfl⟩

/-- Only a text of blanks has no words in its lines. -/
theorem wordRows_eq_nil_iff {t : Text} : wordRows t = [] ↔ ∀ c ∈ t, isBlank c = true := by
  constructor
  · intro h c hc
    rw [← Bool.not_eq_false]
    intro hblank
    have hfeed : c ≠ '\n' := by
      rintro rfl
      revert hblank
      decide
    obtain ⟨line, hline, hmem⟩ := (mem_iff_exists_line hfeed).1 hc
    obtain ⟨word, hword, -⟩ := exists_word_of_mem hmem hblank
    have hrow := List.filter_eq_nil_iff.1 h (words line) (List.mem_map_of_mem hline)
    rw [List.isEmpty_eq_false_iff.2 (List.ne_nil_of_mem hword)] at hrow
    exact hrow rfl
  · intro h
    rw [wordRows, List.filter_eq_nil_iff]
    intro row hrow
    obtain ⟨line, hline, rfl⟩ := List.mem_map.1 hrow
    have hblank : ∀ c ∈ line, isBlank c = true := by
      intro c hc
      have hfeed : c ≠ '\n' := fun heq => not_lineFeed_of_mem_lines hline (heq ▸ hc)
      exact h c ((mem_iff_exists_line hfeed).2 ⟨line, hline, hc⟩)
    rw [words_of_blank hblank]
    decide

/-- A text holds blanks only if and only if all of its characters are blank. -/
theorem allBlank_iff {t : Text} : allBlank t = true ↔ ∀ c ∈ t, isBlank c = true := by
  constructor
  · intro h c hc
    rw [← Bool.not_eq_false]
    intro hblank
    have hnot := not_allBlank ⟨c, hc, hblank⟩
    rw [h] at hnot
    cases hnot
  · intro h
    have hstart : trimStart t = [] := List.dropWhile_eq_nil_iff.2 h
    rw [allBlank, trim, hstart]
    rfl

/-! ## Normalized lines -/

/-- A line is normalized to nothing if and only if it has no words. -/
theorem normalLine_eq_nil_iff {line : Text} : normalLine line = [] ↔ words line = [] := by
  rw [normalLine]
  cases hwords : words line with
  | nil => simp
  | cons word rest =>
    have hne : word ≠ [] := ne_nil_of_mem_words (t := line) (by simp [hwords])
    cases rest with
    | nil => simpa using hne
    | cons next more => simp [List.intercalate_cons_cons]

/-- The normalized lines of a text are its rows of words, with one space between the words of a row. -/
theorem normalLines_eq_map (t : Text) : normalLines t = (wordRows t).map [' '].intercalate := by
  rw [normalLines, wordRows]
  induction lines t with
  | nil => rfl
  | cons line rest ih =>
    rw [List.map_cons, List.map_cons, List.filter_cons, List.filter_cons, ih]
    by_cases hwords : words line = []
    · rw [normalLine_eq_nil_iff.2 hwords, hwords]
      rfl
    · rw [List.isEmpty_eq_false_iff.2 hwords, List.isEmpty_eq_false_iff.2 (mt normalLine_eq_nil_iff.1 hwords)]
      rfl

/-- A text is normalized to nothing if and only if all of its characters are blank. -/
theorem normalLines_eq_nil_iff {t : Text} : normalLines t = [] ↔ ∀ c ∈ t, isBlank c = true := by
  rw [normalLines_eq_map, List.map_eq_nil_iff, wordRows_eq_nil_iff]

/-- Words with one space between them are the words of the text. -/
theorem hasWords_intercalate {row : List Text}
    (h : ∀ word ∈ row, word ≠ [] ∧ ∀ c ∈ word, isBlank c = false) : HasWords ([' '].intercalate row) row := by
  induction row with
  | nil => exact .nil
  | cons word rest ih =>
    obtain ⟨hne, hword⟩ := h word List.mem_cons_self
    have hrest := ih fun w hw => h w (List.mem_cons_of_mem word hw)
    have hspace : isBlank ' ' = true := by decide
    cases rest with
    | nil =>
      rw [List.intercalate_singleton]
      have hone : HasWords (word ++ []) [word] := .word hne hword (by simp) .nil
      rwa [List.append_nil] at hone
    | cons next more =>
      rw [List.intercalate_cons_cons, List.append_assoc]
      refine .word hne hword ?_ (.blank hspace hrest)
      intro c hc
      obtain rfl : ' ' = c := by simpa using hc
      exact hspace

/-- The words of a line are neither empty nor interrupted by blanks. -/
theorem words_are_words (line : Text) : ∀ word ∈ words line, word ≠ [] ∧ ∀ c ∈ word, isBlank c = false :=
  fun _ hword => ⟨ne_nil_of_mem_words hword, not_blank_of_mem_words hword⟩

/-- A normalized line has the words of the line. -/
@[simp] theorem words_normalLine (line : Text) : words (normalLine line) = words line :=
  words_of_hasWords (hasWords_intercalate (words_are_words line))

/-- Only words and spaces stand on a normalized line. -/
theorem not_lineFeed_normalLine (line : Text) : '\n' ∉ normalLine line := by
  intro h
  obtain ⟨word, hword, hmem⟩ := (mem_intercalate_iff (by decide) _).1 h
  have hblank := not_blank_of_mem_words hword '\n' hmem
  revert hblank
  decide

/-- Lines that are normalized already stay as they are, and the blank ones are left out. -/
theorem normalLines_of_normal {rows : List Text} (h : ∀ row ∈ rows, ∃ line, row = normalLine line) :
    normalLines (['\n'].intercalate rows) = rows.filter (!·.isEmpty) := by
  have hfeed : ∀ row ∈ rows, '\n' ∉ row := by
    intro row hrow
    obtain ⟨line, rfl⟩ := h row hrow
    exact not_lineFeed_normalLine line
  have hsame : rows.map normalLine = rows := by
    refine (List.map_congr_left fun row hrow => ?_).trans (List.map_id _)
    obtain ⟨line, rfl⟩ := h row hrow
    rw [normalLine, words_normalLine]
    rfl
  rw [normalLines_intercalate hfeed, hsame]

/-- Normalized lines are normalized already. -/
theorem normalLines_normalLines (t : Text) :
    normalLines (['\n'].intercalate (normalLines t)) = normalLines t := by
  rw [normalLines_of_normal fun row hrow => ?_]
  · exact List.filter_eq_self.2 fun row hrow => (List.mem_filter.1 hrow).2
  · obtain ⟨line, -, rfl⟩ := List.mem_map.1 (List.mem_filter.1 hrow).1
    exact ⟨line, rfl⟩

end InterfaceGen.Text
