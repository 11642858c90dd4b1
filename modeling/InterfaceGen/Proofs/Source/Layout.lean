import InterfaceGen.Proofs.Source.PrintedLine

/-!
# Layouts

A printed line may be indented, have any gaps between its words and blanks at its end, and blank lines
may stand anywhere between lines.  A layout makes all these choices; whatever it chooses, the normalized
lines are the same.

Main definitions:

- `Blanks`, `Gap`: blanks within a line, and at least one of them.
- `LineLayout`, `Layout`: the layout of one line, and of all lines.
- `Layout.print`: the text of printed lines.

Main results:

- Theorem `normalLine_place`: a line is normalized to its words with one space between them.
- Theorem `normalLines_print`: printed lines are normalized one by one, in every layout.
-/

namespace InterfaceGen.Source

open Text

/-! ## Blanks -/

/-- Blanks that do not end a line. -/
structure Blanks where
  text : Text
  blank : ∀ c ∈ text, isBlank c = true
  one_line : '\n' ∉ text

/-- At least one blank. -/
structure Gap extends Blanks where
  ne_nil : text ≠ []

/-- Blanks before a text add no word. -/
theorem words_blanks_append (blanks : Blanks) (t : Text) : words (blanks.text ++ t) = words t := by
  have h := blanks.blank
  generalize blanks.text = indent at h ⊢
  induction indent with
  | nil => rfl
  | cons c rest ih =>
    have hstep := words_append_cons (h c List.mem_cons_self) [] (rest ++ t)
    rw [List.nil_append] at hstep
    rw [List.cons_append, hstep, ih fun d hd => h d (List.mem_cons_of_mem c hd)]
    rfl

/-- A gap parts the words before it from those after it. -/
theorem words_append_gap (gap : Gap) (before after : Text) :
    words (before ++ (gap.text ++ after)) = words before ++ words after := by
  obtain ⟨c, rest, htext⟩ := List.exists_cons_of_ne_nil gap.ne_nil
  have hblank := gap.blank
  have hline := gap.one_line
  rw [htext] at hblank hline ⊢
  rw [List.cons_append, words_append_cons (hblank c List.mem_cons_self)]
  exact congrArg _ (words_blanks_append
    ⟨rest, fun d hd => hblank d (List.mem_cons_of_mem c hd), fun hmem => hline (List.mem_cons_of_mem c hmem)⟩
    after)

/-- Blanks behind a text add no word. -/
theorem words_append_blanks (t : Text) (blanks : Blanks) : words (t ++ blanks.text) = words t := by
  by_cases hne : blanks.text = []
  · rw [hne, List.append_nil]
  · have hgap := words_append_gap ⟨blanks, hne⟩ t []
    rw [List.append_nil] at hgap
    rw [hgap]
    exact List.append_nil _

/-! ## Lines -/

/-- The layout of a line: the blank lines above it, its indentation, the gap behind each of its words but
the last, and the blanks at its end. -/
structure LineLayout where
  above : List Blanks
  indent : Blanks
  gap : Nat → Gap
  trail : Blanks

/-- Words with gaps between them, the first of which has number `n`. -/
def spaced (gap : Nat → Gap) : Nat → List Text → Text
  | _, [] => []
  | _, [word] => word
  | n, word :: next :: rest => word ++ ((gap n).text ++ spaced gap (n + 1) (next :: rest))

/-- The text of a line of some words. -/
def LineLayout.place (layout : LineLayout) (row : List Text) : Text :=
  layout.indent.text ++ (spaced layout.gap 0 row ++ layout.trail.text)

/-- A text is a word of a line: not empty and without blanks. -/
def IsLineWord (word : Text) : Prop :=
  word ≠ [] ∧ ∀ c ∈ word, isBlank c = false

-- by `List.all`, as otherwise all characters there are would be tried
instance (word : Text) : Decidable (IsLineWord word) :=
  decidable_of_iff (word ≠ [] ∧ (word.all fun c => isBlank c == false) = true)
    (and_congr_right fun _ => by simp)

/-- Spaced words are found again. -/
theorem words_spaced {row : List Text} (h : ∀ word ∈ row, IsLineWord word) (gap : Nat → Gap) (n : Nat) :
    words (spaced gap n row) = row := by
  fun_induction spaced gap n row with
  | case1 n => rfl
  | case2 n word =>
    obtain ⟨hne, hblank⟩ := h word (List.mem_singleton_self word)
    exact words_of_not_blank hne hblank
  | case3 n word next rest ih =>
    obtain ⟨hne, hblank⟩ := h word List.mem_cons_self
    rw [words_append_gap, words_of_not_blank hne hblank,
      ih fun w hw => h w (List.mem_cons_of_mem word hw)]
    rfl

/-- A line is normalized to its words with one space between them. -/
theorem normalLine_place {row : List Text} (h : ∀ word ∈ row, IsLineWord word) (layout : LineLayout) :
    normalLine (layout.place row) = [' '].intercalate row := by
  rw [normalLine, LineLayout.place, words_blanks_append, words_append_blanks, words_spaced h]

/-- A line feed is blank, so that it is part of no word. -/
theorem not_lineFeed_of_isLineWord {word : Text} (h : IsLineWord word) : '\n' ∉ word := by
  intro hmem
  have hblank := h.2 '\n' hmem
  revert hblank
  decide

/-- Spaced words stand on one line. -/
theorem not_lineFeed_spaced {row : List Text} (h : ∀ word ∈ row, IsLineWord word) (gap : Nat → Gap)
    (n : Nat) : '\n' ∉ spaced gap n row := by
  fun_induction spaced gap n row with
  | case1 n => simp
  | case2 n word => exact not_lineFeed_of_isLineWord (h word (List.mem_singleton_self word))
  | case3 n word next rest ih =>
    have hword := not_lineFeed_of_isLineWord (h word List.mem_cons_self)
    have hrest := ih fun w hw => h w (List.mem_cons_of_mem word hw)
    simp [hword, (gap n).one_line, hrest]

/-- A line of some words is one line. -/
theorem not_lineFeed_place {row : List Text} (h : ∀ word ∈ row, IsLineWord word)
    (layout : LineLayout) : '\n' ∉ layout.place row := by
  simp [LineLayout.place, layout.indent.one_line, not_lineFeed_spaced h, layout.trail.one_line]

/-! ## The words of printed lines -/

/-- A word is a word of a line. -/
theorem IsWord.isLineWord {word : Text} (h : IsWord word) : IsLineWord word :=
  ⟨h.ne_nil, h.not_blank⟩

/-- No type has blanks within. -/
theorem TypeSpelling.isLineWord (type : TypeSpelling) : IsLineWord type.text := by
  refine ⟨List.append_ne_nil_of_left_ne_nil type.first.isWord.ne_nil _, ?_⟩
  intro c hc
  rcases List.mem_append.1 hc with hc | hc
  · exact type.first.isWord.not_blank c hc
  · obtain ⟨token, htoken, hmem⟩ := List.mem_flatMap.1 hc
    obtain ⟨⟨sign, name⟩, -, hpart⟩ := List.mem_flatMap.1 htoken
    rcases List.mem_cons.1 hpart with rfl | hpart
    · obtain rfl := List.mem_singleton.1 hmem
      exact sign.symbol.not_blank
    · obtain ⟨name, -, rfl⟩ := List.mem_map.1 hpart
      exact name.isWord.not_blank c hmem

/-- The words of a header are words of a line. -/
theorem HeaderLine.isLineWord (header : HeaderLine) : ∀ word ∈ header.words, IsLineWord word :=
  fun word hword => (header.isWord word hword).isLineWord

/-- The words of a property are words of a line. -/
theorem PropertyLine.isLineWord (p : PropertyLine) : ∀ word ∈ p.words, IsLineWord word := by
  intro word hword
  simp only [PropertyLine.words, List.mem_cons, List.not_mem_nil, or_false] at hword
  rcases hword with rfl | rfl | rfl | rfl | rfl | rfl | rfl
  · exact Keyword.publicWord.isWord.isLineWord
  · exact p.type.isLineWord
  · exact p.name.isWord.isLineWord
  · decide
  · decide
  · decide
  · decide

namespace PrintedLine

/-- A printed line in its layout.  Noise stands as it is. -/
def place (layout : LineLayout) : PrintedLine → Text
  | header line => layout.place line.words
  | leftBrace => layout.place [['{']]
  | property line => layout.place line.words
  | rightBrace => layout.place [['}']]
  | noise line => line.text

/-- A brace is the word of its line. -/
theorem isLineWord_brace {c : Char} (h : isBlank c = false) : ∀ word ∈ [[c]], IsLineWord word := by
  intro word hword
  obtain rfl := List.mem_singleton.1 hword
  exact ⟨List.cons_ne_nil c [], by simpa using h⟩

/-- A placed line is normalized to its normal form. -/
theorem normalLine_place (line : PrintedLine) (layout : LineLayout) :
    normalLine (line.place layout) = line.normal := by
  cases line with
  | header line => exact Source.normalLine_place line.isLineWord layout
  | leftBrace => exact Source.normalLine_place (isLineWord_brace (by decide)) layout
  | property line => exact Source.normalLine_place line.isLineWord layout
  | rightBrace => exact Source.normalLine_place (isLineWord_brace (by decide)) layout
  | noise line => rfl

/-- A placed line is one line. -/
theorem one_line_place (line : PrintedLine) (layout : LineLayout) : '\n' ∉ line.place layout := by
  cases line with
  | header line => exact not_lineFeed_place line.isLineWord layout
  | leftBrace => exact not_lineFeed_place (isLineWord_brace (by decide)) layout
  | property line => exact not_lineFeed_place line.isLineWord layout
  | rightBrace => exact not_lineFeed_place (isLineWord_brace (by decide)) layout
  | noise line => exact line.one_line

end PrintedLine

/-! ## Printed texts -/

/-- The layout of all lines, and the blank lines below the last one. -/
structure Layout where
  line : Nat → LineLayout
  below : List Blanks

namespace Layout

/-- The rows of printed lines, the first of which has number `n`. -/
def rowsFrom (layout : Layout) : Nat → List PrintedLine → List Text
  | _, [] => layout.below.map Blanks.text
  | n, line :: rest =>
    (layout.line n).above.map Blanks.text ++ line.place (layout.line n) :: layout.rowsFrom (n + 1) rest

/-- The text of printed lines. -/
def print (layout : Layout) (lines : List PrintedLine) : Text :=
  ['\n'].intercalate (layout.rowsFrom 0 lines)

/-- Every row is one line. -/
theorem one_line_of_mem_rowsFrom (layout : Layout) (lines : List PrintedLine) (n : Nat) :
    ∀ row ∈ layout.rowsFrom n lines, '\n' ∉ row := by
  induction lines generalizing n with
  | nil =>
    intro row hrow
    obtain ⟨blanks, -, rfl⟩ := List.mem_map.1 hrow
    exact blanks.one_line
  | cons line rest ih =>
    intro row hrow
    rcases List.mem_append.1 hrow with hrow | hrow
    · obtain ⟨blanks, -, rfl⟩ := List.mem_map.1 hrow
      exact blanks.one_line
    · rcases List.mem_cons.1 hrow with rfl | hrow
      · exact line.one_line_place (layout.line n)
      · exact ih (n + 1) row hrow

/-- Blank lines are left out. -/
theorem filter_normalLine_blanks (rows : List Blanks) :
    ((rows.map Blanks.text).map normalLine).filter (!·.isEmpty) = [] := by
  rw [List.filter_eq_nil_iff]
  intro row hrow
  obtain ⟨text, htext, rfl⟩ := List.mem_map.1 hrow
  obtain ⟨blanks, -, rfl⟩ := List.mem_map.1 htext
  rw [normalLine, words_of_blank blanks.blank]
  decide

/-- Rows are normalized one by one. -/
theorem normalLines_rowsFrom (layout : Layout) (lines : List PrintedLine) (n : Nat) :
    ((layout.rowsFrom n lines).map normalLine).filter (!·.isEmpty) =
      (lines.map PrintedLine.normal).filter (!·.isEmpty) := by
  induction lines generalizing n with
  | nil => exact filter_normalLine_blanks layout.below
  | cons line rest ih =>
    rw [rowsFrom, List.map_append, List.filter_append, filter_normalLine_blanks, List.nil_append,
      List.map_cons, List.map_cons, line.normalLine_place, List.filter_cons, List.filter_cons, ih]

end Layout

/-- Printed lines are normalized one by one, in every layout. -/
theorem normalLines_print (layout : Layout) (lines : List PrintedLine) :
    normalLines (layout.print lines) = (lines.map PrintedLine.normal).filter (!·.isEmpty) := by
  rw [Layout.print, normalLines_intercalate (layout.one_line_of_mem_rowsFrom lines 0),
    layout.normalLines_rowsFrom]

end InterfaceGen.Source
