import InterfaceGen.Proofs.Source.Forest
import InterfaceGen.Proofs.Source.TokenLines
import InterfaceGen.Proofs.Text.Words

/-!
# Reading without normalizing

Lines are normalized before they are read: of each run of blanks one space is kept, and lines without words
are left out.  Normalizing knows all blanks, lexing only four of them.  Where a text has no other blanks than
these, normalizing changes nothing: the words of a line stand apart before and after, so that the same tokens
are found, tied to each other where they were, also on a line that is not lexed to its end.

Main definitions:

- `HasPlainBlanks`: the texts whose blanks all separate tokens.

Main results:

- Theorem `ofText_normalLine`: a line has the same tokens before and after it is normalized.
- Theorem `normalizing_changes_nothing`: the lines of a source, normalized or not, say the same and leave the
  same model.
-/

namespace InterfaceGen.Source

open Text

/-- A text whose blanks are spaces, tabs, carriage returns and line feeds. -/
def HasPlainBlanks (t : Text) : Prop :=
  ∀ c ∈ t, isBlank c = true → c ∈ [' ', '\t', '\r', '\n']

/-- Blanks are plain if and only if all of them separate tokens. -/
theorem hasPlainBlanks_iff_all {t : Text} :
    (t.all fun c => !isBlank c || isGap c) = true ↔ HasPlainBlanks t := by
  rw [List.all_eq_true]
  refine forall₂_congr fun c _ => ?_
  rw [← isGap_iff_mem]
  cases isBlank c with
  | true => simp
  | false => simp

instance (t : Text) : Decidable (HasPlainBlanks t) :=
  decidable_of_iff _ hasPlainBlanks_iff_all

/-! ## Lines -/

/-- Plain blanks separate tokens. -/
theorem HasPlainBlanks.isGap {t : Text} (h : HasPlainBlanks t) {c : Char} (hc : c ∈ t)
    (hblank : isBlank c = true) : isGap c = true :=
  isGap_iff_mem.2 (h c hc hblank)

/-- Words with one space between them have the tokens of the text that they are the words of. -/
theorem ofText_intercalate {t : Text} {row : List Text} (hwords : HasWords t row) (h : HasPlainBlanks t) :
    TokenLine.ofText ([' '].intercalate row) = .ofText t := by
  induction hwords with
  | nil => rfl
  | blank hc _ ih =>
    rw [ofText_gap (h.isGap List.mem_cons_self hc)]
    exact ih (List.forall_mem_cons.1 h).2
  | @word w t row _ _ hend _ ih =>
    have hrest : HasPlainBlanks t := (List.forall_mem_append.1 h).2
    have hapart : BeginsApart t := fun c hc => hrest.isGap (List.mem_of_head? hc) (hend c hc)
    rw [ofText_append hapart, ← ih hrest]
    cases row with
    | nil =>
      have hempty : BeginsApart [] := fun c hc => by cases hc
      rw [List.intercalate_nil, ← ofText_append hempty, List.append_nil, List.intercalate_singleton]
    | cons next more =>
      have hspace : isGap ' ' = true := by decide
      rw [List.intercalate_cons_cons, List.append_assoc, List.singleton_append,
        ofText_append (beginsApart_gap hspace _), ofText_gap hspace]

/-- A line has the same tokens before and after it is normalized. -/
theorem ofText_normalLine {line : Text} (h : HasPlainBlanks line) :
    TokenLine.ofText (normalLine line) = .ofText line :=
  ofText_intercalate (hasWords_words line) h

/-- A line says the same before and after it is normalized. -/
theorem ofLine_normalLine {line : Text} (h : HasPlainBlanks line) :
    LineKind.ofLine (normalLine line) = LineKind.ofLine line := by
  rw [ofLine_eq_ofTokens, ofText_normalLine h, ofLine_eq_ofTokens]

/-! ## Sources -/

/-- The lines of a text have plain blanks if the text does. -/
theorem HasPlainBlanks.of_mem_lines {t line : Text} (h : HasPlainBlanks t) (hline : line ∈ lines t) :
    HasPlainBlanks line := by
  intro c hc
  have hfeed : c ≠ '\n' := fun heq => not_lineFeed_of_mem_lines hline (heq ▸ hc)
  exact h c ((mem_iff_exists_line hfeed).2 ⟨line, hline, hc⟩)

/-- The lines of a text leave the same outline before and after they are normalized. -/
theorem value_addLines_normalLines {t : Text} (h : HasPlainBlanks t) (outline : Outline) :
    (outline.addLines (normalLines t)).value = (outline.addLines (lines t)).value := by
  have hkinds : ((lines t).map normalLine).map LineKind.ofLine = (lines t).map LineKind.ofLine := by
    rw [List.map_map]
    exact List.map_congr_left fun line hline => ofLine_normalLine (h.of_mem_lines hline)
  rw [Outline.value_addLines, Outline.value_addLines, normalLines, Outline.afterKinds_filter, hkinds]

/-- Where all blanks are spaces, tabs, carriage returns and line feeds, reading does not depend on that lines
are normalized before.  Every line says the same as it stands and normalized, with the same names and types,
and the lines of a source, as they stand and with the blank ones among them, leave the model of the source. -/
theorem normalizing_changes_nothing :
    (∀ line, HasPlainBlanks line → LineKind.ofLine line = LineKind.ofLine (normalLine line)) ∧
    ∀ source, HasPlainBlanks source → (readLines (lines source)).value = (read source).value := by
  refine ⟨fun line h => (ofLine_normalLine h).symm, fun source h => ?_⟩
  calc (readLines (lines source)).value
      = (Outline.empty.addLines (lines source)).value.toModel.value := rfl
    _ = (Outline.empty.addLines (normalLines source)).value.toModel.value := by
      rw [value_addLines_normalLines h]
    _ = (read source).value := rfl

/-- A source with tabs, carriage returns and a blank line, read as it stands, and one of its lines. -/
theorem tabs_and_carriage_returns_change_nothing :
    LineKind.ofLine "\tpublic  List<int>?\tIds \x7b get;set; \x7d \r".toList =
      .property "Ids".toList "List<int>?".toList ∧
    (readLines (lines
      "public  class\tOrder\r\n\x7b\r\n \t\r\n\tpublic int Id \x7b get;set; \x7d\r\n\t\x7d".toList)).value =
      ⟨[⟨"Order".toList, [⟨"Id".toList, "int".toList⟩]⟩]⟩ := by
  constructor
  · rw [normalizing_changes_nothing.1 _ (by decide +kernel)]
    decide +kernel
  · rw [normalizing_changes_nothing.2 _ (by decide +kernel)]
    decide +kernel

-- the no-break space is blank but no gap, so that it has to be normalized to be read
example : LineKind.ofLine "public\u00a0class Order".toList = .other ∧
    LineKind.ofLine (normalLine "public\u00a0class Order".toList) = .opening "Order".toList := by
  decide +kernel

end InterfaceGen.Source
