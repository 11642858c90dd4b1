import InterfaceGen.Conversion
import InterfaceGen.Proofs.Text.Words

/-!
# Conversion by rows of words

Of the layout of a source only the words of its lines bear on what is read from it.  The reader gets one
line for each row of words, and a source is refused exactly if it has no such row, so that two sources
with the same rows are converted alike.

Main results:

- Theorem `value_modelOf`: whether a source has a model is decided by its rows of words.
- Theorem `rows_decide_conversion`: sources with the same rows of words have the same normalized lines, model
  and interfaces, and the normalized lines spell out these rows.
-/

namespace InterfaceGen

open Text Source

/-! ## Sources with the same rows -/

/-- A source without rows of words is refused, and every other one is read. -/
theorem value_modelOf (source : Text) :
    (modelOf source).value =
      if wordRows source = [] then .error .blankSource else .ok (read source).value := by
  unfold modelOf
  have hblank : allBlank source = true ↔ wordRows source = [] := by
    rw [allBlank_iff, wordRows_eq_nil_iff]
  by_cases hrows : wordRows source = []
  · rw [if_pos hrows, hblank.2 hrows]
    rfl
  · rw [if_neg hrows, Bool.eq_false_iff.2 (mt hblank.1 hrows)]
    rfl

/-- The interfaces of a source are those of its model. -/
theorem value_convert_eq (options : Options) (source : Text) :
    (convert options source).value =
      (modelOf source).value >>= fun m : Model => (m.interfaces options).value := by
  rw [convert, Logged.value_bind, Logged.value_bind]
  cases (modelOf source).value <;> rfl

/-- The model that is read from a source depends on its rows of words alone. -/
theorem value_read_of_wordRows {s t : Text} (h : wordRows s = wordRows t) : (read s).value = (read t).value := by
  have hlines : normalLines s = normalLines t := by rw [normalLines_eq_map, h, ← normalLines_eq_map]
  change (readLines (normalLines s)).value = (readLines (normalLines t)).value
  rw [hlines]

/-- Whether a source has a model, and which, depends on its rows of words alone. -/
theorem value_modelOf_of_wordRows {s t : Text} (h : wordRows s = wordRows t) :
    (modelOf s).value = (modelOf t).value := by
  rw [value_modelOf, value_modelOf, h, value_read_of_wordRows h]

/-! ## The theorem -/

/-- Layout has no bearing.  Two sources with the same words in the same rows have the same normalized
lines, model and interfaces, with all options.  The rows of a source are the words of its lines, from left
to right and without the empty ones; a normalized line is the words of a row with one space between them;
and normalized lines are normalized already. -/
theorem rows_decide_conversion :
    (∀ s t : Text, wordRows s = wordRows t →
      normalLines s = normalLines t ∧ (read s).value = (read t).value ∧
        (modelOf s).value = (modelOf t).value ∧
        ∀ options, (convert options s).value = (convert options t).value) ∧
    ∀ s : Text,
      (['\n'].intercalate (lines s) = s ∧ ∀ line ∈ lines s, '\n' ∉ line ∧ HasWords line (words line)) ∧
      wordRows s = ((lines s).map words).filter (· ≠ []) ∧
      normalLines s = (wordRows s).map [' '].intercalate ∧
      (∀ row ∈ wordRows s, row ≠ [] ∧ ∀ word ∈ row, word ≠ [] ∧ ∀ c ∈ word, isBlank c = false) ∧
      (∀ line ∈ normalLines s, line ≠ []) ∧
      normalLines (['\n'].intercalate (normalLines s)) = normalLines s := by
  refine ⟨fun s t h => ⟨?_, value_read_of_wordRows h, value_modelOf_of_wordRows h, ?_⟩, fun s =>
    ⟨⟨intercalate_lines s, fun line hline => ⟨not_lineFeed_of_mem_lines hline, hasWords_words line⟩⟩, ?_,
      normalLines_eq_map s, ?_, ?_, normalLines_normalLines s⟩⟩
  · rw [normalLines_eq_map, h, ← normalLines_eq_map]
  · intro options
    rw [value_convert_eq, value_convert_eq, value_modelOf_of_wordRows h]
  · exact List.filter_congr fun row _ => by cases row <;> simp
  · intro row hrow
    obtain ⟨hne, line, -, rfl⟩ := exists_line_of_mem_wordRows hrow
    exact ⟨hne, words_are_words line⟩
  · intro line hline
    simpa using (List.mem_filter.1 hline).2

/-- A class that is indented with tabs and ends its lines in carriage returns and line feeds is read like
one that is not. -/
theorem indentedSource_converts :
    let indented := "\tpublic \u00a0class A\r\n\t\x7b\r\n\r\n \u2003\x7d".toList
    let plain := "public class A\n\x7b\n\x7d\n".toList
    wordRows indented = wordRows plain ∧
      ∀ options, (convert options indented).value = (convert options plain).value := by
  intro indented plain
  have hrows : wordRows indented = wordRows plain := by decide +kernel
  obtain ⟨-, -, -, hconvert⟩ := rows_decide_conversion.1 indented plain hrows
  exact ⟨hrows, hconvert⟩

end InterfaceGen
