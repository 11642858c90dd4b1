import InterfaceGen.Text.Blank

/-!
# Normalized lines

A text is read line by line. A line is reduced to its words with one space between them, so that
indentation, alignment and the way lines end have no bearing on what it says; lines without a word are
dropped.

Main definitions:

- `lines`: a text cut at line feeds.
- `normalLine`: the words of a line with one space between them.
- `normalLines`: the normalized lines of a text, the blank ones left out.

Main results:

- Theorem `normalLines_intercalate`: lines that are joined by line feeds are normalized one by one.
-/

namespace InterfaceGen.Text

/-- The lines of a text: its parts between line feeds. A carriage return before a line feed stays with
the line, where it counts as a blank. -/
def lines (t : Text) : List Text :=
  pieces (· == '\n') t

/-- The words of a line with one space between them. -/
def normalLine (line : Text) : Text :=
  [' '].intercalate (words line)

/-- The normalized lines of a text that hold at least one word. -/
def normalLines (t : Text) : List Text :=
  ((lines t).map normalLine).filter (!·.isEmpty)

/-- Lines that are joined by line feeds are found again. -/
theorem lines_intercalate {rows : List Text} (hne : rows ≠ []) (h : ∀ row ∈ rows, '\n' ∉ row) :
    lines (['\n'].intercalate rows) = rows := by
  have hrow : ∀ row ∈ rows, ∀ c ∈ row, (c == '\n') = false := by
    intro row hrow c hc
    simpa using fun heq : c = '\n' => h row hrow (heq ▸ hc)
  induction rows with
  | nil => exact absurd rfl hne
  | cons row rest ih =>
    have hfirst : pieces (· == '\n') row = [row] := pieces_of_uncut (hrow row List.mem_cons_self)
    cases rest with
    | nil => rwa [List.intercalate_singleton]
    | cons next more =>
      have hrest := ih (List.cons_ne_nil next more) (fun r hr => h r (List.mem_cons_of_mem row hr))
        (fun r hr => hrow r (List.mem_cons_of_mem row hr))
      unfold lines at hrest ⊢
      rw [List.intercalate_cons_cons, List.append_assoc, List.singleton_append,
        pieces_append_cons (by decide), hfirst, hrest]
      rfl

/-- The normalized lines of joined lines are theirs. -/
theorem normalLines_intercalate {rows : List Text} (h : ∀ row ∈ rows, '\n' ∉ row) :
    normalLines (['\n'].intercalate rows) = (rows.map normalLine).filter (!·.isEmpty) := by
  cases rows with
  | nil => rfl
  | cons row rest => rw [normalLines, lines_intercalate (List.cons_ne_nil row rest) h]

end InterfaceGen.Text
