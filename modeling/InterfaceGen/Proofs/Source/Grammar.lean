import InterfaceGen.Proofs.Source.PrintedLine

/-!
# The grammar of a line

What a line has to read like to be a class header or a property, told by its text alone: words, signs and
spacing stand one behind the other, every word is as long as it can be, and a word that is spelled like a
keyword is one unless what follows it at once makes it an ordinary word.

Main definitions:

- `Spacing`, `Separator`: what may stand between tokens, and what has to stand between words.
- `KeepsKeyword`, `IsPlainAt`: where a word is a keyword, and where it is an ordinary word.
- `ReadsHeader`, `NamesClass`: lines that read like a class header up to `class`, and a name behind it.
- `IsTypeAt`: the type that stands before a text, as long as it can be.
- `ReadsProperty`: lines that read like a property.

Main results:

- Theorem `keepsKeyword_iff`: a keyword stays one where it is not spoiled.
- Theorem `exists_isTypeRun`: every text begins with a run of type parts that is as long as it can be.
-/

namespace InterfaceGen.Source

open Text

/-! ## Spacing -/

/-- What may stand between tokens: spaces, tabs, carriage returns and line feeds. -/
structure Spacing where
  text : Text
  isGap : ∀ c ∈ text, isGap c = true

/-- At least one character between tokens. -/
structure Separator extends Spacing where
  ne_nil : text ≠ []

/-! ## Words and keywords -/

/-- A keyword stays a keyword before a text: the text ends the word, and it is empty or begins with a
character of ASCII or of three ranges beyond it. -/
def KeepsKeyword (after : Text) : Prop :=
  EndsWord after ∧ ∀ c, after.head? = some c →
    c.toNat < 0x80 ∨ (0xE000 ≤ c.toNat ∧ c.toNat ≤ 0xEFFF) ∨ (0x40000 ≤ c.toNat ∧ c.toNat ≤ 0xBFFFF) ∨
      (0x100000 ≤ c.toNat ∧ c.toNat ≤ 0x10FFFF)

/-- A word is an ordinary one before a text: the text ends it, and it is not spelled like a keyword or does
not stay one. -/
def IsPlainAt (word after : Text) : Prop :=
  IsWord word ∧ EndsWord after ∧ ∀ keyword : Keyword, word = keyword.text → ¬ KeepsKeyword after

/-! ## Class headers -/

/-- A class header up to `class`: `public`, modifiers and `class`, with separators between them. -/
structure HeaderLead where
  indent : Spacing
  gap : Separator
  modifiers : List (Modifier × Separator)

/-- Modifiers with a separator behind each of them. -/
def modifierText (modifiers : List (Modifier × Separator)) : Text :=
  modifiers.flatMap fun part => part.1.text ++ part.2.text

/-- A class header up to `class` as a text. -/
def HeaderLead.text (lead : HeaderLead) : Text :=
  lead.indent.text ++
    ("public".toList ++ (lead.gap.text ++ (modifierText lead.modifiers ++ "class".toList)))

/-- A line reads like a class header up to the keyword `class` and goes on with the rest. -/
def ReadsHeader (line rest : Text) : Prop :=
  ∃ lead : HeaderLead, line = lead.text ++ rest ∧ KeepsKeyword rest

/-- A text begins with a separator and the name of a class, with anything behind it: a word that is not
one of the keywords `public` and `class`. -/
def NamesClass (t name : Text) : Prop :=
  ∃ (gap : Separator) (after : Text), t = gap.text ++ (name ++ after) ∧ IsWord name ∧ EndsWord after ∧
    (name = "public".toList ∨ name = "class".toList → ¬ KeepsKeyword after)

/-! ## Properties -/

/-- A run of type parts without gaps before a text: signs, and ordinary words that are as long as they
can be. -/
inductive IsTypeRun (after : Text) : Text → Prop
  | nil : IsTypeRun after []
  | sign (sign : TypeSign) {run : Text} (hrun : IsTypeRun after run) :
    IsTypeRun after (sign.symbol.char :: run)
  | name {name run : Text} (hname : IsPlainAt name (run ++ after)) (hrun : IsTypeRun after run) :
    IsTypeRun after (name ++ run)

/-- A text begins with a type part: a sign or an ordinary word. -/
def BeginsTypePart (t : Text) : Prop :=
  (∃ (sign : TypeSign) (after : Text), t = sign.symbol.char :: after) ∨
    ∃ name after : Text, t = name ++ after ∧ IsPlainAt name after

/-- A text is a type before another one: a run of type parts that begins with a word and cannot be
continued. -/
def IsTypeAt (type after : Text) : Prop :=
  ∃ first run : Text, type = first ++ run ∧ IsPlainAt first (run ++ after) ∧ IsTypeRun after run ∧
    ¬ BeginsTypePart after

/-- The spacing in the accessors of a property. -/
structure AccessorSpacing where
  beforeLeftBrace : Spacing
  beforeGet : Spacing
  afterGet : Spacing
  beforeSet : Spacing
  afterSet : Spacing
  beforeRightBrace : Spacing

/-- The accessors of a property as a text. -/
def AccessorSpacing.text (spacing : AccessorSpacing) : Text :=
  spacing.beforeLeftBrace.text ++ '{' :: (spacing.beforeGet.text ++ ("get".toList ++
    (spacing.afterGet.text ++ ';' :: (spacing.beforeSet.text ++ ("set".toList ++
      (spacing.afterSet.text ++ ';' :: (spacing.beforeRightBrace.text ++ ['}'])))))))

/-- A line reads like a property: `public`, a type, a word as its name, and accessors, with anything behind
them. -/
def ReadsProperty (line name type : Text) : Prop :=
  ∃ (indent : Spacing) (gap : Separator) (before : Spacing) (accessors : AccessorSpacing) (after : Text),
    line = indent.text ++ ("public".toList ++ (gap.text ++
      (type ++ (before.text ++ (name ++ (accessors.text ++ after)))))) ∧
    IsTypeAt type (before.text ++ (name ++ (accessors.text ++ after))) ∧ IsWord name

/-! ## Spacing and words -/

/-- A separator ends a word. -/
theorem Separator.endsWord (separator : Separator) (after : Text) : EndsWord (separator.text ++ after) := by
  obtain ⟨c, rest, htext⟩ := List.exists_cons_of_ne_nil separator.ne_nil
  have hgap : isGap c = true := separator.isGap c (by simp [htext])
  have hpart : isWordPart c = false := by
    rw [Bool.eq_false_iff]
    intro hpart
    rw [not_gap_of_isWordPart hpart] at hgap
    cases hgap
  rw [htext]
  exact endsWord_cons hpart _

/-- Nothing that begins with a word ends a word. -/
theorem IsWord.not_endsWord {word : Text} (hword : IsWord word) (rest : Text) :
    ¬ EndsWord (word ++ rest) := by
  intro hend
  cases word with
  | nil => exact hword.elim
  | cons c more =>
    have hpart := hend c rfl
    rw [isWordPart_of_isWordStart hword.1] at hpart
    cases hpart

/-- Spacing between two words is not empty. -/
theorem Spacing.ne_nil {spacing : Spacing} {word after : Text} (hword : IsWord word)
    (hend : EndsWord (spacing.text ++ (word ++ after))) : spacing.text ≠ [] := by
  intro hnil
  rw [hnil] at hend
  exact hword.not_endsWord after hend

/-- A character is harmless if and only if it is in one of the three ranges. -/
theorem inRanges_harmlessRanges_iff (c : Char) :
    inRanges harmlessRanges c.toNat = true ↔
      (0xE000 ≤ c.toNat ∧ c.toNat ≤ 0xEFFF) ∨ (0x40000 ≤ c.toNat ∧ c.toNat ≤ 0xBFFFF) ∨
        (0x100000 ≤ c.toNat ∧ c.toNat ≤ 0x10FFFF) := by
  simp only [harmlessRanges, inRanges]
  split
  · simp; omega
  · split
    · simp; omega
    · split
      · simp; omega
      · simp; omega

/-- A keyword stays one exactly before a text that ends it and does not begin with a character that spoils
keywords. -/
theorem keepsKeyword_iff {after : Text} :
    KeepsKeyword after ↔ EndsWord after ∧ after.head?.any spoilsKeyword = false := by
  refine and_congr_right fun hend => ?_
  cases after with
  | nil => simp
  | cons c rest =>
    have hpart : isWordPart c = false := hend c rfl
    have hharmless := inRanges_harmlessRanges_iff c
    simp only [List.head?_cons, Option.some.injEq, forall_eq', Option.any_some, spoilsKeyword, hpart,
      Bool.not_false, Bool.and_true, Bool.and_eq_false_iff, decide_eq_false_iff_not, Nat.not_le,
      Bool.not_eq_false', hharmless]

/-- A keyword stays one before an ASCII character that does not continue it. -/
theorem keepsKeyword_cons {c : Char} (hpart : isWordPart c = false) (hascii : c.toNat < 0x80) (rest : Text) :
    KeepsKeyword (c :: rest) := by
  refine ⟨endsWord_cons hpart rest, fun d hd => .inl ?_⟩
  obtain rfl : c = d := by simpa using hd
  exact hascii

/-- A keyword stays one before a symbol. -/
theorem keepsKeyword_symbol (sign : Symbol) (rest : Text) : KeepsKeyword (sign.char :: rest) :=
  keepsKeyword_cons sign.not_wordPart (by cases sign <;> decide) rest

/-- A keyword stays one before a character that separates tokens. -/
theorem keepsKeyword_gap {c : Char} (hgap : isGap c = true) (rest : Text) : KeepsKeyword (c :: rest) := by
  have hpart : isWordPart c = false := by
    rw [Bool.eq_false_iff]
    intro hpart
    rw [not_gap_of_isWordPart hpart] at hgap
    cases hgap
  refine keepsKeyword_cons hpart ?_ rest
  simp only [isGap, Bool.or_eq_true, beq_iff_eq] at hgap
  rcases hgap with ((rfl | rfl) | rfl) | rfl <;> decide

/-- A keyword stays one before spacing, if it does before what follows. -/
theorem KeepsKeyword.spacing {after : Text} (h : KeepsKeyword after) (spacing : Spacing) :
    KeepsKeyword (spacing.text ++ after) := by
  cases htext : spacing.text with
  | nil => exact h
  | cons c rest => exact keepsKeyword_gap (spacing.isGap c (by simp [htext])) _

/-- A keyword stays one before a separator. -/
theorem keepsKeyword_separator (separator : Separator) (after : Text) :
    KeepsKeyword (separator.text ++ after) := by
  obtain ⟨c, rest, htext⟩ := List.exists_cons_of_ne_nil separator.ne_nil
  rw [htext]
  exact keepsKeyword_gap (separator.isGap c (by simp [htext])) _

/-- Accessors leave a keyword before them alone. -/
theorem AccessorSpacing.keepsKeyword (spacing : AccessorSpacing) (after : Text) :
    KeepsKeyword (spacing.text ++ after) := by
  rw [text, List.append_assoc]
  exact (keepsKeyword_symbol .leftBrace _).spacing spacing.beforeLeftBrace

/-- What follows `class` in a header ends it. -/
theorem ReadsHeader.endsWord {line rest : Text} (h : ReadsHeader line rest) : EndsWord rest := by
  obtain ⟨-, -, hkeeps⟩ := h
  exact hkeeps.1

/-! ## Runs of type parts -/

/-- Every text begins with a run of type parts that is as long as it can be. -/
theorem exists_isTypeRun (t : Text) :
    ∃ run after : Text, t = run ++ after ∧ IsTypeRun after run ∧ ¬ BeginsTypePart after := by
  by_cases hbegins : BeginsTypePart t
  · rcases hbegins with ⟨sign, rest, ht⟩ | ⟨name, rest, ht, hname⟩
    · have hshorter : rest.length < t.length := by simp [ht]
      obtain ⟨run, after, hrest, hrun, hend⟩ := exists_isTypeRun rest
      exact ⟨sign.symbol.char :: run, after, by rw [ht, hrest]; rfl, .sign sign hrun, hend⟩
    · have hpos : 0 < name.length := List.length_pos_iff.2 hname.1.ne_nil
      have hshorter : rest.length < t.length := by simp [ht, hpos]
      obtain ⟨run, after, hrest, hrun, hend⟩ := exists_isTypeRun rest
      rw [hrest] at hname
      exact ⟨name ++ run, after, by rw [ht, hrest, List.append_assoc], .name hname hrun, hend⟩
  · exact ⟨[], t, rfl, .nil, hbegins⟩
termination_by t.length

end InterfaceGen.Source
