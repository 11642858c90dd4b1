import InterfaceGen.Source.Lexer
import InterfaceGen.Text.Blank

/-!
# The characters of tokens

Blanks, symbols and the characters of words do not meet, so that a token is told from what stands around
it by one character.

Main results:

- Theorem `not_blank_of_isWordPart`: no character of a word is blank.
- Theorem `ofChar?_of_isWordPart`: no character of a word is a symbol.
- Theorem `isBlank_of_isGap`: what separates tokens is blank.
-/

namespace InterfaceGen.Source

open Text

/-! ## Words -/

/-- A word may go on with what it may begin with. -/
theorem isWordPart_of_isWordStart {c : Char} (h : isWordStart c = true) : isWordPart c = true := by
  unfold isWordStart at h
  unfold isWordPart
  rcases Bool.or_eq_true_iff.1 h with hletter | hline
  · simp [hletter]
  · simp [hline]

/-- No character of a word is blank. -/
theorem not_blank_of_isWordPart {c : Char} (h : isWordPart c = true) : isBlank c = false := by
  simp only [isWordPart, Bool.or_eq_true, beq_iff_eq] at h
  rcases h with ((hletter | hmark) | hnumeral) | rfl
  · exact not_inRanges_of_areApart (by decide +kernel) hletter
  · exact not_inRanges_of_areApart (by decide +kernel) hmark
  · exact not_inRanges_of_areApart (by decide +kernel) hnumeral
  · decide

/-! ## Gaps -/

/-- The characters that separate tokens. -/
theorem isGap_iff_mem {c : Char} : isGap c = true ↔ c ∈ [' ', '\t', '\r', '\n'] := by
  simp [isGap, or_assoc]

/-- What separates tokens is blank. -/
theorem isBlank_of_isGap {c : Char} (h : isGap c = true) : isBlank c = true := by
  simp only [isGap, Bool.or_eq_true, beq_iff_eq] at h
  rcases h with ((rfl | rfl) | rfl) | rfl <;> decide

/-- No character of a word separates tokens. -/
theorem not_gap_of_isWordPart {c : Char} (h : isWordPart c = true) : isGap c = false := by
  rw [Bool.eq_false_iff]
  intro hgap
  have hblank := isBlank_of_isGap hgap
  rw [not_blank_of_isWordPart h] at hblank
  cases hblank

/-! ## Symbols -/

/-- A symbol is found by its character. -/
@[simp] theorem Symbol.ofChar?_char (sign : Symbol) : Symbol.ofChar? sign.char = some sign := by
  cases sign <;> decide

/-- The symbol that a character is has this character. -/
theorem Symbol.char_of_ofChar? {c : Char} {sign : Symbol} (h : Symbol.ofChar? c = some sign) :
    sign.char = c := by
  simpa using List.find?_some h

/-- No symbol is a part of a word. -/
theorem Symbol.not_wordPart (sign : Symbol) : isWordPart sign.char = false := by
  cases sign <;> decide +kernel

/-- No symbol is blank. -/
theorem Symbol.not_blank (sign : Symbol) : isBlank sign.char = false := by
  cases sign <;> decide

/-- No symbol separates tokens. -/
theorem Symbol.not_gap (sign : Symbol) : isGap sign.char = false := by
  cases sign <;> decide

/-- No character of a word is a symbol. -/
theorem ofChar?_of_isWordPart {c : Char} (h : isWordPart c = true) : Symbol.ofChar? c = none := by
  cases hsymbol : Symbol.ofChar? c with
  | none => rfl
  | some sign =>
    have hpart := sign.not_wordPart
    rw [Symbol.char_of_ofChar? hsymbol, h] at hpart
    cases hpart

end InterfaceGen.Source
