import InterfaceGen.Json.Printer
import InterfaceGen.Json.Reader
import Mathlib.Tactic.SplitIfs

/-!
# Scanning printed tokens

A string is scanned up to its closing quote, whatever stands behind it.  Words and numbers are scanned as
far as they go, so that what stands behind them must not continue them; behind a printed value there is a
comma, a gap or nothing.

Main definitions:

- `EndsValue`: the texts that can stand behind a printed value.

Main results:

- Theorem `charsOfCodes?_toNat`: a text is made up again from its code points.
- Theorems `readToken?_quoteContent`, `readToken?_word` and `readToken?_number`: a string, a word and a number
  as the first token of a text.
-/

namespace InterfaceGen.Json

open Text

/-! ## Strings -/

/-- Two hexadecimal digits behind two zeros are read as the number that they stand for. -/
theorem hexUnit?_hexChar {n : Nat} (h : n < 0x20) :
    hexUnit? '0' '0' (hexChar (n / 16)) (hexChar (n % 16)) = some n := by
  revert h n
  decide

section Strings

variable {rest after : Text} {codes : List Nat}

/-- The closing quote ends a string. -/
theorem readString?_quote (rest : Text) : readString? ('"' :: rest) = some ([], rest) := by
  rw [readString?.eq_def]
  rfl

/-- An escape of one letter is read as its code point. -/
theorem readString?_letter (hrest : readString? rest = some (codes, after)) {letter : Char} {code : Nat}
    (hletter : letter ≠ 'u') (hcode : shortEscape? letter = some code) :
    readString? ('\\' :: letter :: rest) = some (code :: codes, after) := by
  rw [readString?.eq_def]
  have hquote : '\\' ≠ '"' := by decide
  simp [hletter, hcode, hrest]

/-- An escape of four digits is read as the unit that they stand for. -/
theorem readString?_unit (hrest : readString? rest = some (codes, after)) {a b c d : Char} {unit : Nat}
    (hunit : hexUnit? a b c d = some unit) :
    readString? ('\\' :: 'u' :: a :: b :: c :: d :: rest) = some (unit :: codes, after) := by
  rw [readString?.eq_def]
  simp [hunit, hrest]

/-- A character that is neither escaped nor a quote is read as its code point. -/
theorem readString?_self (hrest : readString? rest = some (codes, after)) {c : Char} (hquote : c ≠ '"')
    (hslash : c ≠ '\\') (hcontrol : ¬ c.toNat < 0x20) :
    readString? (c :: rest) = some (c.toNat :: codes, after) := by
  rw [readString?.eq_def]
  simp only [if_neg hquote, if_neg hslash, if_neg hcontrol, hrest]
  rfl

/-- A character as it is written inside a string is read as its code point. -/
theorem readString?_escape (hrest : readString? rest = some (codes, after)) (c : Char) :
    readString? (escape c ++ rest) = some (c.toNat :: codes, after) := by
  unfold escape
  split_ifs with hquote hslash hbackspace hfeed hline hreturn htab hcontrol
  · rw [hquote]
    exact readString?_letter hrest (by decide) rfl
  · rw [hslash]
    exact readString?_letter hrest (by decide) rfl
  · rw [hbackspace]
    exact readString?_letter hrest (by decide) rfl
  · rw [hfeed]
    exact readString?_letter hrest (by decide) rfl
  · rw [hline]
    exact readString?_letter hrest (by decide) rfl
  · rw [hreturn]
    exact readString?_letter hrest (by decide) rfl
  · rw [htab]
    exact readString?_letter hrest (by decide) rfl
  · exact readString?_unit hrest (hexUnit?_hexChar hcontrol)
  · exact readString?_self hrest hquote hslash hcontrol

end Strings

/-- A text as it is written inside a string is read as its code points, up to the closing quote. -/
theorem readString?_flatMap_escape (t rest : Text) :
    readString? (t.flatMap escape ++ '"' :: rest) = some (t.map Char.toNat, rest) := by
  induction t with
  | nil => exact readString?_quote rest
  | cons c more ih =>
    rw [List.flatMap_cons, List.append_assoc]
    exact readString?_escape ih c

/-- No character is half of a surrogate pair. -/
theorem not_isSurrogate_toNat (c : Char) :
    isHighSurrogate c.toNat = false ∧ isLowSurrogate c.toNat = false := by
  have hvalid : c.toNat < 0xD800 ∨ 0xDFFF < c.toNat ∧ c.toNat < 0x110000 := c.valid
  simp only [isHighSurrogate, isLowSurrogate, Bool.and_eq_false_iff, decide_eq_false_iff_not]
  omega

/-- A text is made up again from its code points. -/
theorem charsOfCodes?_toNat (t : Text) : charsOfCodes? (t.map Char.toNat) = some t := by
  induction t with
  | nil => rfl
  | cons c rest ih =>
    obtain ⟨hhigh, hlow⟩ := not_isSurrogate_toNat c
    cases rest with
    | nil => simp [charsOfCodes?, hhigh, hlow]
    | cons d more =>
      rw [List.map_cons, List.map_cons, charsOfCodes?, ← List.map_cons, ih]
      simp [hhigh, hlow]

/-- What begins with a quote is read as a string. -/
theorem readToken?_quote {t after : Text} {codes : List Nat} (h : readString? t = some (codes, after)) :
    readToken? ('"' :: t) = some (.string (charsOfCodes? codes), after) := by
  have hsign : signToken? '"' = none := rfl
  simp only [readToken?, hsign, h, if_true, Option.map_some]

/-- A printed string is read as the string, also when it has no content. -/
theorem readToken?_quoteContent (content : Option Text) (rest : Text) :
    readToken? (quoteContent content ++ rest) = some (.string content, rest) := by
  cases content with
  | none =>
    have hwritten : quoteContent none = ['"', '\\', 'u', 'd', '8', '0', '0', '"'] := by decide
    have hunit : hexUnit? 'd' '8' '0' '0' = some 0xD800 := by decide
    have halone : charsOfCodes? [0xD800] = none := by decide
    have hread := readToken?_quote (readString?_unit (readString?_quote rest) hunit)
    rw [halone] at hread
    rw [hwritten]
    exact hread
  | some t =>
    have hwritten : quoteContent (some t) = '"' :: t.flatMap escape ++ ['"'] := rfl
    have hread := readToken?_quote (readString?_flatMap_escape t rest)
    rw [charsOfCodes?_toNat] at hread
    rw [hwritten, List.append_assoc, List.cons_append]
    exact hread

/-! ## What stands behind a value -/

/-- A text that begins with a comma or a gap or is empty, as what stands behind a printed value does. -/
def EndsValue (t : Text) : Prop :=
  ∀ c, t.head? = some c → c = ',' ∨ isGap c = true

/-- Nothing can stand behind a value. -/
theorem endsValue_nil : EndsValue [] := by
  intro c hc
  cases hc

/-- A comma can stand behind a value. -/
theorem endsValue_comma (rest : Text) : EndsValue (',' :: rest) := by
  intro c hc
  exact .inl (Option.some.inj hc).symm

/-- A gap can stand behind a value. -/
theorem endsValue_gap {c : Char} (h : isGap c = true) (rest : Text) : EndsValue (c :: rest) := by
  intro d hd
  obtain rfl : c = d := Option.some.inj hd
  exact .inr h

/-- What stands behind a value continues neither a word nor a number. -/
theorem EndsValue.not_part {t : Text} (h : EndsValue t) :
    ∀ c, t.head? = some c → c.isAlpha = false ∧ isNumberPart c = false := by
  intro c hc
  have hstop := h c hc
  simp only [isGap, Bool.or_eq_true, beq_iff_eq] at hstop
  rcases hstop with rfl | ((rfl | rfl) | rfl) | rfl <;> decide

/-! ## Words -/

/-- No sign is a part of words or numbers. -/
theorem not_part_of_signToken? {c : Char} {token : Token} (h : signToken? c = some token) :
    c.isAlpha = false ∧ isNumberPart c = false := by
  unfold signToken? at h
  split at h
  case h_7 => cases h
  all_goals decide

/-- No part of words or numbers is a sign. -/
theorem signToken?_of_part {c : Char} (h : c.isAlpha = true ∨ isNumberPart c = true) :
    signToken? c = none := by
  cases hsign : signToken? c with
  | none => rfl
  | some token =>
    obtain ⟨halpha, hpart⟩ := not_part_of_signToken? hsign
    simp [halpha, hpart] at h

/-- Every word that is a token consists of letters. -/
theorem isAlpha_of_wordToken? {word : Text} {token : Token} (h : wordToken? word = some token) :
    word ≠ [] ∧ word.all Char.isAlpha = true := by
  unfold wordToken? at h
  split_ifs at h with hnull htrue hfalse
  · rw [hnull]
    decide
  · rw [htrue]
    decide
  · rw [hfalse]
    decide

/-- A word is read whole. -/
theorem readToken?_word {word after : Text} {token : Token} (hword : wordToken? word = some token)
    (hend : EndsValue after) : readToken? (word ++ after) = some (token, after) := by
  obtain ⟨hne, hall⟩ := isAlpha_of_wordToken? hword
  have halpha : ∀ c ∈ word, c.isAlpha = true := List.all_eq_true.1 hall
  cases word with
  | nil => exact absurd rfl hne
  | cons c rest =>
    have hc : c.isAlpha = true := halpha c List.mem_cons_self
    have hquote : c ≠ '"' := by
      rintro rfl
      revert hc
      decide
    obtain ⟨htake, hdrop⟩ := takeWhile_dropWhile_run
      (fun d hd => halpha d (List.mem_cons_of_mem c hd)) fun d hd => (hend.not_part d hd).1
    rw [List.cons_append, readToken?, signToken?_of_part (.inl hc)]
    simp only [if_neg hquote, hc, if_true, htake, hdrop, hword, Option.map_some]

/-! ## Numbers -/

/-- Digits are parts of numbers. -/
theorem isNumberPart_of_all {t : Text} (h : t.all Char.isDigit = true) :
    ∀ c ∈ t, isNumberPart c = true := by
  intro c hc
  simp [isNumberPart, List.all_eq_true.1 h c hc]

/-- All characters of a text are parts of numbers if those behind its first digits are. -/
theorem isNumberPart_of_dropWhile {t : Text}
    (h : ∀ c ∈ t.dropWhile Char.isDigit, isNumberPart c = true) : ∀ c ∈ t, isNumberPart c = true := by
  intro c hc
  rw [← List.takeWhile_append_dropWhile (p := Char.isDigit) (l := t)] at hc
  rcases List.mem_append.1 hc with hc | hc
  · exact isNumberPart_of_all List.all_takeWhile c hc
  · exact h c hc

/-- All characters of an exponent are parts of numbers. -/
theorem isNumberPart_of_isExponent {t : Text} (h : isExponent t = true) :
    ∀ c ∈ t, isNumberPart c = true := by
  cases t with
  | nil => simp
  | cons mark rest =>
    simp only [isExponent, Bool.and_eq_true, Bool.or_eq_true, beq_iff_eq] at h
    obtain ⟨⟨hmark, -⟩, hdigits⟩ := h
    have hfirst : isNumberPart mark = true := by
      rcases hmark with rfl | rfl <;> decide
    have hrest : ∀ c ∈ rest, isNumberPart c = true := by
      split at hdigits
      · exact List.forall_mem_cons.2 ⟨by decide, isNumberPart_of_all hdigits⟩
      · exact List.forall_mem_cons.2 ⟨by decide, isNumberPart_of_all hdigits⟩
      · exact isNumberPart_of_all hdigits
    exact List.forall_mem_cons.2 ⟨hfirst, hrest⟩

/-- All characters of a fraction are parts of numbers. -/
theorem isNumberPart_of_isFraction {t : Text} (h : isFraction t = true) :
    ∀ c ∈ t, isNumberPart c = true := by
  unfold isFraction at h
  split at h
  · next rest =>
    have hexponent : isExponent (rest.dropWhile Char.isDigit) = true := (Bool.and_eq_true_iff.1 h).2
    have hrest := isNumberPart_of_dropWhile (isNumberPart_of_isExponent hexponent)
    exact List.forall_mem_cons.2 ⟨by decide, hrest⟩
  · exact isNumberPart_of_isExponent h

/-- A text whose first digits are an integer begins with a digit. -/
theorem exists_of_isInteger {t : Text} (h : isInteger (t.takeWhile Char.isDigit) = true) :
    ∃ c rest, t = c :: rest ∧ c.isDigit = true := by
  cases t with
  | nil => cases h
  | cons c rest =>
    refine ⟨c, rest, rfl, ?_⟩
    cases hc : c.isDigit with
    | true => rfl
    | false =>
      rw [List.takeWhile_cons_of_neg (by simp [hc])] at h
      cases h

/-- A number begins with a digit or a minus, and all that follows are parts of numbers. -/
theorem exists_of_isNumber {t : Text} (h : isNumber t = true) :
    ∃ c rest, t = c :: rest ∧ (c.isDigit = true ∨ c = '-') ∧ ∀ d ∈ rest, isNumberPart d = true := by
  simp only [isNumber, Bool.and_eq_true] at h
  obtain ⟨hinteger, hfraction⟩ := h
  have hparts := isNumberPart_of_dropWhile (isNumberPart_of_isFraction hfraction)
  revert hinteger hparts
  split
  · next rest =>
    intro _ hparts
    exact ⟨'-', rest, rfl, .inr rfl, hparts⟩
  · intro hinteger hparts
    obtain ⟨c, rest, rfl, hc⟩ := exists_of_isInteger hinteger
    exact ⟨c, rest, rfl, .inl hc, fun d hd => hparts d (List.mem_cons_of_mem c hd)⟩

/-- No digit is a letter: digits come before all letters. -/
theorem not_isAlpha_of_isDigit {c : Char} (h : c.isDigit = true) : c.isAlpha = false := by
  have hdigit : c.val ≤ 57 := of_decide_eq_true (Bool.and_eq_true_iff.1 h).2
  refine Bool.or_eq_false_iff.2 ⟨decide_eq_false ?_, ?_⟩
  · rintro ⟨hupper, -⟩
    exact absurd (UInt32.le_trans hupper hdigit) (by decide)
  · refine Bool.and_eq_false_iff.2 (.inl (decide_eq_false fun hlower => ?_))
    exact absurd (UInt32.le_trans hlower hdigit) (by decide)

/-- What a number begins with begins neither a word nor a string. -/
theorem isNumberPart_of_start {c : Char} (h : c.isDigit = true ∨ c = '-') :
    isNumberPart c = true ∧ c.isAlpha = false ∧ c ≠ '"' := by
  rcases h with h | rfl
  · refine ⟨by simp [isNumberPart, h], not_isAlpha_of_isDigit h, ?_⟩
    rintro rfl
    revert h
    decide
  · decide

/-- A number is read whole. -/
theorem readToken?_number {literal after : Text} (hnumber : isNumber literal = true)
    (hend : EndsValue after) : readToken? (literal ++ after) = some (.number literal, after) := by
  obtain ⟨c, rest, rfl, hc, hrest⟩ := exists_of_isNumber hnumber
  obtain ⟨hpart, halpha, hquote⟩ := isNumberPart_of_start hc
  obtain ⟨htake, hdrop⟩ := takeWhile_dropWhile_run hrest fun d hd => (hend.not_part d hd).2
  rw [List.cons_append, readToken?, signToken?_of_part (.inr hpart)]
  simp only [if_neg hquote, halpha, hpart, htake, hdrop, hnumber, Bool.and_self, if_true]
  rfl

/-! ## Gaps and signs -/

/-- No token begins with a gap. -/
theorem readToken?_gap {c : Char} (h : isGap c = true) (rest : Text) : readToken? (c :: rest) = none := by
  simp only [isGap, Bool.or_eq_true, beq_iff_eq] at h
  rcases h with ((rfl | rfl) | rfl) | rfl <;> rfl

/-- A sign is read by itself. -/
theorem readToken?_sign {c : Char} {token : Token} (h : signToken? c = some token) (rest : Text) :
    readToken? (c :: rest) = some (token, rest) := by
  simp only [readToken?, h]

/-- A gap is passed over. -/
theorem tokenize?_gap {c : Char} (h : isGap c = true) (rest : Text) :
    tokenize? (c :: rest) = tokenize? rest := by
  rw [tokenize?, if_pos h]

/-- The tokens of a text are its first token and those of the text behind it. -/
theorem tokenize?_of_readToken? {t after : Text} {token : Token}
    (h : readToken? t = some (token, after)) : tokenize? t = (tokenize? after).map (token :: ·) := by
  cases t with
  | nil => cases h
  | cons c rest =>
    have hgap : isGap c ≠ true := by
      intro hgap
      rw [readToken?_gap hgap] at h
      cases h
    rw [tokenize?, if_neg hgap]
    split
    · next hnone =>
      rw [hnone] at h
      cases h
    · next hsome =>
      obtain ⟨rfl, rfl⟩ := Prod.mk.inj (Option.some.inj (hsome.symm.trans h))
      rfl

end InterfaceGen.Json
