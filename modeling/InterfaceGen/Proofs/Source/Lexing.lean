import InterfaceGen.Proofs.Source.Characters

/-!
# Lexing composed texts

How a text that is put together from words, symbols and gaps is lexed, and what a lexed text is put
together from.  Both directions hold from any byte position, so that a line can be lexed part by part.

Main definitions:

- `IsWord`: the texts that are words.
- `EndsWord`: the texts that cannot continue a word before them.

Main results:

- Theorems `lexFrom_gap`, `lexFrom_symbol` and `lexFrom_word`: lexing a text by its first part.
- Theorem `tokens_lexFrom`: the tokens of a text do not depend on its position.
- Theorem `exists_of_lexemes_eq_cons`: the first lexeme of a text stands behind gaps at its own bytes,
  and the others are those of the text after it.
-/

namespace InterfaceGen.Source

open Text

/-! ## Words -/

/-- A text that begins like a word and goes on like one. -/
def IsWord : Text → Prop
  | [] => False
  | c :: rest => isWordStart c = true ∧ ∀ d ∈ rest, isWordPart d = true

-- by `List.all`, as otherwise all characters there are would be tried
instance : DecidablePred IsWord
  | [] => isFalse id
  | c :: rest => decidable_of_iff (isWordStart c = true ∧ rest.all isWordPart = true)
      (and_congr_right fun _ => List.all_eq_true)

/-- Every character of a word is a part of words. -/
theorem IsWord.isWordPart {word : Text} (h : IsWord word) : ∀ c ∈ word, isWordPart c = true := by
  cases word with
  | nil => exact h.elim
  | cons c rest =>
    intro d hd
    rcases List.mem_cons.1 hd with rfl | hd
    · exact isWordPart_of_isWordStart h.1
    · exact h.2 d hd

/-- A word is not empty. -/
theorem IsWord.ne_nil {word : Text} (h : IsWord word) : word ≠ [] := by
  rintro rfl
  exact h

/-- A word holds no blank. -/
theorem IsWord.not_blank {word : Text} (h : IsWord word) : ∀ c ∈ word, isBlank c = false :=
  fun c hc => not_blank_of_isWordPart (h.isWordPart c hc)

/-- A text that does not continue a word before it. -/
def EndsWord (t : Text) : Prop :=
  ∀ c, t.head? = some c → isWordPart c = false

/-- The end of a text ends a word. -/
theorem endsWord_nil : EndsWord [] := by
  intro c hc
  cases hc

/-- A character that is no part of words ends a word. -/
theorem endsWord_cons {c : Char} (h : isWordPart c = false) (rest : Text) : EndsWord (c :: rest) := by
  intro d hd
  obtain rfl : c = d := by simpa using hd
  exact h

/-! ## Single tokens -/

/-- A keyword is spelled by its text. -/
theorem Keyword.text_of_ofText? {word : Text} {keyword : Keyword}
    (h : Keyword.ofText? word = some keyword) : keyword.text = word := by
  simpa using List.find?_some h

/-- The token of a word is spelled by the word. -/
@[simp] theorem text_wordToken (word after : Text) : (wordToken word after).text = word := by
  unfold wordToken
  cases hkeyword : Keyword.ofText? word with
  | none => rfl
  | some keyword =>
    by_cases hspoiled : after.head?.any spoilsKeyword
    · simp [hspoiled, Token.text]
    · simp [hspoiled, Token.text, Keyword.text_of_ofText? hkeyword]

/-- A symbol is read by its character. -/
theorem readToken_symbol (sign : Symbol) (rest : Text) :
    readToken (sign.char :: rest) = some (.symbol sign, rest) := by
  simp [readToken]

/-- A word is read whole. -/
theorem readToken_word {word after : Text} (hword : IsWord word) (hend : EndsWord after) :
    readToken (word ++ after) = some (wordToken word after, after) := by
  cases word with
  | nil => exact hword.elim
  | cons c rest =>
    obtain ⟨hstart, hrest⟩ := hword
    have hsymbol : Symbol.ofChar? c = none := ofChar?_of_isWordPart (isWordPart_of_isWordStart hstart)
    have hafter : after.takeWhile isWordPart = [] ∧ after.dropWhile isWordPart = after := by
      cases after with
      | nil => exact ⟨rfl, rfl⟩
      | cons d more => simp [hend d rfl]
    simp [readToken, hsymbol, hstart, List.takeWhile_append_of_pos hrest,
      List.dropWhile_append_of_pos hrest, hafter]

/-- What is read from a text is a symbol, or a whole word with a text after it that ends the word. -/
theorem readToken_cases {t after : Text} {token : Token} (h : readToken t = some (token, after)) :
    (∃ sign, token = .symbol sign ∧ t = sign.char :: after) ∨
      ∃ word, IsWord word ∧ EndsWord after ∧ token = wordToken word after ∧ t = word ++ after := by
  cases t with
  | nil => cases h
  | cons c rest =>
    simp only [readToken] at h
    split at h
    · next sign hsymbol =>
      cases h
      exact .inl ⟨sign, rfl, by rw [Symbol.char_of_ofChar? hsymbol]⟩
    · split at h
      · next hstart =>
        cases h
        refine .inr ⟨c :: rest.takeWhile isWordPart, ⟨hstart, ?_⟩, ?_, rfl, ?_⟩
        · exact List.all_eq_true.1 List.all_takeWhile
        · intro d hd
          have hstop := List.head?_dropWhile_not isWordPart rest
          rwa [hd] at hstop
        · simp
      · cases h

/-- A text begins with the spelling of its first token. -/
theorem eq_append_of_readToken {t after : Text} {token : Token}
    (h : readToken t = some (token, after)) : t = token.text ++ after := by
  rcases readToken_cases h with ⟨sign, rfl, rfl⟩ | ⟨word, -, -, rfl, rfl⟩
  · rfl
  · rw [text_wordToken]

/-! ## Lexing by the first part -/

/-- Gaps are skipped. -/
theorem lexFrom_gap {c : Char} (hgap : isGap c = true) (position : Nat) (rest : Text) :
    lexFrom position (c :: rest) = lexFrom (position + c.utf8Size) rest := by
  rw [lexFrom, if_pos hgap]

/-- Lexing stops where no token begins. -/
theorem lexFrom_none {c : Char} {rest : Text} (hgap : isGap c = false)
    (hread : readToken (c :: rest) = none) (position : Nat) :
    lexFrom position (c :: rest) = ⟨[], false⟩ := by
  rw [lexFrom, if_neg (by simp [hgap])]
  split
  · rfl
  · next hsome => simp [hread] at hsome

/-- A token is followed by the lexemes of the text after it. -/
theorem lexFrom_some {c : Char} {rest after : Text} {token : Token} (hgap : isGap c = false)
    (hread : readToken (c :: rest) = some (token, after)) (position : Nat) :
    lexFrom position (c :: rest) =
      (lexFrom (position + byteSize token.text) after).cons
        ⟨token, position, position + byteSize token.text⟩ := by
  rw [lexFrom, if_neg (by simp [hgap])]
  split
  · next hnone => simp [hread] at hnone
  · next token' after' hsome =>
    rw [hread] at hsome
    cases hsome
    rfl

/-- A symbol is lexed by itself. -/
theorem lexFrom_symbol (sign : Symbol) (position : Nat) (rest : Text) :
    lexFrom position (sign.char :: rest) =
      (lexFrom (position + byteSize [sign.char]) rest).cons
        ⟨.symbol sign, position, position + byteSize [sign.char]⟩ :=
  lexFrom_some sign.not_gap (readToken_symbol sign rest) position

/-- A word is lexed whole. -/
theorem lexFrom_word {word after : Text} (hword : IsWord word) (hend : EndsWord after)
    (position : Nat) :
    lexFrom position (word ++ after) =
      (lexFrom (position + byteSize word) after).cons
        ⟨wordToken word after, position, position + byteSize word⟩ := by
  cases word with
  | nil => exact hword.elim
  | cons c rest =>
    have hgap : isGap c = false := not_gap_of_isWordPart (isWordPart_of_isWordStart hword.1)
    have hread : readToken (c :: (rest ++ after)) = some (wordToken (c :: rest) after, after) :=
      readToken_word hword hend
    rw [List.cons_append, lexFrom_some hgap hread, text_wordToken]

/-! ## Positions -/

@[simp] theorem tokens_cons (lexeme : Lexeme) (line : LexedLine) :
    (line.cons lexeme).tokens = lexeme.token :: line.tokens := rfl

@[simp] theorem lexemes_cons (lexeme : Lexeme) (line : LexedLine) :
    (line.cons lexeme).lexemes = lexeme :: line.lexemes := rfl

/-- The tokens of a text do not depend on its position. -/
theorem tokens_lexFrom (t : Text) (position : Nat) :
    (lexFrom position t).tokens = (lex t).tokens := by
  suffices h : ∀ start, (lexFrom position t).tokens = (lexFrom start t).tokens from h 0
  fun_induction lexFrom position t with
  | case1 position =>
    intro start
    rw [lexFrom]
  | case2 position c rest hgap ih =>
    intro start
    rw [lexFrom_gap hgap, ih]
  | case3 position c rest hgap hread =>
    intro start
    rw [lexFrom_none (by simpa using hgap) hread]
  | case4 position c rest hgap token after hread stop ih =>
    intro start
    rw [lexFrom_some (by simpa using hgap) hread, tokens_cons, tokens_cons, ih]

/-- The first lexeme of a text stands behind gaps at its own bytes, and the others are those of the text
after it. -/
theorem exists_of_lexemes_eq_cons {t : Text} {position : Nat} {lexeme : Lexeme} {more : List Lexeme}
    (h : (lexFrom position t).lexemes = lexeme :: more) :
    ∃ gaps after, t = gaps ++ lexeme.token.text ++ after ∧ (∀ c ∈ gaps, isGap c = true) ∧
      readToken (lexeme.token.text ++ after) = some (lexeme.token, after) ∧
      lexeme.start = position + byteSize gaps ∧
      lexeme.stop = lexeme.start + byteSize lexeme.token.text ∧
      more = (lexFrom lexeme.stop after).lexemes := by
  fun_induction lexFrom position t with
  | case1 position => cases h
  | case2 position c rest hgap ih =>
    obtain ⟨gaps, after, rfl, hgaps, hread, hstart, hstop, hmore⟩ := ih h
    refine ⟨c :: gaps, after, rfl, ?_, hread, ?_, hstop, hmore⟩
    · intro d hd
      rcases List.mem_cons.1 hd with rfl | hd
      · exact hgap
      · exact hgaps d hd
    · rw [hstart, byteSize, Nat.add_assoc]
  | case3 position c rest hgap hread => cases h
  | case4 position c rest hgap token after hread stop ih =>
    rw [lexemes_cons] at h
    obtain ⟨rfl, rfl⟩ := List.cons.inj h
    have ht := eq_append_of_readToken hread
    refine ⟨[], after, ht, by simp, ?_, rfl, rfl, rfl⟩
    rw [← ht]
    exact hread

end InterfaceGen.Source
