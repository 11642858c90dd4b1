import InterfaceGen.Proofs.Source.Grammar

/-!
# Lines by their tokens

The tokens of a line are said by its text: a line reads as some tokens if they stand at its beginning, each
behind spacing, with words that are as long as they can be.  So what is known of the tokens of a line is
known of its text, and the other way round.

Main definitions:

- `Reads`: texts that begin with some tokens, with spacing before each of them.

Main results:

- Theorems `readToken_keyword_iff` and `readToken_ident_iff`: which words are read as keywords, and which as
  ordinary words.
- Theorem `tokens_lex_eq_append_iff`: the tokens of a line are those that it reads as, from left to right.
-/

namespace InterfaceGen.Source

open Text

/-! ## Words and keywords -/

/-- A keyword is found by its text. -/
@[simp] theorem Keyword.ofText?_text (keyword : Keyword) : Keyword.ofText? keyword.text = some keyword := by
  cases keyword <;> decide

/-- The token of a word is a keyword if and only if the word is spelled like it and what follows does not
spoil it. -/
theorem wordToken_eq_keyword_iff {word after : Text} {keyword : Keyword} :
    wordToken word after = .keyword keyword ↔
      word = keyword.text ∧ after.head?.any spoilsKeyword = false := by
  unfold wordToken
  cases hfound : Keyword.ofText? word with
  | none =>
    have hne : word ≠ keyword.text := by
      rintro rfl
      simp at hfound
    simp [hne]
  | some found =>
    obtain rfl := Keyword.text_of_ofText? hfound
    have hinj : found.text = keyword.text ↔ found = keyword := by
      constructor
      · intro htext
        rw [htext, Keyword.ofText?_text] at hfound
        exact (Option.some.inj hfound).symm
      · rintro rfl
        rfl
    cases after.head?.any spoilsKeyword <;> simp [hinj]

/-- The token of a word is an ordinary word if and only if the word is not spelled like a keyword or what
follows spoils it. -/
theorem wordToken_eq_ident_iff {word after : Text} :
    wordToken word after = .ident word ↔
      ∀ keyword : Keyword, word = keyword.text → after.head?.any spoilsKeyword = true := by
  unfold wordToken
  cases hfound : Keyword.ofText? word with
  | none =>
    have hne : ∀ keyword : Keyword, word ≠ keyword.text := by
      rintro keyword rfl
      simp at hfound
    simp [hne]
  | some found =>
    obtain rfl := Keyword.text_of_ofText? hfound
    cases hspoiled : after.head?.any spoilsKeyword with
    | true => simp
    | false =>
      constructor
      · intro h
        cases h
      · intro h
        cases h found rfl

/-- An ordinary word is read as one. -/
theorem IsPlainAt.wordToken {word after : Text} (h : IsPlainAt word after) :
    wordToken word after = .ident word := by
  refine wordToken_eq_ident_iff.2 fun keyword hspelled => ?_
  rw [← Bool.not_eq_false]
  exact fun hkeeps => h.2.2 keyword hspelled (keepsKeyword_iff.2 ⟨h.2.1, hkeeps⟩)

/-- A keyword is read before a text if and only if it stays one. -/
theorem readToken_keyword_iff {keyword : Keyword} {after : Text} :
    readToken (keyword.text ++ after) = some (.keyword keyword, after) ↔ KeepsKeyword after := by
  rw [keepsKeyword_iff]
  constructor
  · intro h
    rcases readToken_cases h with ⟨sign, hsign, -⟩ | ⟨word, -, hend, htoken, -⟩
    · cases hsign
    · exact ⟨hend, (wordToken_eq_keyword_iff.1 htoken.symm).2⟩
  · rintro ⟨hend, hkeeps⟩
    rw [readToken_word keyword.isWord hend, wordToken_eq_keyword_iff.2 ⟨rfl, hkeeps⟩]

/-- An ordinary word is read before a text if and only if it is one there. -/
theorem readToken_ident_iff {word after : Text} :
    readToken (word ++ after) = some (.ident word, after) ↔ IsPlainAt word after := by
  constructor
  · intro h
    rcases readToken_cases h with ⟨sign, hsign, -⟩ | ⟨word', hword, hend, htoken, htext⟩
    · cases hsign
    · obtain rfl : word = word' := List.append_cancel_right htext
      refine ⟨hword, hend, fun keyword hspelled hkeeps => ?_⟩
      have hspoiled := wordToken_eq_ident_iff.1 htoken.symm keyword hspelled
      rw [(keepsKeyword_iff.1 hkeeps).2] at hspoiled
      cases hspoiled
  · rintro ⟨hword, hend, hplain⟩
    rw [readToken_word hword hend, IsPlainAt.wordToken ⟨hword, hend, hplain⟩]

/-! ## Lines by their tokens -/

/-- A text begins with some tokens, with spacing before each of them, and goes on with the rest. -/
inductive Reads : Text → List Token → Text → Prop
  | nil (rest : Text) : Reads rest [] rest
  | cons (spacing : Spacing) {token : Token} {after rest : Text} {tokens : List Token}
    (hread : readToken (token.text ++ after) = some (token, after)) (hmore : Reads after tokens rest) :
    Reads (spacing.text ++ (token.text ++ after)) (token :: tokens) rest

/-- A text begins with a token and more if and only if spacing, the token and then the others stand
there. -/
theorem reads_cons_iff {t rest : Text} {token : Token} {tokens : List Token} :
    Reads t (token :: tokens) rest ↔
      ∃ (spacing : Spacing) (after : Text), t = spacing.text ++ (token.text ++ after) ∧
        readToken (token.text ++ after) = some (token, after) ∧ Reads after tokens rest := by
  constructor
  · rintro (_ | ⟨spacing, hread, hmore⟩)
    exact ⟨spacing, _, rfl, hread, hmore⟩
  · rintro ⟨spacing, after, rfl, hread, hmore⟩
    exact .cons spacing hread hmore

/-- Without tokens a text goes on with itself. -/
theorem reads_nil_iff {t rest : Text} : Reads t [] rest ↔ t = rest := by
  constructor
  · rintro ⟨⟩
    rfl
  · rintro rfl
    exact .nil t

/-- Spacing is skipped. -/
theorem lexFrom_spacing (spacing : Spacing) (position : Nat) (rest : Text) :
    lexFrom position (spacing.text ++ rest) = lexFrom (position + byteSize spacing.text) rest := by
  have hgap := spacing.isGap
  generalize spacing.text = t at hgap ⊢
  induction t generalizing position with
  | nil => rfl
  | cons c more ih =>
    rw [List.cons_append, lexFrom_gap (hgap c List.mem_cons_self),
      ih _ fun d hd => hgap d (List.mem_cons_of_mem c hd), byteSize, Nat.add_assoc]

/-- A token that is read behind spacing is followed by the lexemes of the text after it. -/
theorem lexFrom_read {token : Token} {after : Text}
    (hread : readToken (token.text ++ after) = some (token, after)) (spacing : Spacing) (position : Nat) :
    lexFrom position (spacing.text ++ (token.text ++ after)) =
      (lexFrom (position + byteSize spacing.text + byteSize token.text) after).cons
        ⟨token, position + byteSize spacing.text,
          position + byteSize spacing.text + byteSize token.text⟩ := by
  rw [lexFrom_spacing]
  rcases readToken_cases hread with ⟨sign, rfl, -⟩ | ⟨word, hword, hend, rfl, -⟩
  · exact lexFrom_symbol sign _ after
  · rw [text_wordToken]
    exact lexFrom_word hword hend _

/-- A line whose first lexeme is known begins with its token behind spacing, and the other lexemes are those
of the text after it. -/
theorem exists_spacing_of_lexemes {t : Text} {position : Nat} {lexeme : Lexeme} {more : List Lexeme}
    (h : (lexFrom position t).lexemes = lexeme :: more) :
    ∃ (spacing : Spacing) (after : Text), t = spacing.text ++ (lexeme.token.text ++ after) ∧
      readToken (lexeme.token.text ++ after) = some (lexeme.token, after) ∧
      lexeme.start = position + byteSize spacing.text ∧
      lexeme.stop = lexeme.start + byteSize lexeme.token.text ∧
      more = (lexFrom lexeme.stop after).lexemes := by
  obtain ⟨gaps, after, ht, hgaps, hrest⟩ := exists_of_lexemes_eq_cons h
  exact ⟨⟨gaps, hgaps⟩, after, by rw [ht, List.append_assoc], hrest⟩

/-- The first token of a line stands behind spacing, and the others are those of the text after it. -/
theorem tokens_lex_eq_cons_iff {line : Text} {token : Token} {more : List Token} :
    (lex line).tokens = token :: more ↔
      ∃ (spacing : Spacing) (after : Text), line = spacing.text ++ (token.text ++ after) ∧
        readToken (token.text ++ after) = some (token, after) ∧ (lex after).tokens = more := by
  constructor
  · intro h
    obtain ⟨lexeme, lexemes, hlexemes, rfl, hmore⟩ := List.map_eq_cons_iff.1 h
    obtain ⟨spacing, after, hline, hread, -, -, hafter⟩ := exists_spacing_of_lexemes hlexemes
    rw [hafter] at hmore
    exact ⟨spacing, after, hline, hread, (tokens_lexFrom after lexeme.stop).symm.trans hmore⟩
  · rintro ⟨spacing, after, rfl, hread, rfl⟩
    rw [lex, lexFrom_read hread, tokens_cons, tokens_lexFrom]

/-- The tokens of a line are those that it reads as, from left to right. -/
theorem tokens_lex_eq_append_iff {line : Text} {tokens more : List Token} :
    (lex line).tokens = tokens ++ more ↔ ∃ rest, Reads line tokens rest ∧ (lex rest).tokens = more := by
  induction tokens generalizing line with
  | nil => simp [reads_nil_iff]
  | cons token tokens ih =>
    rw [List.cons_append, tokens_lex_eq_cons_iff]
    constructor
    · rintro ⟨spacing, after, hline, hread, hmore⟩
      obtain ⟨rest, hreads, hrest⟩ := ih.1 hmore
      exact ⟨rest, reads_cons_iff.2 ⟨spacing, after, hline, hread, hreads⟩, hrest⟩
    · rintro ⟨rest, hreads, hrest⟩
      obtain ⟨spacing, after, hline, hread, hmore⟩ := reads_cons_iff.1 hreads
      exact ⟨spacing, after, hline, hread, ih.2 ⟨rest, hmore, hrest⟩⟩

/-! ## Reading single tokens -/

/-- A symbol stands behind spacing. -/
theorem reads_symbol_iff {t rest : Text} {sign : Symbol} {tokens : List Token} :
    Reads t (.symbol sign :: tokens) rest ↔
      ∃ (spacing : Spacing) (after : Text), t = spacing.text ++ sign.char :: after ∧
        Reads after tokens rest := by
  rw [reads_cons_iff]
  constructor
  · rintro ⟨spacing, after, ht, -, hmore⟩
    exact ⟨spacing, after, ht, hmore⟩
  · rintro ⟨spacing, after, ht, hmore⟩
    exact ⟨spacing, after, ht, readToken_symbol sign after, hmore⟩

/-- A keyword stands behind spacing, where it stays one. -/
theorem reads_keyword_iff {t rest : Text} {keyword : Keyword} {tokens : List Token} :
    Reads t (.keyword keyword :: tokens) rest ↔
      ∃ (spacing : Spacing) (after : Text), t = spacing.text ++ (keyword.text ++ after) ∧
        KeepsKeyword after ∧ Reads after tokens rest := by
  rw [reads_cons_iff]
  simp only [Token.text, readToken_keyword_iff]

/-- An ordinary word stands behind spacing, where it is one. -/
theorem reads_ident_iff {t rest word : Text} {tokens : List Token} :
    Reads t (.ident word :: tokens) rest ↔
      ∃ (spacing : Spacing) (after : Text), t = spacing.text ++ (word ++ after) ∧
        IsPlainAt word after ∧ Reads after tokens rest := by
  rw [reads_cons_iff]
  simp only [Token.text, readToken_ident_iff]

/-- A word is the first token behind spacing. -/
theorem tokens_lex_word {word after : Text} (hword : IsWord word) (hend : EndsWord after)
    {spacing : Spacing} :
    (lex (spacing.text ++ (word ++ after))).tokens = wordToken word after :: (lex after).tokens := by
  rw [lex, lexFrom_spacing, lexFrom_word hword hend, tokens_cons, tokens_lexFrom]

/-- If the first token is a word, then the word stands behind spacing, and the other tokens are those of
the text after it. -/
theorem exists_of_tokens_word {t name : Text} {token : Token} {more : List Token}
    (htokens : (lex t).tokens = token :: more) (hword : token.word? = some name) :
    ∃ (spacing : Spacing) (after : Text), t = spacing.text ++ (name ++ after) ∧ IsWord name ∧
      EndsWord after ∧ token = wordToken name after ∧ (lex after).tokens = more := by
  obtain ⟨spacing, after, rfl, hread, hmore⟩ := tokens_lex_eq_cons_iff.1 htokens
  rcases readToken_cases hread with ⟨sign, rfl, -⟩ | ⟨word, hword', hend, rfl, -⟩
  · cases hword
  · rw [word?_wordToken] at hword
    obtain rfl := Option.some.inj hword
    exact ⟨spacing, after, by rw [text_wordToken], hword', hend, rfl, hmore⟩

end InterfaceGen.Source
