import InterfaceGen.Proofs.Source.TypeRun

/-!
# Spelled names and types

Names and types as they are written, built so that nothing else can be written, and how they are lexed.
A type is a name that is no keyword, followed by signs each of which may have such a name behind it; so
no two names of a type meet, and every text that is an unbroken run of names and signs is spelled once.

Main definitions:

- `Name`, `PlainName`: words, and words that are no keywords.
- `TypeSpelling`: types as they are written.

Main results:

- Theorem `tokens_lex_intercalate`: words with one space between them are lexed one by one.
- Theorem `lexemes_lexFrom_type`: a type is lexed as a run without gaps.
-/

namespace InterfaceGen.Source

open Text

/-! ## Names -/

/-- A name is a word. -/
structure Name where
  text : Text
  isWord : IsWord text

/-- A name that is no keyword. -/
structure PlainName extends Name where
  not_keyword : ∀ keyword : Keyword, text ≠ keyword.text

/-- A word that is no keyword is an ordinary word. -/
theorem PlainName.wordToken (name : PlainName) (after : Text) :
    wordToken name.text after = .ident name.text := by
  unfold Source.wordToken
  cases hkeyword : Keyword.ofText? name.text with
  | none => rfl
  | some keyword => exact absurd (Keyword.text_of_ofText? hkeyword).symm (name.not_keyword keyword)

/-- The text of a word, as a token, is the word. -/
theorem word?_wordToken (word after : Text) : (wordToken word after).word? = some word := by
  have htext := text_wordToken word after
  unfold wordToken at htext ⊢
  split at htext
  · rfl
  · next keyword hkeyword =>
    by_cases hspoiled : after.head?.any spoilsKeyword
    · simp [hspoiled, Token.word?]
    · simp [hspoiled, Token.word?, Keyword.text_of_ofText? hkeyword]

/-- A space leaves a keyword before it alone. -/
theorem wordToken_space (word after : Text) : wordToken word (' ' :: after) = wordToken word [] := by
  have hspace : spoilsKeyword ' ' = false := by decide
  simp [wordToken, hspace]

/-- A space ends a word. -/
theorem endsWord_space (after : Text) : EndsWord (' ' :: after) :=
  endsWord_cons (by decide +kernel) after

/-- A space is skipped. -/
theorem lexFrom_space (position : Nat) (rest : Text) :
    lexFrom position (' ' :: rest) = lexFrom (position + 1) rest :=
  lexFrom_gap (by decide) position rest

/-- Words with one space between them are lexed one by one. -/
theorem tokens_lex_intercalate {words : List Text} (h : ∀ word ∈ words, IsWord word) :
    (lex ([' '].intercalate words)).tokens = words.map (wordToken · []) := by
  induction words with
  | nil =>
    rw [List.intercalate_nil, lex, lexFrom]
    rfl
  | cons word rest ih =>
    have hword : IsWord word := h word List.mem_cons_self
    cases rest with
    | nil =>
      have hlex := lexFrom_word hword endsWord_nil 0
      rw [List.append_nil] at hlex
      rw [List.intercalate_singleton, lex, hlex, tokens_cons, lexFrom]
      rfl
    | cons next more =>
      have hrest := ih fun w hw => h w (List.mem_cons_of_mem word hw)
      rw [List.intercalate_cons_cons, List.append_assoc, List.singleton_append, lex,
        lexFrom_word hword (endsWord_space _), lexFrom_space, tokens_cons, tokens_lexFrom, hrest,
        wordToken_space]
      rfl

/-! ## Types -/

/-- A character of a type besides its names. -/
inductive TypeSign where
  | leftAngle
  | rightAngle
  | question
deriving DecidableEq, Repr

/-- The symbol that a sign is. -/
def TypeSign.symbol : TypeSign → Symbol
  | leftAngle => .leftAngle
  | rightAngle => .rightAngle
  | question => .question

/-- A type as it is written: a name, and signs each of which may have a name behind it. -/
structure TypeSpelling where
  first : PlainName
  more : List (TypeSign × Option PlainName)

/-- The tokens of a sign and the name behind it. -/
def signTokens (part : TypeSign × Option PlainName) : List Token :=
  .symbol part.1.symbol :: part.2.toList.map fun name => .ident name.text

namespace TypeSpelling

/-- The tokens of a type behind its first name. -/
def tail (type : TypeSpelling) : List Token :=
  type.more.flatMap signTokens

/-- A type as a text. -/
def text (type : TypeSpelling) : Text :=
  type.first.text ++ spelling type.tail

/-- Every token behind the first name may stand in a type. -/
theorem fitsType_of_mem_tail {type : TypeSpelling} :
    ∀ token ∈ type.tail, token.fitsType = true := by
  intro token htoken
  obtain ⟨⟨sign, name⟩, -, hmem⟩ := List.mem_flatMap.1 htoken
  rcases List.mem_cons.1 hmem with rfl | hmem
  · cases sign <;> rfl
  · obtain ⟨name, -, rfl⟩ := List.mem_map.1 hmem
    rfl

end TypeSpelling

/-- Signs with names behind them end a word, if what follows does. -/
theorem endsWord_spelling {more : List (TypeSign × Option PlainName)} {after : Text}
    (hend : EndsWord after) : EndsWord (spelling (more.flatMap signTokens) ++ after) := by
  cases more with
  | nil => exact hend
  | cons part rest => exact endsWord_cons part.1.symbol.not_wordPart _

/-- Signs with names behind them are lexed without gaps. -/
theorem lexemes_lexFrom_signs (more : List (TypeSign × Option PlainName)) {after : Text}
    (hend : EndsWord after) (position : Nat) :
    (lexFrom position (spelling (more.flatMap signTokens) ++ after)).lexemes =
      abutting position (more.flatMap signTokens) ++
        (lexFrom (position + byteSize (spelling (more.flatMap signTokens))) after).lexemes := by
  induction more generalizing position with
  | nil => rfl
  | cons part rest ih =>
    obtain ⟨sign, name⟩ := part
    cases name with
    | none =>
      have hsplit : spelling (((sign, none) :: rest).flatMap signTokens) =
          sign.symbol.char :: spelling (rest.flatMap signTokens) := rfl
      rw [hsplit, List.cons_append, lexFrom_symbol, lexemes_cons, ih]
      simp [signTokens, abutting, Token.text, byteSize, Nat.add_assoc]
    | some name =>
      have hsplit : spelling (((sign, some name) :: rest).flatMap signTokens) =
          sign.symbol.char :: (name.text ++ spelling (rest.flatMap signTokens)) := rfl
      rw [hsplit, List.cons_append, List.append_assoc, lexFrom_symbol, lexemes_cons,
        lexFrom_word name.isWord (endsWord_spelling hend), lexemes_cons, ih, name.wordToken]
      simp [signTokens, abutting, Token.text, byteSize, byteSize_append, Nat.add_assoc]

/-- A type is lexed as a word and a run behind it without gaps. -/
theorem lexemes_lexFrom_type (type : TypeSpelling) {after : Text} (hend : EndsWord after)
    (position : Nat) :
    (lexFrom position (type.text ++ after)).lexemes =
      ⟨.ident type.first.text, position, position + byteSize type.first.text⟩ ::
        (abutting (position + byteSize type.first.text) type.tail ++
          (lexFrom (position + byteSize type.text) after).lexemes) := by
  have htail : EndsWord (spelling type.tail ++ after) := endsWord_spelling hend
  have hsigns := lexemes_lexFrom_signs type.more hend (position + byteSize type.first.text)
  rw [TypeSpelling.text, List.append_assoc, lexFrom_word type.first.isWord htail, lexemes_cons,
    type.first.wordToken, TypeSpelling.tail, hsigns, byteSize_append, Nat.add_assoc]

end InterfaceGen.Source
