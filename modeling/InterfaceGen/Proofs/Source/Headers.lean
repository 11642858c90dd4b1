import InterfaceGen.Proofs.Source.TokenReading

/-!
# Class headers by their text

A line begins like a class header if and only if it reads `public`, modifiers and `class` with separators
between them, and it names a class if and only if a word follows that is not itself one of the keywords
`public` and `class`.

Main definitions:

- `headerKind`: what a header says by the tokens behind `class`.

Main results:

- Theorem `header?_lex_iff`: the lines that begin like a class header, and what they say.
- Theorems `headerKind_eq_opening_iff` and `headerKind_eq_malformedHeader_iff`: the headers that name a
  class, and those that do not.
-/

namespace InterfaceGen.Source

open Text

/-! ## Class headers -/

/-- The kind of a header by the tokens behind `class`. -/
def headerKind (tokens : List Token) : LineKind :=
  match tokens.head?.bind Token.className? with
  | some name => .opening name
  | none => .malformedHeader

/-- The tokens of modifiers. -/
def modifierTokens (modifiers : List Modifier) : List Token :=
  modifiers.map fun modifier => .ident modifier.text

/-- Tokens behind `public` make a header if and only if they are modifiers with `class` behind them. -/
theorem headerAfterPublic_eq_some_iff {tokens : List Token} {kind : LineKind} :
    headerAfterPublic tokens = some kind ↔
      ∃ modifiers rest, tokens = modifierTokens modifiers ++ .keyword .classWord :: rest ∧
        kind = headerKind rest := by
  constructor
  · intro h
    fun_induction headerAfterPublic tokens with
    | case1 word rest hmodifier ih =>
      obtain ⟨modifier, rfl⟩ := exists_of_mem_classModifiers (List.contains_iff_mem.1 hmodifier)
      obtain ⟨modifiers, behind, rfl, hkind⟩ := ih h
      exact ⟨modifier :: modifiers, behind, rfl, hkind⟩
    | case2 word rest hmodifier => cases h
    | case3 rest => exact ⟨[], rest, rfl, (Option.some.inj h).symm⟩
    | case4 tokens => cases h
  · rintro ⟨modifiers, rest, rfl, rfl⟩
    have hmodifiers : modifierTokens modifiers =
        modifiers.map fun modifier => wordToken modifier.text [] :=
      List.map_congr_left fun modifier _ => modifier.wordToken.1.symm
    rw [hmodifiers, headerAfterPublic_modifiers]
    rfl

/-- A line is a header if and only if its tokens are `public`, modifiers and `class`, with more behind. -/
theorem header?_eq_some_iff {tokens : List Token} {kind : LineKind} :
    header? tokens = some kind ↔
      ∃ modifiers rest,
        tokens = (.keyword .publicWord :: (modifierTokens modifiers ++ [.keyword .classWord])) ++ rest ∧
          kind = headerKind rest := by
  have hshape : ∀ modifiers rest,
      (Token.keyword .publicWord :: (modifierTokens modifiers ++ [.keyword .classWord])) ++ rest =
        .keyword .publicWord :: (modifierTokens modifiers ++ .keyword .classWord :: rest) := by simp
  simp only [hshape]
  constructor
  · intro h
    unfold header? at h
    split at h
    · next after =>
      obtain ⟨modifiers, rest, rfl, hkind⟩ := headerAfterPublic_eq_some_iff.1 h
      exact ⟨modifiers, rest, rfl, hkind⟩
    · cases h
  · rintro ⟨modifiers, rest, rfl, hkind⟩
    exact headerAfterPublic_eq_some_iff.2 ⟨modifiers, rest, rfl, hkind⟩

/-- A modifier is an ordinary word wherever it ends. -/
theorem Modifier.isPlainAt (modifier : Modifier) {after : Text} (hend : EndsWord after) :
    IsPlainAt modifier.text after := by
  refine ⟨modifier.isWord, hend, fun keyword hspelled => ?_⟩
  have hne : modifier.text ≠ keyword.text := by cases modifier <;> cases keyword <;> decide
  exact absurd hspelled hne

/-- Behind a word, modifiers and `class` are read if and only if they stand there with separators between
them. -/
theorem reads_modifiers_iff {t rest : Text} (hend : EndsWord t) {modifiers : List Modifier} :
    Reads t (modifierTokens modifiers ++ [.keyword .classWord]) rest ↔
      ∃ (gap : Separator) (parts : List (Modifier × Separator)), parts.map (·.1) = modifiers ∧
        t = gap.text ++ (modifierText parts ++ ("class".toList ++ rest)) ∧ KeepsKeyword rest := by
  induction modifiers generalizing t with
  | nil =>
    rw [modifierTokens, List.map_nil, List.nil_append, reads_keyword_iff]
    simp only [reads_nil_iff, List.map_eq_nil_iff]
    constructor
    · -- two words with nothing between them would be one
      rintro ⟨spacing, _, rfl, hkeeps, rfl⟩
      exact ⟨⟨spacing, spacing.ne_nil Keyword.classWord.isWord hend⟩, [], rfl, rfl, hkeeps⟩
    · rintro ⟨gap, _, rfl, rfl, hkeeps⟩
      exact ⟨gap.toSpacing, rest, rfl, hkeeps, rfl⟩
  | cons modifier more ih =>
    have htokens : modifierTokens (modifier :: more) ++ [.keyword .classWord] =
        .ident modifier.text :: (modifierTokens more ++ [.keyword .classWord]) := rfl
    rw [htokens, reads_ident_iff]
    constructor
    · rintro ⟨spacing, after, rfl, hplain, hmore⟩
      obtain ⟨gap, parts, rfl, rfl, hkeeps⟩ := (ih hplain.2.1).1 hmore
      refine ⟨⟨spacing, spacing.ne_nil modifier.isWord hend⟩, (modifier, gap) :: parts, rfl, ?_, hkeeps⟩
      simp [modifierText]
    · rintro ⟨gap, parts, hparts, rfl, hkeeps⟩
      obtain ⟨⟨_, next⟩, parts, rfl, rfl, rfl⟩ := List.map_eq_cons_iff.1 hparts
      have hnext : EndsWord (next.text ++ (modifierText parts ++ ("class".toList ++ rest))) :=
        next.endsWord _
      refine ⟨gap.toSpacing, _, ?_, Modifier.isPlainAt _ hnext,
        (ih hnext).2 ⟨next, parts, rfl, rfl, hkeeps⟩⟩
      simp [modifierText]

/-- A line has the tokens of a header, with the rest behind them, if and only if it reads like one. -/
theorem exists_reads_header_iff {line rest : Text} :
    (∃ modifiers,
      Reads line (.keyword .publicWord :: (modifierTokens modifiers ++ [.keyword .classWord])) rest) ↔
        ReadsHeader line rest := by
  simp only [reads_keyword_iff]
  constructor
  · rintro ⟨modifiers, indent, after, rfl, hkeeps, hmore⟩
    obtain ⟨gap, parts, -, rfl, hrest⟩ := (reads_modifiers_iff hkeeps.1).1 hmore
    refine ⟨⟨indent, gap, parts⟩, ?_, hrest⟩
    simp only [HeaderLead.text, List.append_assoc]
    rfl
  · rintro ⟨⟨indent, gap, parts⟩, rfl, hrest⟩
    have hend := gap.endsWord (modifierText parts ++ ("class".toList ++ rest))
    refine ⟨parts.map (·.1), indent, gap.text ++ (modifierText parts ++ ("class".toList ++ rest)), ?_,
      keepsKeyword_separator gap _, (reads_modifiers_iff hend).2 ⟨gap, parts, rfl, rfl, hrest⟩⟩
    simp only [HeaderLead.text, List.append_assoc]
    rfl

/-! ## Names of classes -/

/-- What names a class is the text of a word. -/
theorem Token.word?_of_className? {token : Token} {name : Text} (h : token.className? = some name) :
    token.word? = some name := by
  cases token with
  | keyword keyword =>
    cases keyword with
    | publicWord => cases h
    | classWord => cases h
    | getWord => exact h
    | setWord => exact h
  | ident word => exact h
  | symbol sign => exact h

/-- The token of a word names a class if and only if it is not one of the keywords `public` and `class`. -/
theorem className?_wordToken_iff {word after name : Text} (hend : EndsWord after) :
    (wordToken word after).className? = some name ↔
      word = name ∧ (name = "public".toList ∨ name = "class".toList → ¬ KeepsKeyword after) := by
  constructor
  · intro h
    have hword := Token.word?_of_className? h
    rw [word?_wordToken] at hword
    obtain rfl := Option.some.inj hword
    refine ⟨rfl, fun hspelled hkeeps => ?_⟩
    have hunspoiled := (keepsKeyword_iff.1 hkeeps).2
    rcases hspelled with rfl | rfl
    · have htoken : wordToken "public".toList after = .keyword .publicWord :=
        wordToken_eq_keyword_iff.2 ⟨rfl, hunspoiled⟩
      rw [htoken] at h
      cases h
    · have htoken : wordToken "class".toList after = .keyword .classWord :=
        wordToken_eq_keyword_iff.2 ⟨rfl, hunspoiled⟩
      rw [htoken] at h
      cases h
  · rintro ⟨rfl, hnot⟩
    have hword := word?_wordToken word after
    cases htoken : wordToken word after with
    | ident name => rwa [htoken] at hword
    | symbol sign => simp [htoken, Token.word?] at hword
    | keyword keyword =>
      obtain ⟨hspelled, hunspoiled⟩ := wordToken_eq_keyword_iff.1 htoken
      have hkeeps : KeepsKeyword after := keepsKeyword_iff.2 ⟨hend, hunspoiled⟩
      rw [htoken] at hword
      cases keyword with
      | publicWord => exact absurd hkeeps (hnot (.inl hspelled))
      | classWord => exact absurd hkeeps (hnot (.inr hspelled))
      | getWord => exact hword
      | setWord => exact hword

/-- Behind a word, the first token names a class if and only if a class is named there. -/
theorem className?_head?_iff {rest name : Text} (hend : EndsWord rest) :
    (lex rest).tokens.head?.bind Token.className? = some name ↔ NamesClass rest name := by
  constructor
  · intro h
    obtain ⟨token, hhead, hname⟩ := Option.bind_eq_some_iff.1 h
    obtain ⟨more, htokens⟩ := List.head?_eq_some_iff.1 hhead
    obtain ⟨spacing, after, rfl, hword, hafter, rfl, -⟩ :=
      exists_of_tokens_word htokens (Token.word?_of_className? hname)
    exact ⟨⟨spacing, spacing.ne_nil hword hend⟩, after, rfl, hword, hafter,
      ((className?_wordToken_iff hafter).1 hname).2⟩
  · rintro ⟨gap, after, rfl, hword, hafter, hnot⟩
    rw [tokens_lex_word hword hafter, List.head?_cons, Option.bind_some]
    exact (className?_wordToken_iff hafter).2 ⟨rfl, hnot⟩

/-- A header opens a class if and only if it names one. -/
theorem headerKind_eq_opening_iff {rest name : Text} (hend : EndsWord rest) :
    headerKind (lex rest).tokens = .opening name ↔ NamesClass rest name := by
  rw [← className?_head?_iff hend, headerKind]
  split
  · next named hnamed => simp [hnamed]
  · next hnone => simp [hnone]

/-- A header is malformed if and only if it names no class. -/
theorem headerKind_eq_malformedHeader_iff {rest : Text} (hend : EndsWord rest) :
    headerKind (lex rest).tokens = .malformedHeader ↔ ∀ name, ¬ NamesClass rest name := by
  simp only [← className?_head?_iff hend, headerKind]
  split
  · next named hnamed => simp [hnamed]
  · next hnone => simp [hnone]

/-- A line is a header if and only if it reads like one up to `class`, and it says what the tokens behind
`class` say. -/
theorem header?_lex_iff {line : Text} {kind : LineKind} :
    header? (lex line).tokens = some kind ↔
      ∃ rest, ReadsHeader line rest ∧ kind = headerKind (lex rest).tokens := by
  rw [header?_eq_some_iff]
  constructor
  · rintro ⟨modifiers, tokens, htokens, rfl⟩
    obtain ⟨rest, hreads, rfl⟩ := tokens_lex_eq_append_iff.1 htokens
    exact ⟨rest, exists_reads_header_iff.1 ⟨modifiers, hreads⟩, rfl⟩
  · rintro ⟨rest, hheader, rfl⟩
    obtain ⟨modifiers, hreads⟩ := exists_reads_header_iff.2 hheader
    exact ⟨modifiers, (lex rest).tokens, tokens_lex_eq_append_iff.2 ⟨rest, hreads, rfl⟩, rfl⟩

end InterfaceGen.Source
