import InterfaceGen.Proofs.Source.TokenReading

/-!
# Properties by their text

A line declares a property by its lexemes if and only if it reads like one.  The type is the run of type
parts behind its first word; it does not run long, as nothing that continues it follows, and it does not
stop short, as every part of it is lexed without a gap before it.

Main definitions:

- `TypePlace`: where the type of a property stands in its line.

Main results:

- Theorem `typeRun_lexFrom`: the run that is found in a text is the one that stands there.
- Theorems `exists_typePlace` and `exists_typePlace_of_lexemes`: types have their places, by the text of a line
  and by its lexemes.
- Theorem `reads_accessors_iff`: the texts that read as accessors.
- Theorem `property?_lex_iff`: the lines that declare a property.
-/

namespace InterfaceGen.Source

open Text

/-! ## Runs of type parts -/

/-- A sign stands in types. -/
theorem TypeSign.fitsType (sign : TypeSign) : (Token.symbol sign.symbol).fitsType = true := by
  cases sign <;> rfl

/-- A symbol that stands in types is a sign. -/
theorem exists_sign_of_fitsType {symbol : Symbol} (h : (Token.symbol symbol).fitsType = true) :
    ∃ sign : TypeSign, symbol = sign.symbol := by
  cases symbol with
  | leftAngle => exact ⟨.leftAngle, rfl⟩
  | rightAngle => exact ⟨.rightAngle, rfl⟩
  | question => exact ⟨.question, rfl⟩
  | _ => cases h

/-- A run of type parts is lexed without gaps. -/
theorem IsTypeRun.exists_tokens {after run : Text} (h : IsTypeRun after run) (position : Nat) :
    ∃ tokens, spelling tokens = run ∧ (∀ token ∈ tokens, token.fitsType = true) ∧
      (lexFrom position (run ++ after)).lexemes =
        abutting position tokens ++ (lexFrom (position + byteSize run) after).lexemes := by
  induction h generalizing position with
  | nil => exact ⟨[], rfl, by simp, rfl⟩
  | @sign sign run hrun ih =>
    obtain ⟨tokens, rfl, hfits, hlexemes⟩ := ih (position + byteSize [sign.symbol.char])
    refine ⟨.symbol sign.symbol :: tokens, rfl, List.forall_mem_cons.2 ⟨sign.fitsType, hfits⟩, ?_⟩
    rw [List.cons_append, lexFrom_symbol, lexemes_cons, hlexemes]
    simp [abutting, Token.text, byteSize, Nat.add_assoc]
  | @name name run hname hrun ih =>
    obtain ⟨tokens, rfl, hfits, hlexemes⟩ := ih (position + byteSize name)
    refine ⟨.ident name :: tokens, rfl, List.forall_mem_cons.2 ⟨rfl, hfits⟩, ?_⟩
    rw [List.append_assoc, lexFrom_word hname.1 hname.2.1, lexemes_cons, hlexemes, hname.wordToken]
    simp [abutting, Token.text, byteSize_append, Nat.add_assoc]

/-- No run is found where no type part begins. -/
theorem typeRun_eq_nil {after : Text} (hend : ¬ BeginsTypePart after) (position : Nat) :
    typeRun position (lexFrom position after).lexemes = ([], (lexFrom position after).lexemes) := by
  cases hlexemes : (lexFrom position after).lexemes with
  | nil => rfl
  | cons lexeme more =>
    obtain ⟨spacing, behind, rfl, hread, hstart, -, -⟩ := exists_spacing_of_lexemes hlexemes
    have hunfit : ¬ (lexeme.token.fitsType = true ∧ lexeme.start = position) := by
      rintro ⟨hfits, hposition⟩
      have hspacing : spacing.text = [] := eq_nil_of_byteSize (by omega)
      rw [hspacing, List.nil_append] at hend
      cases htoken : lexeme.token with
      | keyword keyword =>
        rw [htoken] at hfits
        cases hfits
      | ident name =>
        rw [htoken] at hread hend
        exact hend (.inr ⟨name, behind, rfl, readToken_ident_iff.1 hread⟩)
      | symbol symbol =>
        rw [htoken] at hfits hend
        obtain ⟨sign, rfl⟩ := exists_sign_of_fitsType hfits
        exact hend (.inl ⟨sign, behind, rfl⟩)
    rw [typeRun, if_neg (by simpa using hunfit)]

/-- A run of type parts that cannot be continued is found whole, it ends where it is written to its end, and
it is spelled by its tokens. -/
theorem typeRun_lexFrom {after run : Text} (hrun : IsTypeRun after run) (hend : ¬ BeginsTypePart after)
    (lexeme : Lexeme) :
    ∃ found, typeRun lexeme.stop (lexFrom lexeme.stop (run ++ after)).lexemes =
        (found, (lexFrom (lexeme.stop + byteSize run) after).lexemes) ∧
      (found.getLast?.getD lexeme).stop = lexeme.stop + byteSize run ∧
      spelling (found.map (·.token)) = run := by
  obtain ⟨tokens, rfl, hfits, hlexemes⟩ := hrun.exists_tokens lexeme.stop
  refine ⟨abutting lexeme.stop tokens, ?_, stop_getLast_abutting tokens lexeme, ?_⟩
  · rw [hlexemes]
    exact typeRun_abutting hfits (typeRun_eq_nil hend _)
  · rw [map_token_abutting]

/-! ## Accessors -/

/-- A text reads as accessors if and only if it begins with them, with any spacing in between. -/
theorem reads_accessors_iff {t rest : Text} :
    Reads t accessors rest ↔ ∃ spacing : AccessorSpacing, t = spacing.text ++ rest := by
  simp only [accessors, reads_symbol_iff, reads_keyword_iff, reads_nil_iff]
  constructor
  · rintro ⟨beforeLeftBrace, _, rfl, beforeGet, _, rfl, -, afterGet, _, rfl, beforeSet, _, rfl, -,
      afterSet, _, rfl, beforeRightBrace, _, rfl, rfl⟩
    refine ⟨⟨beforeLeftBrace, beforeGet, afterGet, beforeSet, afterSet, beforeRightBrace⟩, ?_⟩
    simp only [AccessorSpacing.text, List.append_assoc, List.cons_append, List.nil_append]
    rfl
  · rintro ⟨spacing, rfl⟩
    refine ⟨spacing.beforeLeftBrace, _, ?_, spacing.beforeGet, _, rfl,
      (keepsKeyword_symbol .semicolon _).spacing spacing.afterGet, spacing.afterGet, _, rfl,
      spacing.beforeSet, _, rfl, (keepsKeyword_symbol .semicolon _).spacing spacing.afterSet,
      spacing.afterSet, _, rfl, spacing.beforeRightBrace, rest, rfl, rfl⟩
    simp only [AccessorSpacing.text, List.append_assoc, List.cons_append, List.nil_append]
    rfl

/-- The tokens of a text begin with accessors if and only if the text does. -/
theorem isPrefixOf_accessors_iff {t : Text} :
    accessors.isPrefixOf (lex t).tokens = true ↔
      ∃ (spacing : AccessorSpacing) (rest : Text), t = spacing.text ++ rest := by
  rw [List.isPrefixOf_iff_prefix]
  constructor
  · rintro ⟨more, hmore⟩
    obtain ⟨rest, hreads, -⟩ := tokens_lex_eq_append_iff.1 hmore.symm
    obtain ⟨spacing, ht⟩ := reads_accessors_iff.1 hreads
    exact ⟨spacing, rest, ht⟩
  · rintro ⟨spacing, rest, rfl⟩
    have hreads : Reads (spacing.text ++ rest) accessors rest := reads_accessors_iff.2 ⟨spacing, rfl⟩
    exact ⟨(lex rest).tokens, (tokens_lex_eq_append_iff.2 ⟨rest, hreads, rfl⟩).symm⟩

/-! ## Properties -/

/-- The lexemes of a line that begins with `public` and an ordinary word. -/
theorem exists_lexemes_of_public {first behind : Text} (hfirst : IsPlainAt first behind) (indent : Spacing)
    (gap : Separator) :
    ∃ a b start stop, start = byteSize (indent.text ++ ("public".toList ++ gap.text)) ∧
      stop = start + byteSize first ∧
      (lex (indent.text ++ ("public".toList ++ (gap.text ++ (first ++ behind))))).lexemes =
        ⟨.keyword .publicWord, a, b⟩ :: ⟨.ident first, start, stop⟩ :: (lexFrom stop behind).lexemes := by
  have hword : IsWord "public".toList := Keyword.publicWord.isWord
  have hpublic : wordToken "public".toList (gap.text ++ (first ++ behind)) = .keyword .publicWord :=
    wordToken_eq_keyword_iff.2 ⟨rfl, (keepsKeyword_iff.1 (keepsKeyword_separator gap _)).2⟩
  have hstart : byteSize (indent.text ++ ("public".toList ++ gap.text)) =
      0 + byteSize indent.text + byteSize "public".toList + byteSize gap.text := by
    simp only [byteSize_append, Nat.zero_add, Nat.add_assoc]
  refine ⟨0 + byteSize indent.text, 0 + byteSize indent.text + byteSize "public".toList, _, _,
    hstart.symm, rfl, ?_⟩
  rw [lex, lexFrom_spacing, lexFrom_word hword (gap.endsWord _), hpublic, lexemes_cons, lexFrom_spacing,
    lexFrom_word hfirst.1 hfirst.2.1, hfirst.wordToken, lexemes_cons]

/-- The place of a type in a line, which begins with a word and goes on with a run of type parts: it begins with
the lexeme of the word, it ends with the last lexeme of the run, and these are what is found behind the word. -/
structure TypePlace (line first run after : Text) (start stop : Nat) (rest found : List Lexeme) : Prop where
  exists_lead : ∃ lead, line = lead ++ (first ++ run ++ after) ∧ byteSize lead = start ∧
    byteSize (lead ++ (first ++ run)) = (found.getLast?.getD ⟨.ident first, start, stop⟩).stop
  typeRun_eq : typeRun stop rest = (found, (lexFrom (stop + byteSize run) after).lexemes)
  spelling_eq : spelling (found.map (·.token)) = run

/-- The type can be cut out of the line at its place. -/
theorem TypePlace.slice?_eq {line first run after : Text} {start stop : Nat} {rest found : List Lexeme}
    (h : TypePlace line first run after start stop rest found) :
    slice? line start (found.getLast?.getD ⟨.ident first, start, stop⟩).stop = some (first ++ run) := by
  obtain ⟨lead, hline, hstart, hstop⟩ := h.exists_lead
  exact slice?_of_eq hline hstart hstop

section LineWithType

variable {line first run after : Text} {indent : Spacing} {gap : Separator}
variable (hline : line = indent.text ++ ("public".toList ++ (gap.text ++ (first ++ (run ++ after)))))
variable (hfirst : IsPlainAt first (run ++ after)) (hrun : IsTypeRun after run) (hend : ¬ BeginsTypePart after)
include hline hfirst hrun hend

/-- In a line that begins with `public` and a type, the type has its place. -/
theorem exists_typePlace :
    ∃ a b start stop rest found, (lex line).lexemes =
        ⟨.keyword .publicWord, a, b⟩ :: ⟨.ident first, start, stop⟩ :: rest ∧
      TypePlace line first run after start stop rest found := by
  obtain ⟨a, b, start, stop, hstart, hstop, hlexemes⟩ := exists_lexemes_of_public hfirst indent gap
  obtain ⟨found, hfound, hlast, hspelled⟩ := typeRun_lexFrom hrun hend ⟨.ident first, start, stop⟩
  rw [← hline] at hlexemes
  refine ⟨a, b, start, stop, _, found, hlexemes, ⟨_, ?_, hstart.symm, ?_⟩, hfound, hspelled⟩
  · simp only [hline, List.append_assoc]
  · rw [hlast, hstop, byteSize_append, ← hstart, byteSize_append, Nat.add_assoc]

/-- A line that begins with `public` and a type declares a property of this type if and only if a word and
accessors follow. -/
theorem property?_of_type {name type : Text} :
    property? line (lex line).lexemes = some (.property name type) ↔
      type = first ++ run ∧ ∃ token more, (lex after).tokens = token :: more ∧
        token.word? = some name ∧ accessors.isPrefixOf more = true := by
  obtain ⟨a, b, start, stop, rest, found, hlexemes, hplace⟩ := exists_typePlace hline hfirst hrun hend
  rw [hlexemes, property?_eq_some_iff hplace.typeRun_eq hplace.slice?_eq,
    ← tokens_lexFrom after (stop + byteSize run), LexedLine.tokens]
  simp only [List.map_eq_cons_iff]
  constructor
  · rintro ⟨htype, nameLexeme, body, hafter, hname, hbody⟩
    exact ⟨htype, _, _, ⟨nameLexeme, body, hafter, rfl, rfl⟩, hname, hbody⟩
  · rintro ⟨htype, _, _, ⟨nameLexeme, body, hafter, rfl, rfl⟩, hname, hbody⟩
    exact ⟨htype, nameLexeme, body, hafter, hname, hbody⟩

end LineWithType

/-- A text goes on with a name and accessors by its tokens if and only if it does as it is written. -/
theorem exists_tokens_name_iff {t name : Text} :
    (∃ token more, (lex t).tokens = token :: more ∧ token.word? = some name ∧
        accessors.isPrefixOf more = true) ↔
      ∃ (before : Spacing) (spacing : AccessorSpacing) (rest : Text),
        t = before.text ++ (name ++ (spacing.text ++ rest)) ∧ IsWord name := by
  constructor
  · rintro ⟨token, more, htokens, hname, haccessors⟩
    obtain ⟨before, after, rfl, hword, -, -, rfl⟩ := exists_of_tokens_word htokens hname
    obtain ⟨spacing, rest, rfl⟩ := isPrefixOf_accessors_iff.1 haccessors
    exact ⟨before, spacing, rest, rfl, hword⟩
  · rintro ⟨before, spacing, rest, rfl, hword⟩
    have hend : EndsWord (spacing.text ++ rest) := (spacing.keepsKeyword rest).1
    exact ⟨_, _, tokens_lex_word hword hend, word?_wordToken name _,
      isPrefixOf_accessors_iff.2 ⟨spacing, rest, rfl⟩⟩

/-- A line whose lexemes begin with `public` and an ordinary word reads like `public` and a type. -/
theorem exists_type_of_lexemes {line first : Text} {a b start stop : Nat} {rest : List Lexeme}
    (h : (lex line).lexemes = ⟨.keyword .publicWord, a, b⟩ :: ⟨.ident first, start, stop⟩ :: rest) :
    ∃ (indent : Spacing) (gap : Separator) (run after : Text),
      line = indent.text ++ ("public".toList ++ (gap.text ++ (first ++ (run ++ after)))) ∧
      IsPlainAt first (run ++ after) ∧ IsTypeRun after run ∧ ¬ BeginsTypePart after := by
  have htokens : (lex line).tokens = [.keyword .publicWord, .ident first] ++ rest.map (·.token) := by
    rw [LexedLine.tokens, h]
    rfl
  obtain ⟨tail, hreads, -⟩ := tokens_lex_eq_append_iff.1 htokens
  obtain ⟨indent, _, hline, hkeeps, hmore⟩ := reads_keyword_iff.1 hreads
  obtain ⟨spacing, behind, rfl, hfirst, hnil⟩ := reads_ident_iff.1 hmore
  obtain rfl := reads_nil_iff.1 hnil
  let gap : Separator := ⟨spacing, spacing.ne_nil hfirst.1 hkeeps.1⟩
  obtain ⟨run, after, rfl, hrun, hend⟩ := exists_isTypeRun behind
  exact ⟨indent, gap, run, after, hline, hfirst, hrun, hend⟩

/-- In a line whose lexemes begin with `public` and an ordinary word, a type that begins with this word has its
place. -/
theorem exists_typePlace_of_lexemes {line first : Text} {a b start stop : Nat} {rest : List Lexeme}
    (h : (lex line).lexemes = ⟨.keyword .publicWord, a, b⟩ :: ⟨.ident first, start, stop⟩ :: rest) :
    ∃ run after found, TypePlace line first run after start stop rest found ∧
      IsPlainAt first (run ++ after) ∧ IsTypeRun after run := by
  obtain ⟨indent, gap, run, after, hline, hfirst, hrun, hend⟩ := exists_type_of_lexemes h
  obtain ⟨_, _, _, _, _, found, hlexemes, hplace⟩ := exists_typePlace hline hfirst hrun hend
  rw [h] at hlexemes
  obtain ⟨-, hsecond, rfl⟩ := (List.cons.inj hlexemes).imp_right List.cons.inj
  obtain ⟨-, rfl, rfl⟩ := Lexeme.mk.inj hsecond
  exact ⟨run, after, found, hplace, hfirst, hrun⟩

/-- A line declares a property by its lexemes if and only if it reads like one. -/
theorem property?_lex_iff {line name type : Text} :
    property? line (lex line).lexemes = some (.property name type) ↔ ReadsProperty line name type := by
  constructor
  · intro h
    obtain ⟨⟨a, b, first, start, stop, rest, hlexemes⟩, -⟩ := exists_of_property? h
    obtain ⟨indent, gap, run, after, hline, hfirst, hrun, hend⟩ := exists_type_of_lexemes hlexemes
    obtain ⟨rfl, hname⟩ := (property?_of_type hline hfirst hrun hend).1 h
    obtain ⟨before, accessors, rest, rfl, hword⟩ := exists_tokens_name_iff.1 hname
    refine ⟨indent, gap, before, accessors, rest, ?_, ⟨first, run, rfl, hfirst, hrun, hend⟩, hword⟩
    rw [hline, List.append_assoc]
  · rintro ⟨indent, gap, before, accessors, rest, hline, ⟨first, run, rfl, hfirst, hrun, hend⟩, hword⟩
    rw [List.append_assoc] at hline
    exact (property?_of_type hline hfirst hrun hend).2
      ⟨rfl, exists_tokens_name_iff.2 ⟨before, accessors, rest, rfl, hword⟩⟩

end InterfaceGen.Source
