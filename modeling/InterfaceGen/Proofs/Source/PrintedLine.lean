import InterfaceGen.Proofs.Source.Spelling
import InterfaceGen.Text.Lines

/-!
# Printed lines

The lines that a class is printed with, and what each of them says when it is read back: class headers,
braces, properties, and lines of noise.  A line is normalized here, its words with one space between
them; how it may be laid out otherwise is a matter of `Layout`.

Main definitions:

- `HeaderLine`, `PropertyLine`, `NoiseLine`, `PrintedLine`: the lines of a printed class.
- `PrintedLine.kind`: what a printed line says.

Main results:

- Theorem `HeaderLine.ofLine_normal`: a printed header opens its class.
- Theorem `PropertyLine.ofLine_normal`: a printed property declares its name and type.
- Theorem `PrintedLine.ofLine_normal`: every printed line is read as what it says.
-/

namespace InterfaceGen.Source

open Text

/-! ## Kinds of a line by its tokens -/

/-- A line is a header if its tokens are. -/
theorem LineKind.ofLine_of_header {line : Text} {kind : LineKind}
    (h : header? (lex line).tokens = some kind) : LineKind.ofLine line = kind := by
  simp [LineKind.ofLine, h]

/-- A line is a property if its lexemes are, and are neither a header nor a lone brace. -/
theorem LineKind.ofLine_of_property {line : Text} {kind : LineKind}
    (hheader : header? (lex line).tokens = none)
    (hbrace : (lex line).tokens ≠ [.symbol .rightBrace])
    (hproperty : property? line (lex line).lexemes = some kind) : LineKind.ofLine line = kind := by
  simp [LineKind.ofLine, hheader, hbrace, hproperty]

/-! ## Class headers -/

/-- A word that may stand between `public` and `class`. -/
inductive Modifier where
  | sealedWord
  | partialWord
  | abstractWord
deriving DecidableEq, Repr

/-- The spelling of a modifier. -/
def Modifier.text : Modifier → Text
  | sealedWord => "sealed".toList
  | partialWord => "partial".toList
  | abstractWord => "abstract".toList

/-- The header of a class: modifiers and a name that is neither `public` nor `class`. -/
structure HeaderLine where
  modifiers : List Modifier
  name : Name
  not_public : name.text ≠ "public".toList
  not_class : name.text ≠ "class".toList

/-- The words of a header. -/
def HeaderLine.words (header : HeaderLine) : List Text :=
  "public".toList :: header.modifiers.map Modifier.text ++ ["class".toList, header.name.text]

/-- A modifier is an ordinary word, and known to be a modifier. -/
theorem Modifier.wordToken (modifier : Modifier) :
    wordToken modifier.text [] = .ident modifier.text ∧ modifier.text ∈ classModifiers := by
  cases modifier <;> decide

/-- A modifier is a word. -/
theorem Modifier.isWord (modifier : Modifier) : IsWord modifier.text := by
  cases modifier <;> decide +kernel

/-- A keyword is a word. -/
theorem Keyword.isWord (keyword : Keyword) : IsWord keyword.text := by
  cases keyword <;> decide +kernel

/-- Every word of a header is a word. -/
theorem HeaderLine.isWord (header : HeaderLine) : ∀ word ∈ header.words, IsWord word := by
  intro word hword
  rcases List.mem_append.1 hword with hword | hword
  · rcases List.mem_cons.1 hword with rfl | hword
    · exact Keyword.publicWord.isWord
    · obtain ⟨modifier, -, rfl⟩ := List.mem_map.1 hword
      exact modifier.isWord
  · rcases List.mem_cons.1 hword with rfl | hword
    · exact Keyword.classWord.isWord
    · obtain rfl := List.mem_singleton.1 hword
      exact header.name.isWord

/-- A name that is neither `public` nor `class` names a class. -/
theorem className?_wordToken {word : Text} (hpublic : word ≠ "public".toList)
    (hclass : word ≠ "class".toList) (after : Text) :
    (wordToken word after).className? = some word := by
  have hword := word?_wordToken word after
  cases htoken : wordToken word after with
  | ident name => rwa [htoken] at hword
  | symbol sign => simp [htoken, Token.word?] at hword
  | keyword keyword =>
    rw [htoken] at hword
    cases keyword with
    | publicWord => exact absurd (Option.some.inj hword).symm hpublic
    | classWord => exact absurd (Option.some.inj hword).symm hclass
    | getWord => exact hword
    | setWord => exact hword

/-- The known modifiers are the modifiers. -/
theorem exists_of_mem_classModifiers {word : Text} (h : word ∈ classModifiers) :
    ∃ modifier : Modifier, word = modifier.text := by
  simp only [classModifiers, List.mem_cons, List.not_mem_nil, or_false] at h
  rcases h with rfl | rfl | rfl
  · exact ⟨.sealedWord, rfl⟩
  · exact ⟨.partialWord, rfl⟩
  · exact ⟨.abstractWord, rfl⟩

/-- Modifiers lead on to `class`. -/
theorem headerAfterPublic_modifiers (modifiers : List Modifier) (rest : List Token) :
    headerAfterPublic (modifiers.map (fun modifier => wordToken modifier.text []) ++ rest) =
      headerAfterPublic rest := by
  induction modifiers with
  | nil => rfl
  | cons modifier more ih =>
    obtain ⟨htoken, hmodifier⟩ := modifier.wordToken
    rw [List.map_cons, List.cons_append, htoken, headerAfterPublic,
      if_pos (List.contains_iff_mem.2 hmodifier), ih]

/-- A printed header opens its class. -/
theorem HeaderLine.ofLine_normal (header : HeaderLine) :
    LineKind.ofLine ([' '].intercalate header.words) = .opening header.name.text := by
  apply LineKind.ofLine_of_header
  have hpublic : wordToken "public".toList [] = .keyword .publicWord := by decide
  have hclass : wordToken "class".toList [] = .keyword .classWord := by decide
  have hname := className?_wordToken header.not_public header.not_class []
  rw [tokens_lex_intercalate header.isWord, HeaderLine.words, List.map_append, List.map_cons, hpublic,
    List.map_map, List.cons_append, header?]
  refine (headerAfterPublic_modifiers header.modifiers _).trans ?_
  rw [List.map_cons, List.map_singleton, hclass, headerAfterPublic, List.head?_cons, Option.bind_some,
    hname]

/-! ## Properties -/

/-- A property with accessors: a type and a name.  Of a modifier as the type and `class` as the name
nothing would remain but a header. -/
structure PropertyLine where
  type : TypeSpelling
  name : Name
  not_header : ¬ ((∃ modifier : Modifier, type.text = modifier.text) ∧ name.text = "class".toList)

/-- The words of a property. -/
def PropertyLine.words (property : PropertyLine) : List Text :=
  ["public".toList, property.type.text, property.name.text, ['{'], "get;".toList, "set;".toList, ['}']]

namespace PropertyLine

/-- What stands behind the name of a property. -/
def accessorText : Text :=
  ' ' :: '{' :: ' ' :: ("get;".toList ++ ' ' :: ("set;".toList ++ [' ', '}']))

/-- A printed property, part by part. -/
theorem normal_eq (p : PropertyLine) :
    [' '].intercalate p.words =
      "public".toList ++ ' ' :: (p.type.text ++ ' ' :: (p.name.text ++ accessorText)) := by
  simp only [words, accessorText, List.intercalate_cons_cons, List.intercalate_singleton,
    List.append_assoc, List.cons_append, List.nil_append]

/-- The accessors are lexed as such at every position. -/
theorem tokens_accessorText (position : Nat) : (lexFrom position accessorText).tokens = accessors := by
  rw [tokens_lexFrom]
  decide +kernel

/-- The lexemes of a printed property: `public`, its type without gaps, its name after a gap, and the
accessors. -/
theorem lexemes_lex (p : PropertyLine) :
    (lex ([' '].intercalate p.words)).lexemes =
      ⟨.keyword .publicWord, 0, 6⟩ :: ⟨.ident p.type.first.text, 7, 7 + byteSize p.type.first.text⟩ ::
        (abutting (7 + byteSize p.type.first.text) p.type.tail ++
          ⟨wordToken p.name.text accessorText, 7 + byteSize p.type.text + 1,
            7 + byteSize p.type.text + 1 + byteSize p.name.text⟩ ::
          (lexFrom (7 + byteSize p.type.text + 1 + byteSize p.name.text) accessorText).lexemes) := by
  have hpublic : wordToken "public".toList [] = .keyword .publicWord := by decide
  have hword : IsWord "public".toList := Keyword.publicWord.isWord
  have hsize : byteSize "public".toList = 6 := by decide
  have haccessors : EndsWord accessorText := endsWord_space _
  rw [normal_eq, lex, lexFrom_word hword (endsWord_space _), lexemes_cons, wordToken_space, hpublic,
    lexFrom_space, lexemes_lexFrom_type p.type (endsWord_space _), lexFrom_space,
    lexFrom_word p.name.isWord haccessors, lexemes_cons, hsize]

/-- A name other than `class` with accessors behind it makes no header. -/
theorem headerAfterPublic_name {word : Text} (hclass : word ≠ "class".toList) (after : Text) :
    headerAfterPublic (wordToken word after :: accessors) = none := by
  have hword := word?_wordToken word after
  cases htoken : wordToken word after with
  | ident name =>
    rw [headerAfterPublic]
    split <;> rfl
  | symbol sign => rfl
  | keyword keyword =>
    rw [htoken] at hword
    cases keyword with
    | classWord => exact absurd (Option.some.inj hword).symm hclass
    | publicWord => rfl
    | getWord => rfl
    | setWord => rfl

/-- The tokens behind `public` in a printed property make no header. -/
theorem headerAfterPublic_eq_none (p : PropertyLine) :
    headerAfterPublic
      (.ident p.type.first.text :: (p.type.tail ++ wordToken p.name.text accessorText :: accessors)) =
        none := by
  rw [headerAfterPublic]
  split
  · next hmodifier =>
    cases hmore : p.type.more with
    | cons part rest =>
      have htail : p.type.tail = .symbol part.1.symbol ::
          (part.2.toList.map (fun name => .ident name.text) ++ rest.flatMap signTokens) := by
        rw [TypeSpelling.tail, hmore]
        rfl
      rw [htail]
      rfl
    | nil =>
      have htail : p.type.tail = [] := by
        rw [TypeSpelling.tail, hmore]
        rfl
      have htext : p.type.text = p.type.first.text := by
        rw [TypeSpelling.text, htail]
        exact List.append_nil _
      obtain ⟨modifier, htype⟩ := exists_of_mem_classModifiers (List.contains_iff_mem.1 hmodifier)
      have hclass : p.name.text ≠ "class".toList :=
        fun hclass => p.not_header ⟨⟨modifier, htext.trans htype⟩, hclass⟩
      rw [htail, List.nil_append, headerAfterPublic_name hclass]
  · rfl

/-- A printed property declares its name and type. -/
theorem ofLine_normal (p : PropertyLine) :
    LineKind.ofLine ([' '].intercalate p.words) = .property p.name.text p.type.text := by
  have hlexemes := p.lexemes_lex
  have htokens : (lex ([' '].intercalate p.words)).tokens =
      .keyword .publicWord :: .ident p.type.first.text ::
        (p.type.tail ++ wordToken p.name.text accessorText :: accessors) := by
    have haccessors := tokens_accessorText (7 + byteSize p.type.text + 1 + byteSize p.name.text)
    unfold LexedLine.tokens at haccessors ⊢
    rw [hlexemes, List.map_cons, List.map_cons, List.map_append, map_token_abutting, List.map_cons,
      haccessors]
  have hbefore : byteSize ("public".toList ++ [' ']) = 7 := by decide
  apply LineKind.ofLine_of_property
  · rw [htokens]
    exact p.headerAfterPublic_eq_none
  · simp [htokens]
  · have hwhole : [' '].intercalate p.words = ("public".toList ++ [' ']) ++
        (p.type.first.text ++ spelling p.type.tail ++ ' ' :: (p.name.text ++ accessorText)) := by
      rw [normal_eq, TypeSpelling.text, List.append_assoc "public".toList, List.singleton_append]
    rw [hlexemes, hwhole, TypeSpelling.text]
    refine property?_of_lexemes (by rw [hbefore]) TypeSpelling.fitsType_of_mem_tail ?_
      (word?_wordToken p.name.text accessorText) ?_
    · rw [hbefore, byteSize_append]
      simp only
      omega
    · have haccessors := tokens_accessorText (7 + byteSize p.type.text + 1 + byteSize p.name.text)
      unfold LexedLine.tokens at haccessors
      rw [← TypeSpelling.text, haccessors]
      decide

end PropertyLine

/-! ## All printed lines -/

/-- A line of its own that says nothing of interest, or begins like a class header and names no class. -/
structure NoiseLine where
  text : Text
  one_line : '\n' ∉ text
  no_meaning : LineKind.ofLine (normalLine text) = .other ∨
    LineKind.ofLine (normalLine text) = .malformedHeader

/-- A line of a printed class. -/
inductive PrintedLine where
  | header (line : HeaderLine)
  | leftBrace
  | property (line : PropertyLine)
  | rightBrace
  | noise (line : NoiseLine)

namespace PrintedLine

/-- A printed line in its normal form. -/
def normal : PrintedLine → Text
  | header line => [' '].intercalate line.words
  | leftBrace => ['{']
  | property line => [' '].intercalate line.words
  | rightBrace => ['}']
  | noise line => normalLine line.text

/-- What a printed line says.  A left brace and noise say nothing that counts. -/
def kind : PrintedLine → LineKind
  | header line => .opening line.name.text
  | leftBrace => .other
  | property line => .property line.name.text line.type.text
  | rightBrace => .closing
  | noise line => LineKind.ofLine (normalLine line.text)

/-- Every printed line is read as what it says. -/
theorem ofLine_normal (line : PrintedLine) : LineKind.ofLine line.normal = line.kind := by
  cases line with
  | header line => exact line.ofLine_normal
  | leftBrace => decide +kernel
  | property line => exact line.ofLine_normal
  | rightBrace => decide +kernel
  | noise line => rfl

end PrintedLine

end InterfaceGen.Source
