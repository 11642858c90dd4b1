import InterfaceGen.Proofs.Source.Properties
import InterfaceGen.Proofs.Source.Tiling

/-!
# What a line says, by its tokens

Where the tokens of a line stand does not matter to what the line says, but for one thing: the type of a
property is a run of tokens without gaps.  So a line is taken here for its tokens, each with whether the next
one stands at once behind it, and for whether lexing reached its end.  Such token lines are put together like
the texts that they stand for, if there is a gap between these.

Main definitions:

- `TokenLine`, `TokenLine.ofText`: the tokens of a line without their places.
- `LineKind.ofTokens`: what a line says by its tokens.
- `BeginsApart`: the texts that are empty or begin with a gap.

Main results:

- Theorem `ofLine_eq_ofTokens`: what a line says is said by its tokens, and the type of a property is what its
  tokens spell.
- Theorem `ofText_append`: the tokens of a text with a gap in it are those before and those behind the gap,
  if lexing gets to the gap.
-/

namespace InterfaceGen.Source

open Text

/-! ## Tokens without places -/

/-- A token, and whether the next one of its line stands at once behind it. -/
structure TiedToken where
  token : Token
  isTied : Bool
deriving DecidableEq, Repr

/-- Whether the first of some lexemes begins at a byte. -/
def beginsAt (position : Nat) (lexemes : List Lexeme) : Bool :=
  lexemes.head?.any (·.start == position)

/-- Lexemes without their places. -/
def tiedTokens : List Lexeme → List TiedToken
  | [] => []
  | lexeme :: rest => ⟨lexeme.token, beginsAt lexeme.stop rest⟩ :: tiedTokens rest

/-- The tokens of a line without their places, and whether lexing reached its end. -/
structure TokenLine where
  tokens : List TiedToken
  complete : Bool
deriving DecidableEq, Repr

/-- A text as a token line. -/
def TokenLine.ofText (t : Text) : TokenLine :=
  ⟨tiedTokens (lex t).lexemes, (lex t).complete⟩

/-- The tokens of lexemes without their places are their tokens. -/
@[simp] theorem map_token_tiedTokens (lexemes : List Lexeme) :
    (tiedTokens lexemes).map (·.token) = lexemes.map (·.token) := by
  induction lexemes with
  | nil => rfl
  | cons lexeme rest ih => rw [tiedTokens, List.map_cons, List.map_cons, ih]

/-! ## Kinds of token lines -/

/-- Splits tokens after the longest run of type parts that are tied to each other, the first of them to the
token before if that one is tied. -/
def tiedRun (isTied : Bool) : List TiedToken → List Token × List TiedToken
  | [] => ([], [])
  | next :: rest =>
    if next.token.fitsType && isTied then
      let (run, after) := tiedRun next.isTied rest
      (next.token :: run, after)
    else ([], next :: rest)

/-- The property that some tokens declare: its type is what the run of type parts behind `public` spells. -/
def propertyOfTokens? : List TiedToken → Option LineKind
  | ⟨.keyword .publicWord, _⟩ :: ⟨.ident word, isTied⟩ :: rest =>
    match tiedRun isTied rest with
    | (_, []) => none
    | (run, name :: body) => do
      let name ← name.token.word?
      if accessors.isPrefixOf (body.map (·.token)) then some (.property name (word ++ spelling run)) else none
  | _ => none

/-- What a line says by its tokens. -/
def LineKind.ofTokens (line : TokenLine) : LineKind :=
  match header? (line.tokens.map (·.token)) with
  | some kind => kind
  | none =>
    if line.complete ∧ line.tokens.map (·.token) = [.symbol .rightBrace] then .closing
    else (propertyOfTokens? line.tokens).getD .other

/-- A run of type parts is found by which tokens are tied. -/
theorem tiedRun_tiedTokens (lexemes : List Lexeme) (stop : Nat) :
    tiedRun (beginsAt stop lexemes) (tiedTokens lexemes) =
      ((typeRun stop lexemes).1.map (·.token), tiedTokens (typeRun stop lexemes).2) := by
  induction lexemes generalizing stop with
  | nil => rfl
  | cons lexeme rest ih =>
    have hbegins : beginsAt stop (lexeme :: rest) = (lexeme.start == stop) := rfl
    rw [tiedTokens, tiedRun, typeRun, hbegins]
    split
    · rw [ih]
      rfl
    · rfl

/-- A line that begins with `public` and an ordinary word declares the property that its tokens do: the part of
the line that the run of type parts covers is what the run spells. -/
theorem property?_lex_of_public {line word : Text} {a b start stop : Nat} {rest : List Lexeme}
    (hlexemes : (lex line).lexemes = ⟨.keyword .publicWord, a, b⟩ :: ⟨.ident word, start, stop⟩ :: rest) :
    property? line (lex line).lexemes = propertyOfTokens? (tiedTokens (lex line).lexemes) := by
  obtain ⟨run, after, found, hplace, -⟩ := exists_typePlace_of_lexemes hlexemes
  rw [hlexemes, tiedTokens, tiedTokens, property?, propertyOfTokens?, tiedRun_tiedTokens, hplace.typeRun_eq]
  simp only [hplace.slice?_eq]
  cases (lexFrom (stop + byteSize run) after).lexemes with
  | nil => rfl
  | cons name body =>
    simp only [tiedTokens, map_token_tiedTokens, hplace.spelling_eq]
    rfl

/-- The property of a line is declared by its tokens. -/
theorem property?_lex_eq (line : Text) :
    property? line (lex line).lexemes = propertyOfTokens? (tiedTokens (lex line).lexemes) := by
  rcases hlexemes : (lex line).lexemes with _ | ⟨⟨first, a, b⟩, _ | ⟨⟨second, start, stop⟩, rest⟩⟩
  · rfl
  · cases first with
    | keyword keyword => cases keyword <;> rfl
    | ident name => rfl
    | symbol sign => rfl
  · cases first with
    | keyword keyword =>
      cases keyword with
      | publicWord =>
        cases second with
        | ident word =>
          rw [← hlexemes]
          exact property?_lex_of_public hlexemes
        | keyword keyword => rfl
        | symbol sign => rfl
      | classWord => rfl
      | getWord => rfl
      | setWord => rfl
    | ident name => rfl
    | symbol sign => rfl

/-- What a line says is said by its tokens. -/
theorem ofLine_eq_ofTokens (line : Text) : LineKind.ofLine line = .ofTokens (.ofText line) := by
  rw [LineKind.ofLine, LineKind.ofTokens, TokenLine.ofText, map_token_tiedTokens, property?_lex_eq]
  rfl

/-! ## Places -/

/-- A lexeme so many bytes further to the right. -/
def Lexeme.moved (lexeme : Lexeme) (bytes : Nat) : Lexeme :=
  ⟨lexeme.token, lexeme.start + bytes, lexeme.stop + bytes⟩

/-- The lexemes of a text move with it. -/
theorem lexFrom_moved (position bytes : Nat) (t : Text) :
    lexFrom (position + bytes) t =
      ⟨(lexFrom position t).lexemes.map (·.moved bytes), (lexFrom position t).complete⟩ := by
  fun_induction lexFrom position t with
  | case1 position => rw [lexFrom]; rfl
  | case2 position c rest hgap ih => rw [lexFrom_gap hgap, Nat.add_right_comm, ih]
  | case3 position c rest hgap hread => rw [lexFrom_none (by simpa using hgap) hread]; rfl
  | case4 position c rest hgap token after hread stop ih =>
    rw [lexFrom_some (by simpa using hgap) hread, Nat.add_right_comm, ih]
    rfl

/-- Which tokens are tied does not change when lexemes are moved. -/
theorem tiedTokens_moved (lexemes : List Lexeme) (bytes : Nat) :
    tiedTokens (lexemes.map (·.moved bytes)) = tiedTokens lexemes := by
  induction lexemes with
  | nil => rfl
  | cons lexeme rest ih =>
    have hbegins : beginsAt (lexeme.stop + bytes) (rest.map (·.moved bytes)) = beginsAt lexeme.stop rest := by
      cases rest with
      | nil => rfl
      | cons next more =>
        rw [Bool.eq_iff_iff]
        simp [beginsAt, Lexeme.moved]
    rw [List.map_cons, tiedTokens, ih, tiedTokens]
    exact congrArg (fun isTied => TiedToken.mk lexeme.token isTied :: tiedTokens rest) hbegins

/-- The token line of a text does not depend on where the text is lexed. -/
theorem ofText_eq (position : Nat) (t : Text) :
    TokenLine.ofText t = ⟨tiedTokens (lexFrom position t).lexemes, (lexFrom position t).complete⟩ := by
  have hmoved := lexFrom_moved 0 position t
  rw [Nat.zero_add] at hmoved
  rw [hmoved, tiedTokens_moved]
  rfl

/-! ## Gaps -/

/-- A text that is empty or begins with a gap. -/
def BeginsApart (t : Text) : Prop :=
  ∀ c, t.head? = some c → isGap c = true

/-- A text with a gap in front begins apart. -/
theorem beginsApart_gap {c : Char} (hgap : isGap c = true) (rest : Text) : BeginsApart (c :: rest) := by
  intro first hfirst
  obtain rfl : c = first := by simpa using hfirst
  exact hgap

/-- A gap at the beginning of a text is skipped. -/
theorem ofText_gap {c : Char} (hgap : isGap c = true) (rest : Text) :
    TokenLine.ofText (c :: rest) = .ofText rest := by
  rw [ofText_eq (0 + c.utf8Size) rest, ← lexFrom_gap hgap]
  rfl

/-- Nothing continues a word in a text that begins apart. -/
theorem BeginsApart.keepsKeyword {t : Text} (h : BeginsApart t) : KeepsKeyword t := by
  cases t with
  | nil => exact ⟨endsWord_nil, by simp⟩
  | cons c rest => exact keepsKeyword_gap (h c rfl) rest

/-- No token begins where a text begins apart. -/
theorem not_beginsApart_of_readToken {t after : Text} {token : Token} (h : readToken t = some (token, after)) :
    ¬ BeginsApart t := by
  intro hapart
  rcases readToken_cases h with ⟨sign, -, rfl⟩ | ⟨word, hword, -, -, rfl⟩
  · have hgap := hapart sign.char rfl
    rw [sign.not_gap] at hgap
    cases hgap
  · exact hword.not_endsWord after hapart.keepsKeyword.1

/-- What is read from a text is read from it with a text behind it that begins apart. -/
theorem readToken_append {t after rest : Text} {token : Token} (hapart : BeginsApart rest)
    (h : readToken t = some (token, after)) : readToken (t ++ rest) = some (token, after ++ rest) := by
  rcases readToken_cases h with ⟨sign, rfl, rfl⟩ | ⟨word, hword, hend, rfl, rfl⟩
  · exact readToken_symbol sign (after ++ rest)
  · cases after with
    | nil =>
      obtain ⟨hend', hkeeps⟩ := keepsKeyword_iff.1 hapart.keepsKeyword
      have htoken : wordToken word rest = wordToken word [] := by simp [wordToken, hkeeps]
      rw [List.append_nil, readToken_word hword hend', htoken]
      rfl
    | cons c more =>
      have hend' : EndsWord (c :: (more ++ rest)) := endsWord_cons (hend c rfl) _
      rw [List.append_assoc, List.cons_append, readToken_word hword hend']
      rfl

/-- A text with another one behind it that begins apart is lexed to its end, if it can be, and then the other
one is lexed. -/
theorem lexFrom_append {rest : Text} (hapart : BeginsApart rest) (position : Nat) (t : Text) :
    lexFrom position (t ++ rest) =
      if (lexFrom position t).complete then
        ⟨(lexFrom position t).lexemes ++ (lexFrom (position + byteSize t) rest).lexemes,
          (lexFrom (position + byteSize t) rest).complete⟩
      else lexFrom position t := by
  fun_induction lexFrom position t with
  | case1 position => rfl
  | case2 position c more hgap ih =>
    rw [List.cons_append, lexFrom_gap hgap, ih, byteSize, Nat.add_assoc]
  | case3 position c more hgap hread =>
    have hstart : ¬ BeginsToken c := readToken_eq_none_iff.1 hread
    exact lexFrom_none (by simpa using hgap) (readToken_eq_none_iff.2 hstart) position
  | case4 position c more hgap token after hread stop ih =>
    have hbytes : position + byteSize (c :: more) = stop + byteSize after := by
      rw [eq_append_of_readToken hread, byteSize_append, Nat.add_assoc]
    have hread' : readToken (c :: (more ++ rest)) = some (token, after ++ rest) :=
      readToken_append hapart hread
    rw [List.cons_append, lexFrom_some (by simpa using hgap) hread', ih, hbytes]
    change LexedLine.cons _ (if (lexFrom stop after).complete = true then _ else _) =
      if (lexFrom stop after).complete = true then _ else _
    split <;> rfl

/-! ## Token lines put together -/

/-- A token line with another one behind it, which is not reached if the first one is not lexed to its end. -/
def TokenLine.append (line other : TokenLine) : TokenLine :=
  if line.complete then ⟨line.tokens ++ other.tokens, other.complete⟩ else line

/-- Lexemes with others behind them are tied as before, if there is a gap between both. -/
theorem tiedTokens_append {lexemes more : List Lexeme} {position : Nat}
    (hgap : ∀ next, more.head? = some next → stopFrom position lexemes < next.start) :
    tiedTokens (lexemes ++ more) = tiedTokens lexemes ++ tiedTokens more := by
  induction lexemes generalizing position with
  | nil => rfl
  | cons lexeme rest ih =>
    rw [stopFrom_cons] at hgap
    have hbegins : beginsAt lexeme.stop (rest ++ more) = beginsAt lexeme.stop rest := by
      cases rest with
      | nil =>
        cases more with
        | nil => rfl
        | cons next others =>
          have hapart : lexeme.stop < next.start := hgap next rfl
          have hne : next.start ≠ lexeme.stop := by omega
          simp [beginsAt, hne]
      | cons next others => rfl
    rw [List.cons_append, tiedTokens, hbegins, ih hgap]
    rfl

/-- Lexemes do not stop behind the end of their text. -/
theorem stopFrom_lexFrom_le (position : Nat) (t : Text) :
    stopFrom position (lexFrom position t).lexemes ≤ position + byteSize t := by
  obtain ⟨head, rest, ht, hstop, -⟩ := exists_parts_of_end position t
  rw [hstop, ht, byteSize_append]
  omega

/-- The first lexeme of a text that begins apart does not begin where the text does. -/
theorem BeginsApart.lt_start {t : Text} (hapart : BeginsApart t) {position : Nat} {lexeme : Lexeme}
    (h : (lexFrom position t).lexemes.head? = some lexeme) : position < lexeme.start := by
  obtain ⟨more, hlexemes⟩ := List.head?_eq_some_iff.1 h
  obtain ⟨spacing, after, rfl, hread, hstart, -, -⟩ := exists_spacing_of_lexemes hlexemes
  have hne : spacing.text ≠ [] := by
    intro hnil
    rw [hnil, List.nil_append] at hapart
    exact not_beginsApart_of_readToken hread hapart
  have hpos := byteSize_pos hne
  omega

/-- The token line of a text with a gap in it is that of what stands before the gap and that of the rest. -/
theorem ofText_append {rest : Text} (hapart : BeginsApart rest) (t : Text) :
    TokenLine.ofText (t ++ rest) = (TokenLine.ofText t).append (.ofText rest) := by
  have hgap : ∀ next, (lexFrom (byteSize t) rest).lexemes.head? = some next →
      stopFrom 0 (lex t).lexemes < next.start := by
    intro next hnext
    have hend := stopFrom_lexFrom_le 0 t
    rw [Nat.zero_add] at hend
    exact Nat.lt_of_le_of_lt hend (hapart.lt_start hnext)
  have hwhole := lexFrom_append hapart 0 t
  rw [Nat.zero_add] at hwhole
  rw [TokenLine.append, ofText_eq (byteSize t) rest, TokenLine.ofText, TokenLine.ofText, lex, hwhole]
  change _ = if (lexFrom 0 t).complete = true then _ else _
  split
  · exact congrArg (TokenLine.mk · _) (tiedTokens_append hgap)
  · rfl

end InterfaceGen.Source
