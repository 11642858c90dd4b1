import InterfaceGen.Proofs.Source.Lexing
import InterfaceGen.Source.Line

/-!
# Type runs

The type of a property is a run of lexemes without gaps.  This module says what such a run is, that it is
found where it stands, and when a property is found by its lexemes.

Main definitions:

- `abutting`: tokens as lexemes without gaps.
- `spelling`: tokens as they are written.
- `IsTypeText`: the texts that may be the type of a property.

Main results:

- Theorem `typeRun_abutting`: a run of type parts is found whole.
- Theorem `property?_eq_some_iff`: the property that some lexemes declare.
-/

namespace InterfaceGen.Source

open Text

/-! ## Lexemes without gaps -/

/-- Tokens as lexemes without gaps, from a byte position on. -/
def abutting (position : Nat) : List Token → List Lexeme
  | [] => []
  | token :: rest =>
    let stop := position + byteSize token.text
    ⟨token, position, stop⟩ :: abutting stop rest

/-- Tokens as they are written without gaps. -/
def spelling (tokens : List Token) : Text :=
  tokens.flatMap (·.text)

/-- The tokens of lexemes without gaps. -/
@[simp] theorem map_token_abutting (tokens : List Token) (position : Nat) :
    (abutting position tokens).map (·.token) = tokens := by
  induction tokens generalizing position with
  | nil => rfl
  | cons token rest ih => simp [abutting, ih]

/-- The last of some lexemes without gaps ends behind all their bytes. -/
theorem stop_getLast_abutting (tokens : List Token) (lexeme : Lexeme) :
    ((abutting lexeme.stop tokens).getLast?.getD lexeme).stop =
      lexeme.stop + byteSize (spelling tokens) := by
  induction tokens generalizing lexeme with
  | nil => rfl
  | cons token rest ih =>
    have hlast := ih ⟨token, lexeme.stop, lexeme.stop + byteSize token.text⟩
    rw [abutting, List.getLast?_cons, Option.getD_some, hlast]
    simp [spelling, byteSize_append, Nat.add_assoc]

/-! ## Finding a run -/

/-- A run of type parts without gaps is found whole, if no type part follows it without a gap. -/
theorem typeRun_abutting {tokens : List Token} {tail : List Lexeme} {stop : Nat}
    (hparts : ∀ token ∈ tokens, token.fitsType = true)
    (hend : typeRun (stop + byteSize (spelling tokens)) tail = ([], tail)) :
    typeRun stop (abutting stop tokens ++ tail) = (abutting stop tokens, tail) := by
  induction tokens generalizing stop with
  | nil => simpa [abutting, spelling, byteSize] using hend
  | cons token rest ih =>
    have hsum : stop + byteSize (spelling (token :: rest)) =
        stop + byteSize token.text + byteSize (spelling rest) := by
      simp [spelling, byteSize_append, Nat.add_assoc]
    rw [hsum] at hend
    have hrest := ih (fun t ht => hparts t (List.mem_cons_of_mem token ht)) hend
    simp [abutting, typeRun, hparts token List.mem_cons_self, hrest]

/-- A run ends before a gap. -/
theorem typeRun_of_gap {stop : Nat} {lexeme : Lexeme} {more : List Lexeme} (h : lexeme.start ≠ stop) :
    typeRun stop (lexeme :: more) = ([], lexeme :: more) := by
  simp [typeRun, h]

/-- Only the empty text has no bytes. -/
theorem eq_nil_of_byteSize {t : Text} (h : byteSize t = 0) : t = [] := by
  cases t with
  | nil => rfl
  | cons c rest =>
    have hpos := c.utf8Size_pos
    simp only [byteSize] at h
    omega

/-! ## The type of a property -/

/-- Whether a character may stand in the type of a property. -/
def isTypeChar (c : Char) : Bool :=
  isWordPart c || c == '<' || c == '>' || c == '?'

/-- A text that begins like a word and holds only characters of types. -/
def IsTypeText (t : Text) : Prop :=
  t.head?.any isWordStart = true ∧ ∀ c ∈ t, isTypeChar c = true

/-- Only properties are found by their lexemes, and only behind `public` and a word. -/
theorem exists_of_property? {line : Text} {lexemes : List Lexeme} {kind : LineKind}
    (h : property? line lexemes = some kind) :
    (∃ a b word start stop rest,
      lexemes = ⟨.keyword .publicWord, a, b⟩ :: ⟨.ident word, start, stop⟩ :: rest) ∧
      ∃ name sourceType, kind = .property name sourceType := by
  unfold property? at h
  split at h
  · next a b word start stop rest =>
    refine ⟨⟨a, b, word, start, stop, rest, rfl⟩, ?_⟩
    dsimp only at h
    split at h
    · cases h
    · simp only [Option.bind_eq_bind, Option.bind_eq_some_iff, Option.ite_none_right_eq_some,
        Option.some.injEq] at h
      obtain ⟨name, -, sourceType, -, -, rfl⟩ := h
      exact ⟨name, sourceType, rfl⟩
  · cases h

/-- Lexemes that begin with `public` and a word declare a property if and only if a name and accessors stand
behind the run of type parts; the type is the part of the line from the word to the end of the run. -/
theorem property?_eq_some_iff {line word name sourceType covered : Text} {a b start stop : Nat}
    {rest run after : List Lexeme} (hrun : typeRun stop rest = (run, after))
    (hslice : slice? line start (run.getLast?.getD ⟨.ident word, start, stop⟩).stop = some covered) :
    property? line (⟨.keyword .publicWord, a, b⟩ :: ⟨.ident word, start, stop⟩ :: rest) =
        some (.property name sourceType) ↔
      sourceType = covered ∧ ∃ nameLexeme body, after = nameLexeme :: body ∧
        nameLexeme.token.word? = some name ∧ accessors.isPrefixOf (body.map (·.token)) = true := by
  simp only [property?, hrun, hslice]
  cases after with
  | nil => simp
  | cons nameLexeme body =>
    simp only [Option.bind_eq_bind, Option.bind_eq_some_iff, Option.ite_none_right_eq_some,
      Option.some.injEq, LineKind.property.injEq]
    constructor
    · rintro ⟨_, hname, _, rfl, hbody, rfl, rfl⟩
      exact ⟨rfl, nameLexeme, body, rfl, hname, hbody⟩
    · rintro ⟨rfl, _, _, hcons, hname, hbody⟩
      obtain ⟨rfl, rfl⟩ := List.cons.inj hcons
      exact ⟨name, hname, _, rfl, hbody, rfl, rfl⟩

/-- A property is found in a line by its lexemes: `public`, a word with a run of type parts behind it, a
name after a gap, and accessors. -/
theorem property?_of_lexemes {before word after name : Text} {tokens : List Token} {a b : Nat}
    {nameLexeme : Lexeme} {body : List Lexeme} {lexemes : List Lexeme}
    (hlexemes : lexemes = ⟨.keyword .publicWord, a, b⟩ ::
      ⟨.ident word, byteSize before, byteSize before + byteSize word⟩ ::
        (abutting (byteSize before + byteSize word) tokens ++ nameLexeme :: body))
    (hparts : ∀ token ∈ tokens, token.fitsType = true)
    (hgap : nameLexeme.start ≠ byteSize before + byteSize word + byteSize (spelling tokens))
    (hname : nameLexeme.token.word? = some name)
    (hbody : accessors.isPrefixOf (body.map (·.token)) = true) :
    property? (before ++ (word ++ spelling tokens ++ after)) lexemes =
      some (.property name (word ++ spelling tokens)) := by
  have hbefore : typeRun _ (nameLexeme :: body) = ([], nameLexeme :: body) := typeRun_of_gap hgap
  have hrun := typeRun_abutting hparts hbefore
  have hstop := stop_getLast_abutting tokens
    ⟨.ident word, byteSize before, byteSize before + byteSize word⟩
  have hbehind : byteSize before + byteSize word + byteSize (spelling tokens) =
      byteSize before + byteSize (word ++ spelling tokens) := by
    rw [byteSize_append word, Nat.add_assoc]
  have hslice := slice?_append before (word ++ spelling tokens) after
  rw [← hbehind, ← hstop] at hslice
  rw [hlexemes]
  exact (property?_eq_some_iff hrun hslice).2 ⟨rfl, nameLexeme, body, rfl, hname, hbody⟩

end InterfaceGen.Source
