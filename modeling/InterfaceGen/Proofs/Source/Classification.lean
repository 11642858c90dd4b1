import InterfaceGen.Proofs.Source.Headers
import InterfaceGen.Proofs.Source.Properties
import InterfaceGen.Proofs.Source.Tiling

/-!
# What a line says, by its text

A line is a class header, a malformed header, a closing brace or a property if and only if it reads like
one, and no text is left out: words are as long as they can be, keywords are ordinary words before certain
characters, types have no gaps, and what reads like a header is no property.

Main results:

- Theorem `closes_iff`: the lines that are a closing brace and nothing else.
- Theorem `exists_header_or_none`: the rank of headers before all other lines.
- Theorem `isTypeText_of_property`: what the type of a property is made of.
- Theorem `ofLine_follows_grammar`: what every line says.
-/

namespace InterfaceGen.Source

open Text

/-! ## Closing braces -/

/-- A text that is lexed to its end without a token holds only characters that separate tokens. -/
theorem isGap_of_lexFrom {t : Text} {position : Nat} (htokens : (lexFrom position t).tokens = [])
    (hcomplete : (lexFrom position t).complete = true) : ∀ c ∈ t, isGap c = true := by
  obtain ⟨spacing, rest, rfl, hrest, -⟩ := exists_parts_of_no_lexemes (List.map_eq_nil_iff.1 htokens)
  rw [hrest hcomplete, List.append_nil]
  exact spacing.isGap

/-- Spacing is lexed to its end without a token. -/
theorem lexFrom_of_spacing (spacing : Spacing) (position : Nat) :
    lexFrom position spacing.text = ⟨[], true⟩ := by
  have hend := lexFrom_spacing spacing position []
  rwa [List.append_nil, lexFrom] at hend

/-- A line has a closing brace as its only token, and is lexed to its end, if and only if it is this brace
with spacing around it. -/
theorem closes_iff {line : Text} :
    (lex line).complete = true ∧ (lex line).tokens = [.symbol .rightBrace] ↔
      ∃ indent trail : Spacing, line = indent.text ++ '}' :: trail.text := by
  have hlex : ∀ (indent : Spacing) (after : Text),
      lex (indent.text ++ '}' :: after) = (lexFrom (byteSize indent.text + 1) after).cons
        ⟨.symbol .rightBrace, byteSize indent.text, byteSize indent.text + 1⟩ := by
    intro indent after
    have hbrace := lexFrom_symbol .rightBrace (0 + byteSize indent.text) after
    rw [Nat.zero_add] at hbrace
    rw [lex, lexFrom_spacing, Nat.zero_add]
    exact hbrace
  constructor
  · rintro ⟨hcomplete, htokens⟩
    obtain ⟨indent, after, rfl, -, hafter⟩ := tokens_lex_eq_cons_iff.1 htokens
    have hrest : (lexFrom (byteSize indent.text + 1) after).complete = true := by
      rwa [show Token.text (.symbol .rightBrace) ++ after = '}' :: after from rfl, hlex] at hcomplete
    exact ⟨indent, ⟨after, isGap_of_lexFrom (by rwa [tokens_lexFrom]) hrest⟩, rfl⟩
  · rintro ⟨indent, trail, rfl⟩
    rw [hlex, lexFrom_of_spacing]
    exact ⟨rfl, rfl⟩

/-! ## The rules by their rank -/

/-- A header opens a class or is malformed. -/
theorem headerKind_cases (tokens : List Token) :
    (∃ name, headerKind tokens = .opening name) ∨ headerKind tokens = .malformedHeader := by
  unfold headerKind
  split
  · next name _ => exact .inl ⟨name, rfl⟩
  · exact .inr rfl

/-- What no header rule fits is a closing brace, or else a property, if it is one of these. -/
theorem LineKind.ofLine_of_no_header {line : Text} (h : header? (lex line).tokens = none) :
    ofLine line =
      if (lex line).complete = true ∧ (lex line).tokens = [.symbol .rightBrace] then .closing
      else (property? line (lex line).lexemes).getD .other := by
  simp only [ofLine, h]

/-- A line says of a header what the header rule says. -/
theorem ofLine_eq_headerKind {line rest : Text} (h : ReadsHeader line rest) :
    LineKind.ofLine line = headerKind (lex rest).tokens :=
  LineKind.ofLine_of_header (header?_lex_iff.2 ⟨rest, h, rfl⟩)

/-- A line reads like a header, or no header rule fits it. -/
theorem exists_header_or_none (line : Text) :
    (∃ rest, ReadsHeader line rest) ∨
      (¬ ∃ rest, ReadsHeader line rest) ∧ header? (lex line).tokens = none := by
  cases hheader : header? (lex line).tokens with
  | some kind =>
    obtain ⟨rest, hreads, -⟩ := header?_lex_iff.1 hheader
    exact .inl ⟨rest, hreads⟩
  | none =>
    refine .inr ⟨?_, rfl⟩
    rintro ⟨rest, hreads⟩
    have hsome := header?_lex_iff.2 ⟨rest, hreads, rfl⟩
    rw [hheader] at hsome
    cases hsome

/-- What is not said of braces, properties and other lines is said of headers only. -/
theorem ofLine_eq_iff_of_header {line : Text} {kind : LineKind} (hclosing : kind ≠ .closing)
    (hproperty : ∀ name type, kind ≠ .property name type) (hother : kind ≠ .other) :
    LineKind.ofLine line = kind ↔ ∃ rest, ReadsHeader line rest ∧ headerKind (lex rest).tokens = kind := by
  constructor
  · rintro rfl
    rcases exists_header_or_none line with ⟨rest, hreads⟩ | ⟨-, hnone⟩
    · exact ⟨rest, hreads, (ofLine_eq_headerKind hreads).symm⟩
    · rw [LineKind.ofLine_of_no_header hnone] at hclosing hproperty hother
      split at hclosing
      · exact absurd rfl hclosing
      · next hopen =>
        rw [if_neg hopen] at hproperty hother
        cases hfound : property? line (lex line).lexemes with
        | none => simp [hfound] at hother
        | some found =>
          obtain ⟨-, name, type, rfl⟩ := exists_of_property? hfound
          simp [hfound] at hproperty
  · rintro ⟨rest, hreads, rfl⟩
    exact ofLine_eq_headerKind hreads

/-- What is not said of headers is said only of lines that no header rule fits. -/
theorem no_header_of_ofLine {line : Text} {kind : LineKind} (h : LineKind.ofLine line = kind)
    (hopening : ∀ name, kind ≠ .opening name) (hmalformed : kind ≠ .malformedHeader) :
    (¬ ∃ rest, ReadsHeader line rest) ∧ header? (lex line).tokens = none := by
  rcases exists_header_or_none line with ⟨rest, hreads⟩ | hnone
  · rw [ofLine_eq_headerKind hreads] at h
    rcases headerKind_cases (lex rest).tokens with ⟨name, hkind⟩ | hkind
    · exact absurd (h.symm.trans hkind) (hopening name)
    · exact absurd (h.symm.trans hkind) hmalformed
  · exact hnone

/-! ## The kinds of lines -/

/-- The lines that open a class. -/
theorem ofLine_eq_opening_iff {line name : Text} :
    LineKind.ofLine line = .opening name ↔ ∃ rest, ReadsHeader line rest ∧ NamesClass rest name := by
  rw [ofLine_eq_iff_of_header (by simp) (by simp) (by simp)]
  exact exists_congr fun rest => and_congr_right fun hreads => headerKind_eq_opening_iff hreads.endsWord

/-- The lines that begin like a class header and name no class. -/
theorem ofLine_eq_malformedHeader_iff {line : Text} :
    LineKind.ofLine line = .malformedHeader ↔
      ∃ rest, ReadsHeader line rest ∧ ∀ name, ¬ NamesClass rest name := by
  rw [ofLine_eq_iff_of_header (by simp) (by simp) (by simp)]
  exact exists_congr fun rest => and_congr_right fun hreads =>
    headerKind_eq_malformedHeader_iff hreads.endsWord

/-- The lines that are a closing brace. -/
theorem ofLine_eq_closing_iff {line : Text} :
    LineKind.ofLine line = .closing ↔
      ∃ indent trail : Spacing, line = indent.text ++ '}' :: trail.text := by
  rw [← closes_iff]
  constructor
  · intro h
    obtain ⟨-, hnone⟩ := no_header_of_ofLine h (by simp) (by simp)
    rw [LineKind.ofLine_of_no_header hnone] at h
    split at h
    · assumption
    · cases hfound : property? line (lex line).lexemes with
      | none => simp [hfound] at h
      | some kind =>
        obtain ⟨-, _, _, rfl⟩ := exists_of_property? hfound
        simp [hfound] at h
  · rintro ⟨hcomplete, htokens⟩
    have hnone : header? (lex line).tokens = none := by
      rw [htokens]
      rfl
    rw [LineKind.ofLine_of_no_header hnone, if_pos ⟨hcomplete, htokens⟩]

/-- The lines that declare a property. -/
theorem ofLine_eq_property_iff {line name type : Text} :
    LineKind.ofLine line = .property name type ↔
      (¬ ∃ rest, ReadsHeader line rest) ∧ ReadsProperty line name type := by
  rw [← property?_lex_iff]
  constructor
  · intro h
    obtain ⟨hheader, hnone⟩ := no_header_of_ofLine h (by simp) (by simp)
    refine ⟨hheader, ?_⟩
    rw [LineKind.ofLine_of_no_header hnone] at h
    split at h
    · cases h
    · cases hfound : property? line (lex line).lexemes with
      | none => simp [hfound] at h
      | some kind => simpa [hfound] using h
  · rintro ⟨hheader, hproperty⟩
    obtain ⟨⟨a, b, word, start, stop, rest, hlexemes⟩, -⟩ := exists_of_property? hproperty
    -- a property has more tokens than a closing brace
    have hbrace : (lex line).tokens ≠ [.symbol .rightBrace] := by
      rw [LexedLine.tokens, hlexemes]
      simp
    rcases exists_header_or_none line with hreads | ⟨-, hnone⟩
    · exact absurd hreads hheader
    · exact LineKind.ofLine_of_property hnone hbrace hproperty

/-- A run of type parts holds only characters of types. -/
theorem isTypeChar_of_isTypeRun {after run : Text} (h : IsTypeRun after run) :
    ∀ c ∈ run, isTypeChar c = true := by
  induction h with
  | nil => simp
  | sign sign hrun ih => exact List.forall_mem_cons.2 ⟨by cases sign <;> decide, ih⟩
  | name hname hrun ih =>
    refine List.forall_mem_append.2 ⟨fun c hc => ?_, ih⟩
    simp [isTypeChar, hname.1.isWordPart c hc]

/-- The type of a property begins with a word and holds only characters of types. -/
theorem isTypeText_of_property {line name type : Text} (h : LineKind.ofLine line = .property name type) :
    IsTypeText type := by
  obtain ⟨-, _, _, _, _, _, -, ⟨first, run, rfl, hfirst, hrun, -⟩, -⟩ := ofLine_eq_property_iff.1 h
  refine ⟨?_, isTypeChar_of_isTypeRun (.name hfirst hrun)⟩
  cases first with
  | nil => exact hfirst.1.elim
  | cons c rest => simpa using hfirst.1.1

/-- What a line says, by its text.  It opens a class if it reads `public`, modifiers and `class` with
separators between them, and the name of a class behind them; it is a malformed header if no such name
follows; it is a closing brace if there is only spacing around one; and it declares a property if it reads
no such header but `public`, a type, a name and accessors. -/
theorem ofLine_follows_grammar (line : Text) :
    (∀ name, LineKind.ofLine line = .opening name ↔
      ∃ rest, ReadsHeader line rest ∧ NamesClass rest name) ∧
    (LineKind.ofLine line = .malformedHeader ↔
      ∃ rest, ReadsHeader line rest ∧ ∀ name, ¬ NamesClass rest name) ∧
    (LineKind.ofLine line = .closing ↔
      ∃ indent trail : Spacing, line = indent.text ++ '}' :: trail.text) ∧
    ∀ name type, LineKind.ofLine line = .property name type ↔
      (¬ ∃ rest, ReadsHeader line rest) ∧ ReadsProperty line name type :=
  ⟨fun _ => ofLine_eq_opening_iff, ofLine_eq_malformedHeader_iff, ofLine_eq_closing_iff,
    fun _ _ => ofLine_eq_property_iff⟩

-- it reads like a property named `class` too, but headers come first
example : LineKind.ofLine "public sealed class \x7b get; set; \x7d".toList = .malformedHeader := by
  decide +kernel

end InterfaceGen.Source
