import InterfaceGen.Proofs.Source.Classification
import InterfaceGen.Proofs.Source.TokenLines
import Mathlib.Data.List.Basic

/-!
# Text behind a line

A class header and a property are told by the tokens at the front of a line, so that they stay what they are
with any text behind them: a comment, an initializer, the bases of a class, or a text that is not even lexed.
A closing brace is told by the whole line, so that it stays one with spacing behind it only.

Main definitions:

- `DeclaresProperty`: the tokens that declare a property.

Main results:

- Theorems `header?_append_of_opening` and `header?_append_of_none`: what header rules say of a line with more
  tokens behind it.
- Theorem `DeclaresProperty.append`: a property is declared with any tokens behind it.
- Theorem `trailing_text_hides_nothing`: headers, properties and closing braces with a text behind them.
-/

namespace InterfaceGen.Source

open Text

/-! ## Headers -/

/-- A header rule says of tokens that they open a class or are malformed. -/
theorem header?_cases {tokens : List Token} {kind : LineKind} (h : header? tokens = some kind) :
    (∃ name, kind = .opening name) ∨ kind = .malformedHeader := by
  obtain ⟨modifiers, rest, -, rfl⟩ := header?_eq_some_iff.1 h
  exact headerKind_cases rest

/-- A class is named by a header with more tokens behind it. -/
theorem header?_append_of_opening {tokens : List Token} {name : Text}
    (h : header? tokens = some (.opening name)) (more : List Token) :
    header? (tokens ++ more) = some (.opening name) := by
  obtain ⟨modifiers, rest, rfl, hkind⟩ := header?_eq_some_iff.1 h
  refine header?_eq_some_iff.2 ⟨modifiers, rest ++ more, List.append_assoc _ rest more, ?_⟩
  cases rest with
  | nil => cases hkind
  | cons first others => exact hkind

/-- Tokens with a symbol among them that make no header make none with more tokens behind them. -/
theorem header?_append_of_none {tokens : List Token} {sign : Symbol} (h : header? tokens = none)
    (hsign : .symbol sign ∈ tokens) (more : List Token) : header? (tokens ++ more) = none := by
  cases hheader : header? (tokens ++ more) with
  | none => rfl
  | some kind =>
    obtain ⟨modifiers, rest, htokens, -⟩ := header?_eq_some_iff.1 hheader
    rcases List.append_eq_append_iff.1 htokens with ⟨missing, hlead, -⟩ | ⟨behind, rfl, -⟩
    · -- no symbol stands between `public` and `class`
      have hmem := List.mem_append_left missing hsign
      rw [← hlead] at hmem
      simp [modifierTokens] at hmem
    · rw [header?_eq_some_iff.2 ⟨modifiers, behind, rfl, rfl⟩] at h
      cases h

/-! ## Properties -/

/-- Tokens are split after a run of type parts, and none is lost. -/
theorem tiedRun_split {isTied : Bool} {tokens after : List TiedToken} {run : List Token}
    (h : tiedRun isTied tokens = (run, after)) :
    run ++ after.map (·.token) = tokens.map (·.token) := by
  fun_induction tiedRun isTied tokens generalizing run with
  | case1 isTied =>
    obtain ⟨rfl, rfl⟩ := Prod.mk.inj h
    rfl
  | case2 isTied first rest hpart run' after' hrun ih =>
    obtain ⟨rfl, rfl⟩ := Prod.mk.inj h
    exact congrArg (first.token :: ·) (ih hrun)
  | case3 isTied first rest hpart =>
    obtain ⟨rfl, rfl⟩ := Prod.mk.inj h
    rfl

/-- A run of type parts ends where it does with more tokens behind, if it does not reach the end. -/
theorem tiedRun_append {isTied : Bool} {tokens after : List TiedToken} {run : List Token} {next : TiedToken}
    (h : tiedRun isTied tokens = (run, next :: after)) (more : List TiedToken) :
    tiedRun isTied (tokens ++ more) = (run, next :: (after ++ more)) := by
  fun_induction tiedRun isTied tokens generalizing run with
  | case1 isTied => cases h
  | case2 isTied first rest hpart run' after' hrun ih =>
    obtain ⟨rfl, rfl⟩ := Prod.mk.inj h
    rw [List.cons_append, tiedRun, if_pos hpart, ih hrun]
  | case3 isTied first rest hpart =>
    obtain ⟨rfl, hafter⟩ := Prod.mk.inj h
    obtain ⟨rfl, rfl⟩ := List.cons.inj hafter
    rw [List.cons_append, tiedRun, if_neg hpart]

/-- Tokens that declare a property: `public`, a word with a run of type parts, a name and accessors, with any
tokens behind them. -/
inductive DeclaresProperty : List TiedToken → Text → Text → Prop
  | intro {publicTied isTied : Bool} {word name : Text} {rest body : List TiedToken} {run : List Token}
    {nameToken : TiedToken} (hrun : tiedRun isTied rest = (run, nameToken :: body))
    (hname : nameToken.token.word? = some name) (hbody : accessors <+: body.map (·.token)) :
    DeclaresProperty (⟨.keyword .publicWord, publicTied⟩ :: ⟨.ident word, isTied⟩ :: rest) name
      (word ++ spelling run)

/-- Nothing but properties is declared by tokens, and by no others than these. -/
theorem propertyOfTokens?_eq_some_iff {tokens : List TiedToken} {kind : LineKind} :
    propertyOfTokens? tokens = some kind ↔
      ∃ name type, kind = .property name type ∧ DeclaresProperty tokens name type := by
  constructor
  · intro h
    unfold propertyOfTokens? at h
    split at h
    · next publicTied word isTied rest =>
      split at h
      · cases h
      · next run nameToken body hrun =>
        simp only [Option.bind_eq_bind, Option.bind_eq_some_iff, Option.ite_none_right_eq_some,
          Option.some.injEq] at h
        obtain ⟨name, hname, hbody, rfl⟩ := h
        exact ⟨name, _, rfl, .intro hrun hname (List.isPrefixOf_iff_prefix.1 hbody)⟩
    · cases h
  · rintro ⟨name, type, rfl, ⟨hrun, hname, hbody⟩⟩
    simp [propertyOfTokens?, hrun, hname, List.isPrefixOf_iff_prefix.2 hbody]

/-- Tokens that declare a property declare it with more tokens behind them. -/
theorem DeclaresProperty.append {tokens : List TiedToken} {name type : Text}
    (h : DeclaresProperty tokens name type) (more : List TiedToken) :
    DeclaresProperty (tokens ++ more) name type := by
  obtain ⟨hrun, hname, hbody⟩ := h
  refine .intro (tiedRun_append hrun more) hname ?_
  rw [List.map_append]
  exact hbody.trans (List.prefix_append _ _)

/-- A brace opens the accessors of a property. -/
theorem DeclaresProperty.leftBrace_mem {tokens : List TiedToken} {name type : Text}
    (h : DeclaresProperty tokens name type) : .symbol .leftBrace ∈ tokens.map (·.token) := by
  obtain ⟨hrun, -, hbody⟩ := h
  have hbrace := hbody.subset (show Token.symbol .leftBrace ∈ accessors by decide)
  rw [List.map_cons, List.map_cons, ← tiedRun_split hrun, List.map_cons]
  simp [hbrace]

/-! ## Kinds of token lines -/

/-- A token line opens a class if and only if its tokens are a header that names it. -/
theorem ofTokens_eq_opening_iff {line : TokenLine} {name : Text} :
    LineKind.ofTokens line = .opening name ↔ header? (line.tokens.map (·.token)) = some (.opening name) := by
  constructor
  · intro h
    unfold LineKind.ofTokens at h
    split at h
    · next kind hheader => rw [hheader, h]
    · split at h
      · cases h
      · cases hfound : propertyOfTokens? line.tokens with
        | none => simp [hfound] at h
        | some kind =>
          obtain ⟨_, _, rfl, -⟩ := propertyOfTokens?_eq_some_iff.1 hfound
          simp [hfound] at h
  · intro h
    rw [LineKind.ofTokens, h]

/-- A token line declares a property if and only if its tokens do and are no header. -/
theorem ofTokens_eq_property_iff {line : TokenLine} {name type : Text} :
    LineKind.ofTokens line = .property name type ↔
      header? (line.tokens.map (·.token)) = none ∧ DeclaresProperty line.tokens name type := by
  constructor
  · intro h
    unfold LineKind.ofTokens at h
    split at h
    · next kind hheader =>
      rcases header?_cases hheader with ⟨opened, rfl⟩ | rfl
      · cases h
      · cases h
    · next hheader =>
      refine ⟨hheader, ?_⟩
      split at h
      · cases h
      · cases hfound : propertyOfTokens? line.tokens with
        | none => simp [hfound] at h
        | some kind =>
          obtain ⟨_, _, rfl, hdeclares⟩ := propertyOfTokens?_eq_some_iff.1 hfound
          obtain ⟨rfl, rfl⟩ : _ = name ∧ _ = type := by simpa [hfound] using h
          exact hdeclares
  · rintro ⟨hheader, hdeclares⟩
    have hproperty := propertyOfTokens?_eq_some_iff.2 ⟨name, type, rfl, hdeclares⟩
    -- a property has a brace that opens, so that it is no closing brace
    have hbrace : line.tokens.map (·.token) ≠ [.symbol .rightBrace] := by
      intro hclosing
      have hmem := hdeclares.leftBrace_mem
      rw [hclosing] at hmem
      cases List.mem_singleton.1 hmem
    simp [LineKind.ofTokens, hheader, hbrace, hproperty]

/-- A header that names a class does so with any tokens behind it. -/
theorem ofTokens_append_of_opening {line : TokenLine} {name : Text}
    (h : LineKind.ofTokens line = .opening name) (other : TokenLine) :
    LineKind.ofTokens (line.append other) = .opening name := by
  rw [TokenLine.append]
  split
  · rw [ofTokens_eq_opening_iff, List.map_append]
    exact header?_append_of_opening (ofTokens_eq_opening_iff.1 h) _
  · exact h

/-- A property is declared with any tokens behind it. -/
theorem ofTokens_append_of_property {line : TokenLine} {name type : Text}
    (h : LineKind.ofTokens line = .property name type) (other : TokenLine) :
    LineKind.ofTokens (line.append other) = .property name type := by
  rw [TokenLine.append]
  split
  · obtain ⟨hheader, hdeclares⟩ := ofTokens_eq_property_iff.1 h
    rw [ofTokens_eq_property_iff, List.map_append]
    exact ⟨header?_append_of_none hheader hdeclares.leftBrace_mem _, hdeclares.append other.tokens⟩
  · exact h

/-! ## Lines with a text behind them -/

/-- A closing brace stays one with a text behind it if and only if the text is spacing. -/
theorem closing_append_iff {line : Text} (h : LineKind.ofLine line = .closing) (rest : Text) :
    LineKind.ofLine (line ++ ' ' :: rest) = .closing ↔ ∀ c ∈ rest, isGap c = true := by
  obtain ⟨indent, trail, rfl⟩ := ofLine_eq_closing_iff.1 h
  have hbrace : ∀ spacing : Spacing, '}' ∉ spacing.text := fun spacing hmem =>
    absurd (spacing.isGap _ hmem) (by decide)
  rw [ofLine_eq_closing_iff, List.append_assoc, List.cons_append]
  constructor
  · rintro ⟨indent', trail', hline⟩ c hc
    obtain ⟨-, -, htrail⟩ :=
      (List.append_cons_inj_of_notMem (hbrace indent') (hbrace trail')).1 hline.symm
    refine trail'.isGap c ?_
    rw [htrail]
    exact List.mem_append_right _ (List.mem_cons_of_mem _ hc)
  · intro hrest
    have hgaps : ∀ c ∈ trail.text ++ ' ' :: rest, isGap c = true :=
      List.forall_mem_append.2 ⟨trail.isGap, List.forall_mem_cons.2 ⟨by decide, hrest⟩⟩
    exact ⟨indent, ⟨_, hgaps⟩, rfl⟩

/-- A text behind a line never hides that the line opens a class or declares a property: with a space between
both, the class keeps its name, and the property its name and type.  A closing brace is hidden by every text
that holds anything but spaces, tabs, carriage returns and line feeds. -/
theorem trailing_text_hides_nothing (line rest : Text) :
    (∀ name, LineKind.ofLine line = .opening name →
      LineKind.ofLine (line ++ ' ' :: rest) = .opening name) ∧
    (∀ name type, LineKind.ofLine line = .property name type →
      LineKind.ofLine (line ++ ' ' :: rest) = .property name type) ∧
    (LineKind.ofLine line = .closing →
      (LineKind.ofLine (line ++ ' ' :: rest) = .closing ↔ ∀ c ∈ rest, c ∈ [' ', '\t', '\r', '\n'])) := by
  have hspace : isGap ' ' = true := by decide
  have htokens := ofText_append (beginsApart_gap hspace rest) line
  refine ⟨fun name h => ?_, fun name type h => ?_, fun h => ?_⟩
  · rw [ofLine_eq_ofTokens] at h ⊢
    rw [htokens]
    exact ofTokens_append_of_opening h _
  · rw [ofLine_eq_ofTokens] at h ⊢
    rw [htokens]
    exact ofTokens_append_of_property h _
  · simp only [← isGap_iff_mem]
    exact closing_append_iff h rest

/-- The bases of a class and a comment behind a property hide nothing; a comment hides a closing brace. -/
theorem comments_hide_braces_only :
    LineKind.ofLine ("public class Address".toList ++ ' ' :: ": Location \x7b".toList) =
      .opening "Address".toList ∧
    LineKind.ofLine ("public List<Address>? Homes \x7b get; set; \x7d".toList ++ ' ' :: "// all".toList) =
      .property "Homes".toList "List<Address>?".toList ∧
    LineKind.ofLine ("\t\x7d".toList ++ ' ' :: "\r".toList) = .closing ∧
    LineKind.ofLine ("\t\x7d".toList ++ ' ' :: "// done".toList) ≠ .closing := by
  have hbrace : LineKind.ofLine "\t\x7d".toList = .closing := by decide +kernel
  refine ⟨?_, ?_, ?_, ?_⟩
  · exact (trailing_text_hides_nothing "public class Address".toList _).1 _ (by decide +kernel)
  · exact (trailing_text_hides_nothing "public List<Address>? Homes \x7b get; set; \x7d".toList _).2.1 _ _
      (by decide +kernel)
  · exact ((trailing_text_hides_nothing _ "\r".toList).2.2 hbrace).2 (by simp)
  · intro hclosing
    have hgaps := ((trailing_text_hides_nothing _ "// done".toList).2.2 hbrace).1 hclosing
    exact absurd (hgaps 'd' (by decide)) (by decide)

end InterfaceGen.Source
