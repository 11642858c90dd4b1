import InterfaceGen.Conversion
import InterfaceGen.Proofs.Interface.FirstFailure
import InterfaceGen.Proofs.Outline.Origins
import InterfaceGen.Proofs.Source.Classification
import InterfaceGen.Proofs.Types.Nesting

/-!
# Converting without strictness

A source that is not blank is always read, so that without strictness its conversion fails on account of
a type only.  The reader lets through every unbroken run of names and signs that begins with a name.
Such a type fails if it has more than 64 layers, and also if it is hollow: a known collection around
question marks, after which nothing is left to be resolved.

Main results:

- Theorem `isTypeText_of_mem_declarations`: the types of a source begin with a name and have no blanks.
- Theorem `convert_eq_error_iff`: a conversion fails exactly with the first property whose type has too
  many layers or is hollow.
-/

namespace InterfaceGen

open Text Source

/-! ## The types of a source -/

/-- The types of a source begin with a name and have no blanks. -/
theorem isTypeText_of_mem_declarations {source : Text} {declaration : Text × Property}
    (h : declaration ∈ (read source).value.declarations) : IsTypeText declaration.2.sourceType := by
  obtain ⟨c, hc, hdeclared⟩ := List.mem_flatMap.1 h
  obtain ⟨p, hp, rfl⟩ := List.mem_map.1 hdeclared
  have hread : c ∈ (readLines (normalLines source)).value.classes := hc
  obtain ⟨line, -, hline⟩ := (declaredBy_of_mem_classes hread).properties p hp
  exact isTypeText_of_property hline

/-- No character of a type is blank. -/
theorem not_blank_of_isTypeChar {c : Char} (h : isTypeChar c = true) : isBlank c = false := by
  simp only [isTypeChar, Bool.or_eq_true, beq_iff_eq] at h
  rcases h with ((hword | rfl) | rfl) | rfl
  · exact not_blank_of_isWordPart hword
  · decide
  · decide
  · decide

/-- A type that begins with a name is not made of question marks. -/
theorem ne_replicate_of_isTypeText {t : Text} (h : IsTypeText t) (n : Nat) :
    t ≠ List.replicate (n + 1) '?' := by
  have hmark : isWordStart '?' = false := by decide +kernel
  have hstart := h.1
  intro ht
  rw [ht, List.replicate_succ, List.head?_cons, Option.any_some, hmark] at hstart
  cases hstart

/-- The type of a property of a source fails, in a scope that is not strict, if and only if it cannot be
resolved. -/
theorem resolve_isTypeText_eq_error_iff {scope : Scope} (hlenient : scope.isStrict = false) {t : Text}
    (h : IsTypeText t) (cause : TypeError) :
    (scope.resolve t).value = .error cause ↔
      ∃ part, scope.vocabulary.Unresolvable t part ∧ cause = .malformed part := by
  have hblank : ∀ c ∈ t, isBlank c = false := fun c hc => not_blank_of_isTypeChar (h.2 c hc)
  have hne : t ≠ [] := by
    have hstart := h.1
    intro ht
    rw [ht] at hstart
    cases hstart
  exact scope.resolve_eq_error_iff hlenient hblank hne (ne_replicate_of_isTypeText h) cause

/-! ## Failing conversions -/

/-- A source that is not blank is converted as the model that is read from it. -/
theorem value_convert {source : Text} (h : ∃ c ∈ source, isBlank c = false) (options : Options) :
    (convert options source).value = ((read source).value.interfaces options).value := by
  have hblank := not_allBlank h
  unfold convert modelOf
  rw [hblank]
  rfl

/-- A property of a source fails, without strictness, if and only if its type cannot be resolved. -/
theorem failure?_eq_some_iff_unresolvable {scope : Scope} (hlenient : scope.isStrict = false)
    {declaration : Text × Property} (h : IsTypeText declaration.2.sourceType) (e : ConversionError) :
    scope.failure? declaration = some e ↔
      ∃ part, scope.vocabulary.Unresolvable declaration.2.sourceType part ∧
        e = .inProperty declaration.1 declaration.2.name (.malformed part) := by
  rw [failure?_eq_some_iff]
  constructor
  · intro hfailure
    obtain ⟨cause, hcause, he⟩ := hfailure
    obtain ⟨part, hpart, rfl⟩ := (resolve_isTypeText_eq_error_iff hlenient h cause).1 hcause
    exact ⟨part, hpart, he⟩
  · intro hpart
    obtain ⟨part, hpart, he⟩ := hpart
    have hcause := (resolve_isTypeText_eq_error_iff hlenient h (.malformed part)).2 ⟨part, hpart, rfl⟩
    exact ⟨.malformed part, hcause, he⟩

/-- A property of a source does not fail, without strictness, if and only if its type can be resolved. -/
theorem failure?_eq_none_iff {scope : Scope} (hlenient : scope.isStrict = false)
    {declaration : Text × Property} (h : IsTypeText declaration.2.sourceType) :
    scope.failure? declaration = none ↔
      ∀ part, ¬ scope.vocabulary.Unresolvable declaration.2.sourceType part := by
  have hfailure := failure?_eq_some_iff_unresolvable hlenient h
  constructor
  · intro hnone part hpart
    have hsome := (hfailure _).2 ⟨part, hpart, rfl⟩
    rw [hnone] at hsome
    cases hsome
  · intro hall
    rw [Option.eq_none_iff_forall_ne_some]
    intro e hsome
    obtain ⟨part, hpart, -⟩ := (hfailure e).1 hsome
    exact hall part hpart

/-- Without strictness, the conversion of a source that is not blank fails exactly with the first
property whose type cannot be resolved: one with more than 64 layers, of which the part below 65 layers
is reported, or a hollow one, of which nothing is left to report. -/
theorem convert_eq_error_iff (options : Options) (source : Text) (hlenient : options.isStrict = false)
    (hsource : ∃ c ∈ source, isBlank c = false) (e : ConversionError) :
    (convert options source).value = .error e ↔
      ∃ before className p after part,
        (read source).value.declarations = before ++ (className, p) :: after ∧
          (∀ d ∈ before, ∀ part, ¬ options.vocabulary.Unresolvable d.2.sourceType part) ∧
          options.vocabulary.Unresolvable p.sourceType part ∧
          e = .inProperty className p.name (.malformed part) := by
  have htypes : ∀ d ∈ (read source).value.declarations, IsTypeText d.2.sourceType :=
    fun d hd => isTypeText_of_mem_declarations hd
  have hscope : ((read source).value.scope options).isStrict = false := hlenient
  rw [value_convert hsource, interfaces_eq_error_iff, List.findSome?_eq_some_iff]
  constructor
  · intro h
    obtain ⟨before, ⟨className, p⟩, after, hsplit, hfailure, hbefore⟩ := h
    rw [hsplit] at htypes
    have htype := htypes (className, p) (List.mem_append_right _ List.mem_cons_self)
    obtain ⟨part, hpart, he⟩ := (failure?_eq_some_iff_unresolvable hscope htype e).1 hfailure
    refine ⟨before, className, p, after, part, hsplit, ?_, hpart, he⟩
    intro d hd
    exact (failure?_eq_none_iff hscope (htypes d (List.mem_append_left _ hd))).1 (hbefore d hd)
  · intro h
    obtain ⟨before, className, p, after, part, hsplit, hbefore, hpart, he⟩ := h
    rw [hsplit] at htypes
    have htype := htypes (className, p) (List.mem_append_right _ List.mem_cons_self)
    refine ⟨before, (className, p), after, hsplit, ?_, ?_⟩
    · exact (failure?_eq_some_iff_unresolvable hscope htype e).2 ⟨part, hpart, he⟩
    · intro d hd
      exact (failure?_eq_none_iff hscope (htypes d (List.mem_append_left _ hd))).2 (hbefore d hd)

/-- A class with one property, whose type is a list of nothing that may be absent. -/
def hollowSource : Text :=
  "public class A\n\x7b\npublic List<?> X \x7b get; set; \x7d\n\x7d".toList

/-- A hollow type makes the conversion of a source fail without strictness, although it has two layers
only. -/
theorem hollowSource_fails :
    ({} : Options).isStrict = false ∧ (∃ c ∈ hollowSource, isBlank c = false) ∧
      (convert {} hollowSource).value = .error (.inProperty ['A'] ['X'] (.malformed [])) ∧
      ∀ part, ¬ ({} : Options).vocabulary.Nests 65 "List<?>".toList part := by
  have hsource : ∃ c ∈ hollowSource, isBlank c = false := ⟨'p', by decide +kernel, by decide⟩
  have hread : (read hollowSource).value.declarations =
      [] ++ (['A'], ⟨['X'], "List<?>".toList⟩) :: [] := by decide +kernel
  have hknown : ({} : Options).vocabulary.isCollection "List".toList = true := by decide
  have hangle : '<' ∉ "List".toList := by decide
  have hhollow : ({} : Options).vocabulary.Hollow "List<?>".toList :=
    ⟨0, "List".toList, 0, by decide, hknown, hangle, .here _⟩
  have helement : ['?'] ≠ ([] : Text) := by decide
  have hcollection : ({} : Options).vocabulary.Encloses "List<?>".toList ['?'] :=
    .collection hknown hangle helement
  have hempty : ([] : Text).getLast? ≠ some '?' := by decide
  have hmarks : ({} : Options).vocabulary.Encloses ['?'] [] := .marks 0 hempty
  refine ⟨rfl, hsource, ?_, ?_⟩
  · refine (convert_eq_error_iff {} hollowSource rfl hsource _).2
      ⟨[], ['A'], ⟨['X'], "List<?>".toList⟩, [], [], hread, ?_, .inr ⟨hhollow, rfl⟩, rfl⟩
    intro d hd
    cases hd
  · intro part hdeep
    rw [Vocabulary.nests_succ_iff hcollection, Vocabulary.nests_succ_iff hmarks] at hdeep
    cases hdeep with
    | within hlayer hrest => exact Vocabulary.ne_nil_of_encloses hlayer rfl

end InterfaceGen
