import InterfaceGen.Proofs.Interface.Strictness
import InterfaceGen.Proofs.Types.Descent

/-!
# The property that is reported

A model without interfaces has a first bad property: all types before it are resolved, and its own is not.
The error of the model names this property, its class and what is wrong with its type.

Main definitions:

- `Model.FirstBad`: a property is the first of a model whose type cannot be resolved.

Main results:

- Theorem `interfaces_eq_error_iff_firstBad`: the error of a model is that of its first bad property.
- Theorem `interfaces_eq_of_firstBad`: what is declared after the first bad property has no bearing.
- Theorem `first_bad_property_is_reported`: when a model has no interfaces, what is reported then, and what
  the report depends on.
-/

namespace InterfaceGen

open Text

/-- A property is the first bad one of a model: it is declared after some others whose types are resolved,
and its own type is not. -/
structure Model.FirstBad (m : Model) (options : Options) (before : List (Text × Property))
    (declaration : Text × Property) (cause : TypeError) : Prop where
  declared : before ++ [declaration] <+: m.declarations
  resolved : ∀ earlier ∈ before, ∃ type,
    ((m.scope options).resolve earlier.2.sourceType).value = .ok type
  unresolved : ((m.scope options).resolve declaration.2.sourceType).value = .error cause

/-- A list begins with some elements and one more if it is split there. -/
theorem concat_prefix_iff {α : Type} {before all : List α} {a : α} :
    before ++ [a] <+: all ↔ ∃ after, all = before ++ a :: after := by
  constructor
  · rintro ⟨after, rfl⟩
    exact ⟨after, by rw [List.append_assoc, List.singleton_append]⟩
  · rintro ⟨after, rfl⟩
    exact ⟨after, by rw [List.append_assoc, List.singleton_append]⟩

section Reporting

variable {m : Model} {options : Options}

/-- The error of a model is that of its first bad property. -/
theorem interfaces_eq_error_iff_firstBad {e : ConversionError} :
    (m.interfaces options).value = .error e ↔ ∃ before d cause,
      m.FirstBad options before d cause ∧ e = .inProperty d.1 d.2.name cause := by
  rw [interfaces_eq_error_iff, List.findSome?_eq_some_iff]
  constructor
  · rintro ⟨before, d, after, hsplit, hfailure, hbefore⟩
    obtain ⟨cause, hcause, he⟩ := failure?_eq_some_iff.1 hfailure
    have hresolved := fun earlier hearlier => failure?_eq_none_iff_resolves.1 (hbefore earlier hearlier)
    exact ⟨before, d, cause, ⟨concat_prefix_iff.2 ⟨after, hsplit⟩, hresolved, hcause⟩, he⟩
  · rintro ⟨before, d, cause, hfirst, rfl⟩
    obtain ⟨after, hsplit⟩ := concat_prefix_iff.1 hfirst.declared
    refine ⟨before, d, after, hsplit, failure?_eq_some_iff.2 ⟨cause, hfirst.unresolved, rfl⟩, ?_⟩
    exact fun earlier hearlier => failure?_eq_none_iff_resolves.2 (hfirst.resolved earlier hearlier)

/-- A model has an error if and only if the type of one of its properties cannot be resolved. -/
theorem exists_error_iff :
    (∃ e, (m.interfaces options).value = .error e) ↔
      ∃ d ∈ m.declarations, ∃ cause, ((m.scope options).resolve d.2.sourceType).value = .error cause := by
  constructor
  · rintro ⟨e, he⟩
    obtain ⟨before, d, cause, hfirst, -⟩ := interfaces_eq_error_iff_firstBad.1 he
    exact ⟨d, hfirst.declared.subset (by simp), cause, hfirst.unresolved⟩
  · rintro ⟨d, hd, cause, hcause⟩
    cases hvalue : (m.interfaces options).value with
    | error e => exact ⟨e, rfl⟩
    | ok out =>
      obtain ⟨type, htype⟩ := (exists_interfaces_iff m options).1 ⟨out, hvalue⟩ d hd
      rw [hcause] at htype
      cases htype

/-- A property that is the first bad one of a model is that of every model with classes of the same names
that begins with the same properties. -/
theorem Model.FirstBad.of_names_eq {m' : Model} {before : List (Text × Property)} {d : Text × Property}
    {cause : TypeError} (h : m.FirstBad options before d cause) (hnames : m'.names = m.names)
    (hbegins : before ++ [d] <+: m'.declarations) : m'.FirstBad options before d cause := by
  have hscope : m'.scope options = m.scope options := by rw [Model.scope, hnames, Model.scope]
  refine ⟨hbegins, fun earlier hearlier => ?_, ?_⟩
  · rw [hscope]
    exact h.resolved earlier hearlier
  · rw [hscope]
    exact h.unresolved

/-- What is declared after the first bad property has no bearing on what is reported. -/
theorem interfaces_eq_of_firstBad {m' : Model} {before : List (Text × Property)} {d : Text × Property}
    {cause : TypeError} (h : m.FirstBad options before d cause) (hnames : m'.names = m.names)
    (hbegins : before ++ [d] <+: m'.declarations) :
    (m'.interfaces options).value = (m.interfaces options).value := by
  have hvalue := interfaces_eq_error_iff_firstBad.2 ⟨before, d, cause, h, rfl⟩
  rw [hvalue]
  exact interfaces_eq_error_iff_firstBad.2 ⟨before, d, cause, h.of_names_eq hnames hbegins, rfl⟩

end Reporting

/-- A model has an error if and only if the type of one of its properties cannot be resolved.  The error is
that of the first such property, in the order of the classes and of the properties in each of them: it names
the class, the property and the cause, which is a name that a strict scope does not accept, or a malformed
part of the type.  The properties after it may be any others. -/
theorem first_bad_property_is_reported (m : Model) (options : Options) :
    ((∃ e, (m.interfaces options).value = .error e) ↔
      ∃ d ∈ m.declarations, ∃ cause,
        ((m.scope options).resolve d.2.sourceType).value = .error cause) ∧
    (∀ e, (m.interfaces options).value = .error e ↔ ∃ before d cause,
      m.FirstBad options before d cause ∧ e = .inProperty d.1 d.2.name cause) ∧
    (∀ source cause, ((m.scope options).resolve source).value = .error cause ↔
      (m.scope options).Explains source cause) ∧
    ∀ before d cause, m.FirstBad options before d cause →
      ∀ m' : Model, m'.names = m.names → before ++ [d] <+: m'.declarations →
        (m'.interfaces options).value = (m.interfaces options).value := by
  refine ⟨exists_error_iff, fun e => interfaces_eq_error_iff_firstBad, fun source cause => ?_, ?_⟩
  · exact Scope.resolve_eq_error_iff_explains
  · intro before d cause hfirst m' hnames hbegins
    exact interfaces_eq_of_firstBad hfirst hnames hbegins

end InterfaceGen
