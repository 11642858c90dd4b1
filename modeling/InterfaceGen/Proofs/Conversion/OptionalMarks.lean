import InterfaceGen.Conversion
import InterfaceGen.Proofs.Interface.Blocks
import InterfaceGen.Proofs.Interface.FirstFailure
import InterfaceGen.Proofs.Types.Core

/-!
# Question marks in interfaces

Question marks around the layers of a source type do not reach the type that is printed: an optional layer
moves to the property or is printed as a union.  The core of a type is printed as it stands, however, so
that question marks inside of a generic type that is no known collection stay where they are.

Main results:

- Theorem `not_mem_mark_of_target?`: neither the scalars of the standard vocabulary nor their target types
  have question marks.
- Theorem `mark_mem_text_iff`: the printed type of a property holds a question mark if and only if the core
  of its source type does.
-/

namespace InterfaceGen

open Text Source

/-- No scalar of the standard vocabulary, in any case, and no target type of one holds a question mark. -/
theorem not_mem_mark_of_target? {name target : Text}
    (h : Vocabulary.standard.target? name = some target) : '?' ∉ name ∧ '?' ∉ target := by
  have hscalars : ∀ scalar ∈ Vocabulary.standard.scalars, '?' ∉ scalar.1 ∧ '?' ∉ scalar.2 := by
    decide +kernel
  obtain ⟨scalar, hfound, rfl⟩ := Option.map_eq_some_iff.1 h
  obtain ⟨hkey, htarget⟩ := hscalars scalar (List.mem_of_find?_eq_some hfound)
  have hname : scalar.1 = lowercase name := by simpa using List.find?_some hfound
  have hlower : lowerChar '?' = ['?'] := by decide +kernel
  refine ⟨fun hmark => hkey ?_, htarget⟩
  rw [hname]
  exact mem_lowercase hlower (by decide) hmark

/-- A target type is written with a question mark if and only if what it is made of is. -/
theorem mark_mem_text_iff_leaf (type : TargetType) : '?' ∈ type.text ↔ '?' ∈ type.leaf.text := by
  have hlayers : '?' ∉ ['(', ')'] ++ TargetType.arrayMark ++ TargetType.absentMark := by decide
  rw [← List.count_pos_iff, ← List.count_pos_iff, TargetType.count_text hlayers]

/-- What a name stands for in the standard vocabulary is written with a question mark if and only if the
name is. -/
theorem mark_mem_meaningOf_iff (name : Text) :
    '?' ∈ (Vocabulary.standard.meaningOf name).text ↔ '?' ∈ name := by
  unfold Vocabulary.meaningOf
  cases htarget : Vocabulary.standard.target? name with
  | some target =>
    obtain ⟨hname, hplain⟩ := not_mem_mark_of_target? htarget
    exact iff_of_false hplain hname
  | none => rfl

/-- A conversion that succeeds prints the model of its source. -/
theorem interfaces_of_convert {options : Options} {source out : Text}
    (h : (convert options source).value = .ok out) :
    ((read source).value.interfaces options).value = .ok out := by
  unfold convert modelOf at h
  cases hblank : allBlank source with
  | true =>
    rw [hblank] at h
    cases h
  | false =>
    rw [hblank] at h
    exact h

/-- The type of a property, as it is printed when the conversion of its source succeeds, holds a question
mark if and only if the core of the source type does. -/
theorem mark_mem_text_iff {source out : Text} (hout : (convert {} source).value = .ok out)
    {className : Text} {p : Property} (hp : (className, p) ∈ (read source).value.declarations) :
    ∃ type core, (((read source).value.scope {}).resolve p.sourceType).value = .ok type ∧
      type.binding.property (lowerFirst p.name) ++ [';', '\n'] <:+: out ∧
      Vocabulary.standard.Core p.sourceType core ∧
      ('?' ∈ type.binding.type.text ↔ '?' ∈ core) := by
  obtain ⟨c, hc, hdeclared⟩ := List.mem_flatMap.1 hp
  obtain ⟨p, hproperty, hpair⟩ := List.mem_map.1 hdeclared
  obtain ⟨rfl, rfl⟩ := Prod.mk.inj hpair
  obtain ⟨block, hall, rfl⟩ := interfaces_eq_ok_iff.1 (interfaces_of_convert hout)
  obtain ⟨line, hline, hinfix⟩ := exists_line_of_block (hall c hc) hproperty
  unfold Scope.line at hline
  cases hresolve : (((read source).value.scope {}).resolve p.sourceType).value with
  | error cause =>
    rw [hresolve] at hline
    cases hline
  | ok type =>
    rw [hresolve] at hline
    obtain rfl := Except.ok.inj hline
    obtain ⟨core, hcore, -, -, hleaf⟩ := Scope.exists_core_of_resolve hresolve
    have hprinted := hinfix.trans (infix_intercalate (List.mem_map_of_mem hc))
    refine ⟨type, core, rfl, hprinted, hcore, ?_⟩
    rw [mark_mem_text_iff_leaf, TargetType.leaf_binding, hleaf]
    exact mark_mem_meaningOf_iff core

/-- A class with one property, whose type is a generic type around a type that may be absent. -/
def lookupSource : Text :=
  "public class A\n\x7b\npublic Lookup<int?> X \x7b get; set; \x7d\n\x7d".toList

/-- The question mark inside of a generic type that is no known collection is printed as part of the type. -/
theorem lookupSource_keeps_mark :
    (convert {} lookupSource).value = .ok "export interface A \x7b\n    x: Lookup<int?>;\n\x7d".toList ∧
      (['A'], ⟨['X'], "Lookup<int?>".toList⟩) ∈ (read lookupSource).value.declarations ∧
      ∃ type core, (((read lookupSource).value.scope {}).resolve "Lookup<int?>".toList).value = .ok type ∧
        Vocabulary.standard.Core "Lookup<int?>".toList core ∧
        '?' ∈ type.binding.type.text ∧ '?' ∈ core := by
  have hout : (convert {} lookupSource).value =
      .ok "export interface A \x7b\n    x: Lookup<int?>;\n\x7d".toList := by decide +kernel
  have hp : (['A'], ⟨['X'], "Lookup<int?>".toList⟩) ∈ (read lookupSource).value.declarations := by
    decide +kernel
  have hreference : (((read lookupSource).value.scope {}).resolve "Lookup<int?>".toList).value =
      .ok (.reference "Lookup<int?>".toList) := by decide +kernel
  obtain ⟨type, core, htype, -, hcore, hmark⟩ := mark_mem_text_iff hout hp
  obtain rfl := Except.ok.inj (hreference.symm.trans htype)
  have hprinted : '?' ∈ (TargetType.reference "Lookup<int?>".toList).binding.type.text := by decide
  exact ⟨hout, hp, _, core, htype, hcore, hprinted, hmark.1 hprinted⟩

end InterfaceGen
