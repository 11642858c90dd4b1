import InterfaceGen.Proofs.Types.Core

/-!
# Normal target types

Whatever text is resolved, the target type is normal: no optional type stands directly inside of another one,
there are no more layers than are allowed, and at most the optional layer at the top moves to the property.
What the type is made of is said by the core of the text, which is a part of the text without any layer.

Main definitions:

- `TargetType.isNormal`: no optional type stands directly inside of another.
- `TargetType.layers`: the number of arrays and optional types around the leaf.

Main results:

- Theorem `isNormal_of_resolveWithin` and `layers_lt_of_resolveWithin`: what resolving gives is normal, and has
  fewer layers than are allowed.
- Theorem `isOptional_iff_of_resolveWithin`: a property may be left out exactly if its type ends in a question
  mark.
- Theorem `Core.isInfix` and `Core.not_encloses`: the core of a type is a part of it that has no layer.
- Theorem `resolved_type_is_normal`: what is known of every type that is resolved.
-/

namespace InterfaceGen

open Text

namespace TargetType

/-! ## Normal types -/

/-- Whether no optional type stands directly inside of another. -/
def isNormal : TargetType → Bool
  | primitive _ => true
  | reference _ => true
  | array element => element.isNormal
  | optional inner => !inner.isOptional && inner.isNormal

/-- The number of arrays and optional types around the leaf. -/
def layers : TargetType → Nat
  | primitive _ => 0
  | reference _ => 0
  | array element => element.layers + 1
  | optional inner => inner.layers + 1

/-- Values that may be absent have an optional type. -/
@[simp] theorem isOptional_orAbsent (type : TargetType) : type.orAbsent.isOptional = true := by
  cases type <;> rfl

/-- A normal type stays normal if its values may be absent. -/
theorem isNormal_orAbsent {type : TargetType} (h : type.isNormal = true) : type.orAbsent.isNormal = true := by
  cases type with
  | primitive name => rfl
  | reference name => rfl
  | array element => exact h
  | optional inner => exact h

/-- At most one layer is added if values may be absent. -/
theorem layers_orAbsent_le (type : TargetType) : type.orAbsent.layers ≤ type.layers + 1 := by
  cases type with
  | primitive name => exact Nat.le_refl 1
  | reference name => exact Nat.le_refl 1
  | array element => exact Nat.le_refl _
  | optional inner => exact Nat.le_succ _

/-- The type of a property that is left of a normal type is not optional. -/
theorem isOptional_binding_type {type : TargetType} (h : type.isNormal = true) :
    type.binding.type.isOptional = false := by
  cases type with
  | primitive name => rfl
  | reference name => rfl
  | array element => rfl
  | optional inner =>
    rw [isNormal, Bool.and_eq_true, Bool.not_eq_eq_eq_not, Bool.not_true] at h
    exact h.1

/-- A property may be left out exactly if its type is optional. -/
@[simp] theorem isOptional_binding (type : TargetType) : type.binding.isOptional = type.isOptional := by
  cases type <;> rfl

end TargetType

/-- What a name stands for is normal and has no layers. -/
theorem plain_meaningOf (v : Vocabulary) (name : Text) :
    (v.meaningOf name).isNormal = true ∧ (v.meaningOf name).layers = 0 ∧
      (v.meaningOf name).isOptional = false := by
  unfold Vocabulary.meaningOf
  cases v.target? name with
  | none => exact ⟨rfl, rfl, rfl⟩
  | some target => exact ⟨rfl, rfl, rfl⟩

/-! ## Cores -/

namespace Vocabulary

variable {v : Vocabulary}

/-- What a type encloses is a part of it. -/
theorem infix_of_encloses {t u : Text} (h : v.Encloses t u) : u <:+: t := by
  cases h with
  | marks n hbase => exact (List.prefix_append _ _).isInfix
  | @collection wrapper element hwrapper hangle helement =>
    exact ⟨wrapper ++ ['<'], ['>'], by simp⟩

/-- The core of a type is a part of it. -/
theorem Core.isInfix {t core : Text} (h : v.Core t core) : core <:+: trim t := by
  induction h with
  | name hname => exact List.infix_rfl
  | layer hlayer hcore ih => exact (ih.trans (trim_isInfix _)).trans (infix_of_encloses hlayer)

/-- There are no blanks around the core of a type. -/
theorem Core.trim_eq {t core : Text} (h : v.Core t core) : trim core = core := by
  induction h with
  | @name t hname => exact trim_trim t
  | layer hlayer hcore ih => exact ih

/-- The core of a type has no layers. -/
theorem Core.not_encloses {t core : Text} (h : v.Core t core) : ∀ u, ¬ v.Encloses core u := by
  induction h with
  | name hname => exact hname
  | layer hlayer hcore ih => exact ih

/-- A text without layers does not end in a question mark. -/
theorem getLast?_ne_mark {t : Text} (h : ∀ u, ¬ v.Encloses t u) : t.getLast? ≠ some '?' := by
  intro hlast
  obtain ⟨n, hmarks⟩ := exists_marks hlast
  have hlayer : v.Encloses (dropMarks t ++ List.replicate (n + 1) '?') (dropMarks t) :=
    .marks n (getLast?_dropMarks t)
  rw [← hmarks] at hlayer
  exact h _ hlayer

end Vocabulary

/-! ## Resolution -/

namespace Scope

variable {scope : Scope}

/-- What resolving gives is normal. -/
theorem isNormal_of_resolveWithin {allowance : Nat} {t : Text} {type : TargetType}
    (h : (scope.resolveWithin allowance t).value = .ok type) : type.isNormal = true := by
  induction allowance generalizing t type with
  | zero => cases h
  | succ allowance ih =>
    rw [value_resolveWithin_succ] at h
    cases hpeel : scope.vocabulary.peel (trim t) with
    | optional inner =>
      rw [hpeel] at h
      obtain ⟨innerType, hinner, rfl⟩ := map_eq_ok_iff.1 h
      exact TargetType.isNormal_orAbsent (ih hinner)
    | collection element =>
      rw [hpeel] at h
      obtain ⟨elementType, helement, rfl⟩ := map_eq_ok_iff.1 h
      have hnormal : elementType.isNormal = true := ih helement
      exact hnormal
    | name name =>
      rw [hpeel] at h
      obtain ⟨-, -, rfl⟩ := meaningOf_of_targetOfName h
      exact (plain_meaningOf _ _).1

/-- What resolving gives has fewer layers than are allowed. -/
theorem layers_lt_of_resolveWithin {allowance : Nat} {t : Text} {type : TargetType}
    (h : (scope.resolveWithin allowance t).value = .ok type) : type.layers < allowance := by
  induction allowance generalizing t type with
  | zero => cases h
  | succ allowance ih =>
    rw [value_resolveWithin_succ] at h
    cases hpeel : scope.vocabulary.peel (trim t) with
    | optional inner =>
      rw [hpeel] at h
      obtain ⟨innerType, hinner, rfl⟩ := map_eq_ok_iff.1 h
      have hlayer := innerType.layers_orAbsent_le
      have hlt := ih hinner
      omega
    | collection element =>
      rw [hpeel] at h
      obtain ⟨elementType, helement, rfl⟩ := map_eq_ok_iff.1 h
      exact Nat.succ_lt_succ (ih helement)
    | name name =>
      rw [hpeel] at h
      obtain ⟨-, -, rfl⟩ := meaningOf_of_targetOfName h
      rw [(plain_meaningOf _ _).2.1]
      exact Nat.succ_pos allowance

/-- What resolving gives is optional exactly if the text ends in a question mark. -/
theorem isOptional_iff_of_resolveWithin {allowance : Nat} {t : Text} {type : TargetType}
    (h : (scope.resolveWithin allowance t).value = .ok type) :
    type.isOptional = true ↔ (trim t).getLast? = some '?' := by
  cases allowance with
  | zero => cases h
  | succ allowance =>
    rw [value_resolveWithin_succ, Vocabulary.peel] at h
    by_cases hlast : (trim t).getLast? = some '?'
    · rw [if_pos hlast] at h
      obtain ⟨innerType, -, rfl⟩ := map_eq_ok_iff.1 h
      simp [hlast]
    · rw [if_neg hlast] at h
      refine iff_of_false (Bool.eq_false_iff.1 ?_) hlast
      cases hfound : scope.vocabulary.element? (trim t) with
      | some element =>
        rw [hfound] at h
        obtain ⟨elementType, -, rfl⟩ := map_eq_ok_iff.1 h
        rfl
      | none =>
        rw [hfound] at h
        obtain ⟨-, -, rfl⟩ := meaningOf_of_targetOfName h
        exact (plain_meaningOf _ _).2.2

end Scope

/-- What is known of every type that is resolved, in any scope and of any text.  No optional type stands
directly inside of another one, and there are at most 64 layers.  The property may be left out exactly if the
text ends in a question mark, and what is left of its type is not optional.  All layers are around what a name
stands for: a scalar of the vocabulary, or another type of this name.  The name is a part of the text that is
not empty, has no blanks around it, does not end in a question mark, and is not a known collection around
anything. -/
theorem resolved_type_is_normal {scope : Scope} {source : Text} {type : TargetType}
    (h : (scope.resolve source).value = .ok type) :
    type.isNormal = true ∧ type.layers ≤ 64 ∧
    (type.binding.isOptional = true ↔ (trim source).getLast? = some '?') ∧
    type.binding.type.isOptional = false ∧
    ∃ name, name ≠ [] ∧ name <:+: trim source ∧ trim name = name ∧ name.getLast? ≠ some '?' ∧
      (∀ wrapper element, name = wrapper ++ '<' :: (element ++ ['>']) →
        scope.vocabulary.isCollection wrapper = true → '<' ∉ wrapper → element = []) ∧
      ((∃ target, scope.vocabulary.entry? (lowercase name) = some target ∧
          type.leaf = .primitive target) ∨
        (scope.vocabulary.target? name = none ∧ type.leaf = .reference name ∧
          (scope.isStrict = true → name ∈ scope.declared))) := by
  have hnormal := Scope.isNormal_of_resolveWithin h
  have hlayers : type.layers ≤ 64 := Nat.lt_succ_iff.1 (Scope.layers_lt_of_resolveWithin h)
  have hoptional := Scope.isOptional_iff_of_resolveWithin h
  obtain ⟨name, hcore, hne, haccepts, hleaf⟩ := Scope.exists_core_of_resolve h
  have hbare := hcore.not_encloses
  refine ⟨hnormal, hlayers, by rwa [TargetType.isOptional_binding],
    TargetType.isOptional_binding_type hnormal, name, hne, hcore.isInfix, hcore.trim_eq,
    Vocabulary.getLast?_ne_mark hbare, ?_, ?_⟩
  · rintro wrapper element rfl hwrapper hangle
    exact Classical.byContradiction fun helement => hbare element (.collection hwrapper hangle helement)
  · cases htarget : scope.vocabulary.target? name with
    | some target =>
      rw [Vocabulary.meaningOf, htarget] at hleaf
      exact .inl ⟨target, htarget, hleaf⟩
    | none =>
      rw [Vocabulary.meaningOf, htarget] at hleaf
      refine .inr ⟨rfl, hleaf, fun hstrict => ?_⟩
      rcases haccepts with hlenient | hscalar | hdeclared
      · rw [hstrict] at hlenient
        cases hlenient
      · rw [htarget] at hscalar
        cases hscalar
      · exact hdeclared

/-- Blanks and question marks at many places of a type. -/
def markedSource : Text :=
  " List< Lookup<int>? ?>? ".toList

/-- What the marked source stands for. -/
def markedType : TargetType :=
  .optional (.array (.optional (.reference "Lookup<int>".toList)))

/-- Two marks with a blank between them give one optional layer, as does the mark behind the type, and no mark is
left at the end of the bare name. -/
theorem markedSource_is_normal :
    ((Scope.mk Vocabulary.standard false []).resolve markedSource).value = .ok markedType ∧
      markedType.isNormal = true ∧ markedType.layers ≤ 64 ∧
      (markedType.binding.isOptional = true ↔ (trim markedSource).getLast? = some '?') ∧
      ∃ name, name <:+: trim markedSource ∧ name.getLast? ≠ some '?' ∧ markedType.leaf = .reference name := by
  have hresolve : ((Scope.mk Vocabulary.standard false []).resolve markedSource).value = .ok markedType :=
    eq_ok_of_toOption (by decide +kernel)
  obtain ⟨hnormal, hlayers, hoptional, -, name, -, hpart, -, hlast, -, hleaf⟩ :=
    resolved_type_is_normal hresolve
  refine ⟨hresolve, hnormal, hlayers, hoptional, name, hpart, hlast, ?_⟩
  rcases hleaf with ⟨target, -, hprimitive⟩ | ⟨-, hreference, -⟩
  · cases hprimitive
  · exact hreference

end InterfaceGen
