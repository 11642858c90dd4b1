import InterfaceGen.Proofs.Results
import InterfaceGen.Proofs.Types.Expression

/-!
# The core of a type

Resolving takes the layers of a source type away one after the other.  What is left in the end is the
core of the type, a name without layers, and the target type is made of what the core stands for: its
layers are arrays and optional types around one leaf.

Main definitions:

- `Vocabulary.Core`: what is left of a source type without its layers.
- `TargetType.leaf`: what a target type is made of.

Main results:

- Theorem `exists_core_of_resolve`: a type that is resolved has a core that the scope accepts, and is made
  of what its core stands for.
- Theorem `count_text`: a mark that no layer is written with occurs in a type as often as in its leaf.
-/

namespace InterfaceGen

open Text

/-! ## Leaves -/

/-- A name stands for a scalar if and only if it is one. -/
theorem meaningOf_eq_primitive_iff {v : Vocabulary} {name target : Text} :
    v.meaningOf name = .primitive target ↔ v.target? name = some target := by
  unfold Vocabulary.meaningOf
  cases v.target? name with
  | none => simp
  | some found => simp

namespace TargetType

/-- What a target type is made of: the scalar or the other type inside all arrays and optional types. -/
def leaf : TargetType → TargetType
  | primitive name => primitive name
  | reference name => reference name
  | array element => element.leaf
  | optional inner => inner.leaf

/-- Values that may be absent are made of the same. -/
@[simp] theorem leaf_orAbsent (type : TargetType) : type.orAbsent.leaf = type.leaf := by
  cases type <;> rfl

/-- The type of a property is made of the same, whether its optional layer moves to the property or not. -/
@[simp] theorem leaf_binding (type : TargetType) : type.binding.type.leaf = type.leaf := by
  cases type <;> rfl

/-- What stands for a name is its own leaf. -/
@[simp] theorem leaf_meaningOf (v : Vocabulary) (name : Text) :
    (v.meaningOf name).leaf = v.meaningOf name := by
  unfold Vocabulary.meaningOf
  cases v.target? name <;> rfl

/-- A character that layers are not written with occurs in a type as often as in its leaf. -/
theorem count_text {c : Char} (hlayers : c ∉ ['(', ')'] ++ arrayMark ++ absentMark) (type : TargetType) :
    type.text.count c = type.leaf.text.count c := by
  have hopen : '(' ≠ c := by
    rintro rfl
    exact hlayers (by decide)
  have hclose : ')' ≠ c := by
    rintro rfl
    exact hlayers (by decide)
  have harray : arrayMark.count c = 0 := List.count_eq_zero.2 fun h => hlayers (by simp [h])
  have habsent : absentMark.count c = 0 := List.count_eq_zero.2 fun h => hlayers (by simp [h])
  induction type with
  | primitive name => rfl
  | reference name => rfl
  | array element ih =>
    rw [leaf, ← ih, text, List.count_append, harray]
    split
    · simp [hopen, hclose]
    · simp
  | optional inner ih => rw [leaf, ← ih, text, List.count_append, habsent, Nat.add_zero]

end TargetType

/-! ## Cores -/

/-- The core of a source type: the type itself if there is no layer around it, and else the core of what
the outermost layer encloses.  Blanks around a type do not count. -/
inductive Vocabulary.Core (v : Vocabulary) : Text → Text → Prop
  | name {t : Text} (hname : ∀ u, ¬ v.Encloses (trim t) u) : Core v t (trim t)
  | layer {t u core : Text} (hlayer : v.Encloses (trim t) u) (hcore : Core v u core) : Core v t core

namespace Scope

/-- A type is resolved by its outermost layer. -/
theorem value_resolveWithin_succ (scope : Scope) (allowance : Nat) (t : Text) :
    (scope.resolveWithin (allowance + 1) t).value =
      match scope.vocabulary.peel (trim t) with
      | .optional inner => (scope.resolveWithin allowance inner).value.map TargetType.orAbsent
      | .collection element => (scope.resolveWithin allowance element).value.map TargetType.array
      | .name name => (scope.targetOfName name).value := by
  rw [resolveWithin]
  cases scope.vocabulary.peel (trim t) <;> rfl

/-- A name that has a target type is not empty, the scope accepts it, and it is made of what it stands
for. -/
theorem meaningOf_of_targetOfName {scope : Scope} {name : Text} {type : TargetType}
    (h : (scope.targetOfName name).value = .ok type) :
    name ≠ [] ∧ scope.Accepts name ∧ type = scope.vocabulary.meaningOf name := by
  have hne : name ≠ [] := by
    rintro rfl
    cases h
  rw [value_targetOfName scope hne] at h
  split at h
  · next haccepts => exact ⟨hne, haccepts, (Except.ok.inj h).symm⟩
  · cases h

/-- With any number of layers allowed, a type that is resolved has a core that the scope accepts, and is
made of what its core stands for. -/
theorem exists_core_of_resolveWithin {scope : Scope} {allowance : Nat} {t : Text} {type : TargetType}
    (h : (scope.resolveWithin allowance t).value = .ok type) :
    ∃ core, scope.vocabulary.Core t core ∧ core ≠ [] ∧ scope.Accepts core ∧
      type.leaf = scope.vocabulary.meaningOf core := by
  induction allowance generalizing t type with
  | zero => cases h
  | succ allowance ih =>
    rw [value_resolveWithin_succ] at h
    rcases peel_cases scope.vocabulary (trim t) with
      ⟨inner, hpeel, hlayer⟩ | ⟨element, hpeel, hlayer⟩ | ⟨hpeel, hname⟩
    · rw [hpeel] at h
      obtain ⟨innerType, hinner, rfl⟩ := map_eq_ok_iff.1 h
      obtain ⟨core, hcore, hne, haccepts, hleaf⟩ := ih hinner
      exact ⟨core, .layer hlayer hcore, hne, haccepts, by rw [TargetType.leaf_orAbsent, hleaf]⟩
    · rw [hpeel] at h
      obtain ⟨elementType, helement, rfl⟩ := map_eq_ok_iff.1 h
      obtain ⟨core, hcore, hne, haccepts, hleaf⟩ := ih helement
      exact ⟨core, .layer hlayer hcore, hne, haccepts, hleaf⟩
    · rw [hpeel] at h
      obtain ⟨hne, haccepts, rfl⟩ := meaningOf_of_targetOfName h
      exact ⟨trim t, .name hname, hne, haccepts, TargetType.leaf_meaningOf _ _⟩

/-- A type that is resolved has a core that the scope accepts, and is made of what its core stands for. -/
theorem exists_core_of_resolve {scope : Scope} {t : Text} {type : TargetType}
    (h : (scope.resolve t).value = .ok type) :
    ∃ core, scope.vocabulary.Core t core ∧ core ≠ [] ∧ scope.Accepts core ∧
      type.leaf = scope.vocabulary.meaningOf core :=
  exists_core_of_resolveWithin h

end Scope

end InterfaceGen
