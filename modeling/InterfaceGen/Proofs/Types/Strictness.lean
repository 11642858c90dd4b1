import InterfaceGen.Proofs.Types.Core

/-!
# Strict resolution

A strict scope refuses names that are neither scalars nor declared.  The refusal happens at the core of a
type, below all of its layers, but amounts to a check of the target type that is found without
strictness: whether what it is made of is grounded.

Main definitions:

- `Scope.strict`, `Scope.lenient`: a scope with strictness, and without.
- `TargetType.GroundedIn`: a target type is made of a scalar or of a declared type.
- `TargetType.checkedIn`: the check for it, with the error for a type that is not.

Main results:

- Theorem `value_resolve_strict`: resolving strictly is resolving leniently, and then checking.
- Theorem `checkedIn_eq_ok_iff` and `checkedIn_eq_error_iff`: what passes the check, and what is said of a
  type that does not.
-/

namespace InterfaceGen

open Text

/-! ## Grounded types -/

namespace TargetType

/-- A target type is made of a scalar, or of a type with one of these names. -/
def GroundedIn (names : List Text) (type : TargetType) : Prop :=
  (∃ target, type.leaf = .primitive target) ∨ ∃ name ∈ names, type.leaf = .reference name

/-- A target type if it is grounded in names; if not, what it is made of is reported. -/
def checkedIn (names : List Text) (type : TargetType) : Except TypeError TargetType :=
  match type.leaf with
  | .reference name => if name ∈ names then .ok type else .error (.unmappable name)
  | _ => .ok type

/-- A target type is made of a scalar or of another type. -/
theorem leaf_cases (type : TargetType) :
    (∃ target, type.leaf = .primitive target) ∨ ∃ name, type.leaf = .reference name := by
  induction type with
  | primitive target => exact .inl ⟨target, rfl⟩
  | reference name => exact .inr ⟨name, rfl⟩
  | array element ih => exact ih
  | optional inner ih => exact ih

/-- A type passes the check as it is if and only if it is grounded. -/
theorem checkedIn_eq_ok_iff {names : List Text} {type result : TargetType} :
    type.checkedIn names = .ok result ↔ type.GroundedIn names ∧ result = type := by
  unfold checkedIn GroundedIn
  rcases type.leaf_cases with ⟨target, hleaf⟩ | ⟨name, hleaf⟩
  · simp [hleaf, eq_comm]
  · by_cases hname : name ∈ names
    · simp [hleaf, hname, eq_comm]
    · simp [hleaf, hname]

/-- A type fails the check if and only if it is made of a type that has none of the names. -/
theorem checkedIn_eq_error_iff {names : List Text} {type : TargetType} {cause : TypeError} :
    type.checkedIn names = .error cause ↔
      ∃ name, type.leaf = .reference name ∧ name ∉ names ∧ cause = .unmappable name := by
  unfold checkedIn
  rcases type.leaf_cases with ⟨target, hleaf⟩ | ⟨name, hleaf⟩
  · simp [hleaf]
  · by_cases hname : name ∈ names
    · simp [hleaf, hname]
    · simp [hleaf, hname, eq_comm]

/-- It does not matter to the check whether a layer is put around a type before or after. -/
theorem bind_checkedIn_map (names : List Text) {layer : TargetType → TargetType}
    (hleaf : ∀ type, (layer type).leaf = type.leaf) (result : Except TypeError TargetType) :
    (result.map layer).bind (checkedIn names) = (result.bind (checkedIn names)).map layer := by
  cases result with
  | error cause => rfl
  | ok type =>
    change (layer type).checkedIn names = (type.checkedIn names).map layer
    rcases type.leaf_cases with ⟨target, hprimitive⟩ | ⟨name, hreference⟩
    · simp [checkedIn, hleaf, hprimitive, Except.map]
    · by_cases hname : name ∈ names
      · simp [checkedIn, hleaf, hreference, hname, Except.map]
      · simp [checkedIn, hleaf, hreference, hname, Except.map]

end TargetType

/-! ## Strict scopes -/

namespace Scope

/-- A scope with strictness. -/
def strict (scope : Scope) : Scope :=
  { scope with isStrict := true }

/-- A scope without strictness. -/
def lenient (scope : Scope) : Scope :=
  { scope with isStrict := false }

@[simp] theorem vocabulary_strict (scope : Scope) : scope.strict.vocabulary = scope.vocabulary := rfl

@[simp] theorem vocabulary_lenient (scope : Scope) : scope.lenient.vocabulary = scope.vocabulary := rfl

/-- A strict scope resolves a name as a lenient one does, and then checks what it stands for. -/
theorem value_targetOfName_strict (scope : Scope) (name : Text) :
    (scope.strict.targetOfName name).value =
      (scope.lenient.targetOfName name).value.bind (TargetType.checkedIn scope.declared) := by
  by_cases hempty : name = []
  · subst hempty
    rfl
  · have hlenient : scope.lenient.Accepts name := .inl rfl
    rw [value_targetOfName _ hempty, value_targetOfName _ hempty, if_pos hlenient]
    change _ = (scope.vocabulary.meaningOf name).checkedIn scope.declared
    unfold Vocabulary.meaningOf TargetType.checkedIn
    cases htarget : scope.vocabulary.target? name with
    | some target => simp [strict, Accepts, TargetType.leaf, htarget]
    | none => simp [strict, Accepts, TargetType.leaf, htarget]

/-- With any number of layers allowed, resolving strictly is resolving leniently and then checking. -/
theorem value_resolveWithin_strict (scope : Scope) (allowance : Nat) (t : Text) :
    (scope.strict.resolveWithin allowance t).value =
      (scope.lenient.resolveWithin allowance t).value.bind (TargetType.checkedIn scope.declared) := by
  induction allowance generalizing t with
  | zero => rfl
  | succ allowance ih =>
    rw [value_resolveWithin_succ, value_resolveWithin_succ, vocabulary_strict, vocabulary_lenient]
    cases scope.vocabulary.peel (trim t) with
    | optional inner =>
      have hcommute := TargetType.bind_checkedIn_map scope.declared TargetType.leaf_orAbsent
        (scope.lenient.resolveWithin allowance inner).value
      exact (congrArg (Except.map TargetType.orAbsent) (ih inner)).trans hcommute.symm
    | collection element =>
      have hleaf : ∀ type, (TargetType.array type).leaf = type.leaf := fun _ => rfl
      have hcommute := TargetType.bind_checkedIn_map scope.declared hleaf
        (scope.lenient.resolveWithin allowance element).value
      exact (congrArg (Except.map TargetType.array) (ih element)).trans hcommute.symm
    | name name => exact scope.value_targetOfName_strict name

/-- Resolving strictly is resolving leniently and then checking whether the type is grounded in the declared
names. -/
theorem value_resolve_strict (scope : Scope) (t : Text) :
    (scope.strict.resolve t).value =
      (scope.lenient.resolve t).value.bind (TargetType.checkedIn scope.declared) :=
  scope.value_resolveWithin_strict _ t

end Scope

end InterfaceGen
