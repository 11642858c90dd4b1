import InterfaceGen.Proofs.Types.Core
import InterfaceGen.Proofs.Types.Nesting

/-!
# What an error says of a type

Resolving descends from layer to layer and trims what it finds there, until it comes to a text without
layers or has used up all layers that are allowed.  So every error of any text, in a scope that is strict or
not, names a part of the text: a name that the scope does not accept, what is left 65 layers down, or the
empty text.

Main definitions:

- `Vocabulary.Inside`: what stands inside a type a number of layers down.
- `Scope.Explains`: what an error says of a type.

Main results:

- Theorem `resolveWithin_eq_error_iff_explains`: when resolving fails with any number of layers allowed, and
  with which error.
- Theorem `resolve_eq_error_iff_explains`: when resolving fails, and with which error.
-/

namespace InterfaceGen

open Text

namespace Vocabulary

variable (v : Vocabulary)

/-- What stands inside a type a number of layers down, without the blanks around it. -/
inductive Inside : Nat → Text → Text → Prop
  /-- Without layers it is the type itself. -/
  | here (t : Text) : Inside 0 t (trim t)
  /-- One layer further down it is what stands inside the text that the outermost layer encloses. -/
  | within {k : Nat} {t u w : Text} (hlayer : v.Encloses (trim t) u) (hrest : Inside k u w) :
    Inside (k + 1) t w

variable {v}

/-- No layers down there is the type itself. -/
theorem inside_zero_iff {t w : Text} : v.Inside 0 t w ↔ w = trim t := by
  constructor
  · intro h
    cases h
    rfl
  · rintro rfl
    exact .here t

/-- What is inside a type is inside what its outermost layer encloses, one layer less down. -/
theorem inside_succ_iff {t u w : Text} (hlayer : v.Encloses (trim t) u) (k : Nat) :
    v.Inside (k + 1) t w ↔ v.Inside k u w := by
  constructor
  · intro h
    cases h with
    | within hfirst hrest => rwa [encloses_unique v hlayer hfirst]
  · exact .within hlayer

/-- Nothing else is inside a type without layers. -/
theorem inside_iff_of_name {t w : Text} (hname : ∀ u, ¬ v.Encloses (trim t) u) (k : Nat) :
    v.Inside k t w ↔ k = 0 ∧ w = trim t := by
  constructor
  · intro h
    cases h with
    | here => exact ⟨rfl, rfl⟩
    | within hlayer hrest => exact absurd hlayer (hname _)
  · rintro ⟨rfl, rfl⟩
    exact .here t

/-- A text without layers is found inside a type as it is found inside what the outermost layer encloses. -/
theorem exists_inside_succ_iff {t u core : Text} (hcore : ∀ w, ¬ v.Encloses core w)
    (hlayer : v.Encloses (trim t) u) (allowance : Nat) :
    (∃ k < allowance + 1, v.Inside k t core) ↔ ∃ k < allowance, v.Inside k u core := by
  constructor
  · rintro ⟨k, hk, hinside⟩
    cases k with
    | zero =>
      rw [inside_zero_iff.1 hinside] at hcore
      exact absurd hlayer (hcore u)
    | succ k => exact ⟨k, by omega, (inside_succ_iff hlayer k).1 hinside⟩
  · rintro ⟨k, hk, hinside⟩
    exact ⟨k + 1, by omega, .within hlayer hinside⟩

/-- The empty text has no layers. -/
theorem not_encloses_nil (u : Text) : ¬ v.Encloses [] u :=
  fun hlayer => ne_nil_of_encloses hlayer rfl

end Vocabulary

namespace Scope

variable (scope : Scope)

/-- What an error says of a type with some number of layers allowed: a name that the scope does not accept
stands inside fewer layers, the part that is reported stands inside all these layers, or nothing is left
inside fewer. -/
def ExplainsWithin (allowance : Nat) (t : Text) : TypeError → Prop
  | .unmappable name => name ≠ [] ∧ ¬ scope.Accepts name ∧ (∀ u, ¬ scope.vocabulary.Encloses name u) ∧
      ∃ k < allowance, scope.vocabulary.Inside k t name
  | .malformed part => scope.vocabulary.Inside allowance t part ∨
      (part = [] ∧ ∃ k < allowance, scope.vocabulary.Inside k t [])

/-- What an error says of a type: inside of at most 64 layers there is a name that is no scalar and not
declared, in a strict scope; or inside of 65 layers there is the part that is reported; or inside of at most
64 layers there is nothing. -/
def Explains (t : Text) : TypeError → Prop
  | .unmappable name =>
      scope.isStrict = true ∧ scope.vocabulary.target? name = none ∧ name ∉ scope.declared ∧
        name ≠ [] ∧ (∀ u, ¬ scope.vocabulary.Encloses name u) ∧
        ∃ k ≤ 64, scope.vocabulary.Inside k t name
  | .malformed part => scope.vocabulary.Inside 65 t part ∨
      (part = [] ∧ ∃ k ≤ 64, scope.vocabulary.Inside k t [])

variable {scope}

/-! ## Names -/

/-- A name is not accepted in a strict scope only, and if it is neither a scalar nor declared. -/
theorem not_accepts_iff {name : Text} :
    ¬ scope.Accepts name ↔
      scope.isStrict = true ∧ scope.vocabulary.target? name = none ∧ name ∉ scope.declared := by
  unfold Accepts
  rw [not_or, not_or, Bool.not_eq_false, Bool.not_eq_true, Option.isSome_eq_false_iff,
    Option.isNone_iff_eq_none]

/-- A name is reported as unmappable exactly if it is not accepted; the empty text is never. -/
theorem targetOfName_eq_unmappable_iff {t name : Text} :
    (scope.targetOfName t).value = .error (.unmappable name) ↔
      name = t ∧ name ≠ [] ∧ ¬ scope.Accepts name := by
  by_cases hempty : t = []
  · subst hempty
    have hvalue : (scope.targetOfName []).value = .error (.malformed []) := rfl
    rw [hvalue]
    constructor
    · intro h
      cases h
    · rintro ⟨rfl, hne, -⟩
      exact absurd rfl hne
  · rw [value_targetOfName scope hempty]
    constructor
    · intro h
      split at h
      · cases h
      · next hrefused =>
        obtain rfl := TypeError.unmappable.inj (Except.error.inj h)
        exact ⟨rfl, hempty, hrefused⟩
    · rintro ⟨rfl, -, hrefused⟩
      rw [if_neg hrefused]

/-- Only the empty text is reported as malformed instead of a name. -/
theorem targetOfName_eq_malformed_iff {t part : Text} :
    (scope.targetOfName t).value = .error (.malformed part) ↔ part = [] ∧ [] = t := by
  by_cases hempty : t = []
  · subst hempty
    have hvalue : (scope.targetOfName []).value = .error (.malformed []) := rfl
    simp [hvalue, eq_comm]
  · have hother : ¬ [] = t := fun h => hempty h.symm
    rw [value_targetOfName scope hempty]
    split <;> simp [hother]

/-- The error of a type without layers is explained by the name that the type is. -/
theorem explainsWithin_succ_iff_of_name {t : Text}
    (hname : ∀ u, ¬ scope.vocabulary.Encloses (trim t) u) (allowance : Nat) (cause : TypeError) :
    scope.ExplainsWithin (allowance + 1) t cause ↔ (scope.targetOfName (trim t)).value = .error cause := by
  have hhere : ∀ core, (∃ k < allowance + 1, scope.vocabulary.Inside k t core) ↔ core = trim t := by
    intro core
    simp only [Vocabulary.inside_iff_of_name hname]
    exact ⟨fun ⟨_, _, _, hcore⟩ => hcore, fun hcore => ⟨0, Nat.succ_pos allowance, rfl, hcore⟩⟩
  cases cause with
  | unmappable name =>
    simp only [ExplainsWithin, hhere, targetOfName_eq_unmappable_iff]
    constructor
    · rintro ⟨hne, hrefused, -, rfl⟩
      exact ⟨rfl, hne, hrefused⟩
    · rintro ⟨rfl, hne, hrefused⟩
      exact ⟨hne, hrefused, hname, rfl⟩
  | malformed part =>
    have hdeep : ¬ scope.vocabulary.Inside (allowance + 1) t part := fun hinside =>
      absurd ((Vocabulary.inside_iff_of_name hname _).1 hinside).1 (Nat.succ_ne_zero allowance)
    simp only [ExplainsWithin, hhere, hdeep, targetOfName_eq_malformed_iff, false_or]

/-! ## Layers -/

/-- An error says of a type what it says of the text inside its outermost layer, with one layer less
allowed. -/
theorem explainsWithin_succ_iff {t u : Text} (hlayer : scope.vocabulary.Encloses (trim t) u)
    (allowance : Nat) (cause : TypeError) :
    scope.ExplainsWithin (allowance + 1) t cause ↔ scope.ExplainsWithin allowance u cause := by
  cases cause with
  | unmappable name =>
    refine and_congr_right fun _ => and_congr_right fun _ => and_congr_right fun hname => ?_
    exact Vocabulary.exists_inside_succ_iff hname hlayer allowance
  | malformed part =>
    refine or_congr (Vocabulary.inside_succ_iff hlayer allowance) (and_congr_right fun _ => ?_)
    exact Vocabulary.exists_inside_succ_iff Vocabulary.not_encloses_nil hlayer allowance

/-- With any number of layers allowed, resolving fails with the errors that explain it. -/
theorem resolveWithin_eq_error_iff_explains (allowance : Nat) {t : Text} {cause : TypeError} :
    (scope.resolveWithin allowance t).value = .error cause ↔ scope.ExplainsWithin allowance t cause := by
  -- By induction on the allowance: one layer is used up by each descent.
  induction allowance generalizing t with
  | zero =>
    have hvalue : (scope.resolveWithin 0 t).value = .error (.malformed (trim t)) := rfl
    cases cause with
    | unmappable name => simp [hvalue, ExplainsWithin]
    | malformed part => simp [hvalue, ExplainsWithin, Vocabulary.inside_zero_iff, eq_comm]
  | succ allowance ih =>
    rw [value_resolveWithin_succ]
    rcases peel_cases scope.vocabulary (trim t) with
      ⟨inner, hpeel, hlayer⟩ | ⟨element, hpeel, hlayer⟩ | ⟨hpeel, hname⟩
    · simp only [hpeel, map_eq_error_iff, ih, explainsWithin_succ_iff hlayer]
    · simp only [hpeel, map_eq_error_iff, ih, explainsWithin_succ_iff hlayer]
    · simp only [hpeel]
      exact (explainsWithin_succ_iff_of_name hname allowance _).symm

/-- Resolving fails with the errors that explain it. -/
theorem resolve_eq_error_iff_explains {t : Text} {cause : TypeError} :
    (scope.resolve t).value = .error cause ↔ scope.Explains t cause := by
  rw [resolve, resolveWithin_eq_error_iff_explains]
  cases cause with
  | unmappable name =>
    simp only [ExplainsWithin, Explains, not_accepts_iff, maxLayers, Nat.lt_succ_iff]
    tauto
  | malformed part => simp only [ExplainsWithin, Explains, maxLayers, Nat.lt_succ_iff]

end Scope

end InterfaceGen
