import InterfaceGen.Proofs.Types.Descent

/-!
# Resolution without a limit

The limit of 64 layers is not needed for resolution to come to an end, as every layer encloses a shorter
text.  Here types are resolved without the limit, and both ways are compared on every text.  They agree, in
the result and in what is reported, as long as at most 64 texts are gone on to, one inside the other; if there
are more, the limit answers with the 65th, whatever stands inside of it.

Main definitions:

- `Scope.resolveUnlimited`: the target type of a source type with any number of layers.
- `Vocabulary.descents`: the texts that resolving a type without a limit goes on to.
- `Scope.GoesOn`: resolving one text goes on to another.

Main results:

- Theorem `length_lt_of_peel`: a layer encloses a shorter text.
- Theorem `isChain_descents`: resolving without a limit goes on from text to text, each shorter than the one
  before.
- Theorems `resolveWithin_eq_unlimited` and `resolveWithin_eq_malformed`: what any number of allowed layers
  comes to.
- Theorem `limit_only_cuts_off`: the limit changes nothing for types within it, and cuts off all others.
-/

namespace InterfaceGen

open Text

/-! ## Shorter texts -/

/-- What is peeled off a type is what one layer of it encloses. -/
theorem encloses_iff_peel {v : Vocabulary} {t u : Text} :
    v.Encloses t u ↔ v.peel t = .optional u ∨ v.peel t = .collection u := by
  constructor
  · exact peel_of_encloses v
  · intro h
    rcases peel_cases v t with ⟨inner, hpeel, hlayer⟩ | ⟨element, hpeel, hlayer⟩ | ⟨hpeel, -⟩
    · obtain rfl : inner = u := by simpa [hpeel] using h
      exact hlayer
    · obtain rfl : element = u := by simpa [hpeel] using h
      exact hlayer
    · simp [hpeel] at h

/-- What a layer encloses is shorter than the whole. -/
theorem length_lt_of_encloses {v : Vocabulary} {t u : Text} (h : v.Encloses t u) : u.length < t.length := by
  cases h with
  | marks n hbase => simp
  | collection hwrapper hangle helement =>
    simp only [List.length_append, List.length_cons]
    omega

/-- What is peeled out of a type, without the blanks around it, is shorter than the type. -/
theorem length_lt_of_peel {v : Vocabulary} {t u : Text}
    (h : v.peel (trim t) = .optional u ∨ v.peel (trim t) = .collection u) : u.length < t.length :=
  (length_lt_of_encloses (encloses_iff_peel.2 h)).trans_le (trim_isInfix t).length_le

/-! ## Resolution -/

/-- The target type of a source type with any number of layers. -/
def Scope.resolveUnlimited (scope : Scope) (source : Text) : Logged (Except TypeError TargetType) :=
  match _peeled : scope.vocabulary.peel (trim source) with
  | .optional inner => do return (← scope.resolveUnlimited inner).map TargetType.orAbsent
  | .collection element => do return (← scope.resolveUnlimited element).map TargetType.array
  | .name name => scope.targetOfName name
termination_by source.length
decreasing_by
  · exact length_lt_of_peel (.inl ‹_›)
  · exact length_lt_of_peel (.inr ‹_›)

/-- The texts that resolving a type without a limit goes on to, from the outside in. -/
def Vocabulary.descents (v : Vocabulary) (source : Text) : List Text :=
  match _peeled : v.peel (trim source) with
  | .optional inner => inner :: v.descents inner
  | .collection element => element :: v.descents element
  | .name _ => []
termination_by source.length
decreasing_by
  · exact length_lt_of_peel (.inl ‹_›)
  · exact length_lt_of_peel (.inr ‹_›)

/-- The texts that are gone on to are found layer by layer. -/
theorem Vocabulary.descents_eq (v : Vocabulary) (t : Text) :
    v.descents t =
      match v.peel (trim t) with
      | .optional inner => inner :: v.descents inner
      | .collection element => element :: v.descents element
      | .name _ => [] := by
  rw [descents]
  split <;> simp only [*]

namespace Scope

variable (scope : Scope)

/-- Without a limit, a type is resolved by its outermost layer. -/
theorem resolveUnlimited_eq (t : Text) :
    scope.resolveUnlimited t =
      match scope.vocabulary.peel (trim t) with
      | .optional inner => do return (← scope.resolveUnlimited inner).map TargetType.orAbsent
      | .collection element => do return (← scope.resolveUnlimited element).map TargetType.array
      | .name name => scope.targetOfName name := by
  rw [resolveUnlimited]
  split <;> simp only [*]

/-- Without a limit, resolving one text goes on to another: a shorter one that a layer of it encloses, and the
layer is put around what that one gives. -/
def GoesOn (outer inner : Text) : Prop :=
  inner.length < outer.length ∧ scope.vocabulary.Encloses (trim outer) inner ∧
    ∃ layer ∈ [TargetType.orAbsent, TargetType.array],
      scope.resolveUnlimited outer = do return (← scope.resolveUnlimited inner).map layer

variable {scope}

/-- Resolving without a limit goes on from the type through all of its descents. -/
theorem isChain_descents (t : Text) : (t :: scope.vocabulary.descents t).IsChain scope.GoesOn := by
  fun_induction Vocabulary.descents scope.vocabulary t with
  | case1 t inner hpeel ih =>
    have hgoes : scope.GoesOn t inner := by
      refine ⟨length_lt_of_peel (.inl hpeel), encloses_iff_peel.2 (.inl hpeel), .orAbsent, by simp, ?_⟩
      rw [resolveUnlimited_eq, hpeel]
    exact .cons_cons hgoes ih
  | case2 t element hpeel ih =>
    have hgoes : scope.GoesOn t element := by
      refine ⟨length_lt_of_peel (.inr hpeel), encloses_iff_peel.2 (.inr hpeel), .array, by simp, ?_⟩
      rw [resolveUnlimited_eq, hpeel]
    exact .cons_cons hgoes ih
  | case3 t name hpeel => exact .singleton t

/-- Resolving without a limit ends at a text that has no layers, which it takes for a name. -/
theorem exists_last_descent (t : Text) :
    ∃ last, (t :: scope.vocabulary.descents t).getLast? = some last ∧
      (∀ u, ¬ scope.vocabulary.Encloses (trim last) u) ∧
      scope.resolveUnlimited last = scope.targetOfName (trim last) := by
  fun_induction Vocabulary.descents scope.vocabulary t with
  | case1 t inner hpeel ih =>
    obtain ⟨last, hlast, hend⟩ := ih
    exact ⟨last, by rw [List.getLast?_cons_cons, hlast], hend⟩
  | case2 t element hpeel ih =>
    obtain ⟨last, hlast, hend⟩ := ih
    exact ⟨last, by rw [List.getLast?_cons_cons, hlast], hend⟩
  | case3 t name hpeel =>
    obtain ⟨hself, hname⟩ : name = trim t ∧ ∀ u, ¬ scope.vocabulary.Encloses (trim t) u := by
      rcases peel_cases scope.vocabulary (trim t) with ⟨inner, h, -⟩ | ⟨element, h, -⟩ | ⟨h, hname⟩
      · simp [hpeel] at h
      · simp [hpeel] at h
      · exact ⟨by simpa [hpeel] using h, hname⟩
    exact ⟨t, rfl, hname, by rw [resolveUnlimited_eq, hpeel, hself]⟩

/-- With more layers allowed than texts are gone on to, the limit changes nothing. -/
theorem resolveWithin_eq_unlimited {allowance : Nat} {t : Text}
    (h : (scope.vocabulary.descents t).length < allowance) :
    scope.resolveWithin allowance t = scope.resolveUnlimited t := by
  induction allowance generalizing t with
  | zero => exact absurd h (Nat.not_lt_zero _)
  | succ allowance ih =>
    rw [Vocabulary.descents_eq] at h
    rw [resolveWithin, resolveUnlimited_eq]
    cases hpeel : scope.vocabulary.peel (trim t) with
    | optional inner =>
      rw [hpeel] at h
      simp only [ih (Nat.lt_of_succ_lt_succ h)]
    | collection element =>
      rw [hpeel] at h
      simp only [ih (Nat.lt_of_succ_lt_succ h)]
    | name name => rfl

/-- With as many layers allowed as texts are gone on to before some text, this text is reported. -/
theorem resolveWithin_eq_malformed {allowance : Nat} {t part : Text}
    (h : (t :: scope.vocabulary.descents t)[allowance]? = some part) :
    scope.resolveWithin allowance t = pure (.error (.malformed (trim part))) := by
  induction allowance generalizing t with
  | zero =>
    obtain rfl : t = part := by simpa using h
    rfl
  | succ allowance ih =>
    rw [List.getElem?_cons_succ, Vocabulary.descents_eq] at h
    rw [resolveWithin]
    cases hpeel : scope.vocabulary.peel (trim t) with
    | optional inner =>
      rw [hpeel] at h
      simp only [ih h]
      rfl
    | collection element =>
      rw [hpeel] at h
      simp only [ih h]
      rfl
    | name name => simp [hpeel] at h

end Scope

/-- The limit is all that resolution is limited by, and it changes nothing else.  Without it, resolving goes on
from text to text, each of them shorter than the one before and what a layer of it encloses, and puts these
layers around what the last one stands for as a name.  If at most 64 texts are gone on to, the limit does not
show in the result or in what is reported; if there are more, nothing is reported, and the result is that the
65th of them is malformed. -/
theorem limit_only_cuts_off (scope : Scope) (source : Text) :
    (source :: scope.vocabulary.descents source).IsChain scope.GoesOn ∧
    (∃ last, (source :: scope.vocabulary.descents source).getLast? = some last ∧
      (∀ u, ¬ scope.vocabulary.Encloses (trim last) u) ∧
      scope.resolveUnlimited last = scope.targetOfName (trim last)) ∧
    scope.resolve source =
      if h : (scope.vocabulary.descents source).length ≤ 64 then scope.resolveUnlimited source
      else pure (.error (.malformed (trim (scope.vocabulary.descents source)[64]))) := by
  refine ⟨Scope.isChain_descents source, Scope.exists_last_descent source, ?_⟩
  split
  · next h => exact Scope.resolveWithin_eq_unlimited (Nat.lt_succ_of_le h)
  · next h =>
    apply Scope.resolveWithin_eq_malformed
    rw [List.getElem?_cons_succ]
    exact List.getElem?_eq_getElem _

end InterfaceGen
