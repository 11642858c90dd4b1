import InterfaceGen.Proofs.Results
import InterfaceGen.Proofs.Types.Expression

/-!
# Layer after layer

A scope that is not strict accepts every name, so that resolving fails for two reasons only: a type has
more layers than are allowed, or nothing is left inside its layers.  Both are told here by what a type
encloses some layers down, for every text without blanks, well-formed or not.

Main definitions:

- `Vocabulary.Nests`: what a type encloses a number of layers down.
- `Vocabulary.FailsWithin`: a type fails with a number of layers allowed.
- `Vocabulary.Hollow`: a type has a known collection around question marks only.
- `Vocabulary.Unresolvable`: a type cannot be resolved, and what is reported of it.

Main results:

- Theorem `resolveWithin_eq_error_iff`: when resolving fails with any number of layers allowed.
- Theorem `nests_nil_iff_hollow`: nothing is left inside a type other than question marks if and only if
  it is hollow.
- Theorem `resolve_eq_error_iff`: when resolving fails.
-/

namespace InterfaceGen

open Text

namespace Vocabulary

variable (v : Vocabulary)

/-- A type encloses another a number of layers down. -/
inductive Nests : Nat → Text → Text → Prop
  /-- Without layers it is the same. -/
  | here (t : Text) : Nests 0 t t
  /-- One layer further down is one layer down from what the outermost one encloses. -/
  | within {k : Nat} {t u w : Text} (hlayer : v.Encloses t u) (hrest : Nests k u w) : Nests (k + 1) t w

/-- With some number of layers allowed a type fails and some part of it is reported: what is enclosed all
these layers down, or the empty text if nothing is left within fewer. -/
def FailsWithin (allowance : Nat) (t part : Text) : Prop :=
  v.Nests allowance t part ∨ ((∃ k < allowance, v.Nests k t []) ∧ part = [])

/-- A type has, within the layers that are allowed, a known collection around question marks only. -/
def Hollow (t : Text) : Prop :=
  ∃ k wrapper n, k + 2 ≤ 64 ∧ v.isCollection wrapper = true ∧ '<' ∉ wrapper ∧
    v.Nests k t (wrapper ++ '<' :: (List.replicate (n + 1) '?' ++ ['>']))

/-- A type has more than 64 layers, and 65 layers down there is some part; or it is hollow, and nothing is
left inside of it. -/
def Unresolvable (t part : Text) : Prop :=
  v.Nests 65 t part ∨ (v.Hollow t ∧ part = [])

variable {v}

/-- Without layers a type encloses itself. -/
theorem nests_zero_iff {t w : Text} : v.Nests 0 t w ↔ w = t := by
  constructor
  · intro h
    cases h
    rfl
  · rintro rfl
    exact .here w

/-- What a type encloses is what the text inside its outermost layer encloses one layer less down. -/
theorem nests_succ_iff {t u w : Text} (hlayer : v.Encloses t u) (k : Nat) :
    v.Nests (k + 1) t w ↔ v.Nests k u w := by
  constructor
  · intro h
    cases h with
    | within hfirst hrest => rwa [encloses_unique v hlayer hfirst]
  · exact .within hlayer

/-- A type without layers encloses nothing else. -/
theorem nests_iff_of_name {t w : Text} (hname : ∀ u, ¬ v.Encloses t u) (k : Nat) :
    v.Nests k t w ↔ k = 0 ∧ w = t := by
  constructor
  · intro h
    cases h with
    | here => exact ⟨rfl, rfl⟩
    | within hlayer hrest => exact absurd hlayer (hname _)
  · rintro ⟨rfl, rfl⟩
    exact .here w

/-- What is enclosed one layer further down is enclosed by what was enclosed before. -/
theorem Nests.last {k : Nat} {t w : Text} (h : v.Nests (k + 1) t w) :
    ∃ u, v.Nests k t u ∧ v.Encloses u w := by
  induction k generalizing t with
  | zero =>
    cases h with
    | within hlayer hrest =>
      obtain rfl := nests_zero_iff.1 hrest
      exact ⟨t, .here t, hlayer⟩
  | succ k ih =>
    cases h with
    | within hlayer hrest =>
      obtain ⟨u, hbefore, hlast⟩ := ih hrest
      exact ⟨u, .within hlayer hbefore, hlast⟩

/-- One more layer can be added at the inner end. -/
theorem Nests.snoc {k : Nat} {t u w : Text} (h : v.Nests k t u) (hlayer : v.Encloses u w) :
    v.Nests (k + 1) t w := by
  induction h with
  | here t => exact .within hlayer (.here w)
  | within hfirst hrest ih => exact .within hfirst (ih hlayer)

/-- What a type encloses is made of characters of the type. -/
theorem mem_of_encloses_inner {t u : Text} (h : v.Encloses t u) : ∀ c ∈ u, c ∈ t := by
  intro c hc
  cases h with
  | marks n hbase => exact List.mem_append_left _ hc
  | collection hwrapper hangle helement =>
    exact List.mem_append_right _ (List.mem_cons_of_mem _ (List.mem_append_left _ hc))

/-- A type around something is not empty. -/
theorem ne_nil_of_encloses {t u : Text} (h : v.Encloses t u) : t ≠ [] := by
  rintro rfl
  rcases mem_of_encloses v h with hmem | hmem
  · cases hmem
  · cases hmem

/-- A type fails as what it encloses does with one layer less allowed. -/
theorem failsWithin_succ_iff {t u part : Text} (hlayer : v.Encloses t u) (allowance : Nat) :
    v.FailsWithin (allowance + 1) t part ↔ v.FailsWithin allowance u part := by
  have hnothing : (∃ k < allowance + 1, v.Nests k t []) ↔ ∃ k < allowance, v.Nests k u [] := by
    constructor
    · rintro ⟨k, hk, hnests⟩
      cases k with
      | zero => exact absurd (nests_zero_iff.1 hnests).symm (ne_nil_of_encloses hlayer)
      | succ k => exact ⟨k, by omega, (nests_succ_iff hlayer k).1 hnests⟩
    · rintro ⟨k, hk, hnests⟩
      exact ⟨k + 1, by omega, .within hlayer hnests⟩
  unfold FailsWithin
  rw [nests_succ_iff hlayer, hnothing]

/-- A type without layers fails if and only if it is empty, once a layer is allowed. -/
theorem failsWithin_succ_iff_of_name {t part : Text} (hname : ∀ u, ¬ v.Encloses t u)
    (allowance : Nat) : v.FailsWithin (allowance + 1) t part ↔ t = [] ∧ part = [] := by
  unfold FailsWithin
  rw [nests_iff_of_name hname]
  constructor
  · rintro (⟨habsurd, -⟩ | ⟨⟨k, -, hnests⟩, hpart⟩)
    · cases habsurd
    · exact ⟨((nests_iff_of_name hname k).1 hnests).2.symm, hpart⟩
  · rintro ⟨rfl, hpart⟩
    exact .inr ⟨⟨0, Nat.succ_pos allowance, .here []⟩, hpart⟩

/-! ## Hollow types -/

/-- Only question marks enclose nothing. -/
theorem eq_replicate_of_encloses_nil {u : Text} (h : v.Encloses u []) :
    ∃ n, u = List.replicate (n + 1) '?' := by
  generalize hinner : ([] : Text) = inner at h
  cases h with
  | marks n hbase => exact ⟨n, by rw [← hinner, List.nil_append]⟩
  | collection hwrapper hangle helement => exact absurd hinner.symm helement

/-- Only a collection encloses something that ends in a question mark. -/
theorem exists_wrapper_of_encloses_marks {t : Text} {n : Nat}
    (h : v.Encloses t (List.replicate (n + 1) '?')) :
    ∃ wrapper, t = wrapper ++ '<' :: (List.replicate (n + 1) '?' ++ ['>']) ∧
      v.isCollection wrapper = true ∧ '<' ∉ wrapper := by
  generalize hinner : List.replicate (n + 1) '?' = inner at h
  cases h with
  | marks m hbase =>
    rw [← hinner, List.replicate_succ', List.getLast?_concat] at hbase
    exact absurd rfl hbase
  | @collection wrapper element hwrapper hangle helement => exact ⟨wrapper, rfl, hwrapper, hangle⟩

/-- Nothing is left within the layers of a type that is no run of question marks if and only if it is
hollow. -/
theorem nests_nil_iff_hollow {t : Text} (hne : t ≠ []) (hmarks : ∀ n, t ≠ List.replicate (n + 1) '?') :
    (∃ k < 65, v.Nests k t []) ↔ v.Hollow t := by
  constructor
  · rintro ⟨k, hk, hnests⟩
    cases k with
    | zero => exact absurd (nests_zero_iff.1 hnests).symm hne
    | succ k =>
      obtain ⟨u, hbefore, hnothing⟩ := hnests.last
      obtain ⟨n, rfl⟩ := eq_replicate_of_encloses_nil hnothing
      cases k with
      | zero => exact absurd (nests_zero_iff.1 hbefore).symm (hmarks n)
      | succ k =>
        obtain ⟨u, hbefore, hlast⟩ := hbefore.last
        obtain ⟨wrapper, rfl, hwrapper, hangle⟩ := exists_wrapper_of_encloses_marks hlast
        exact ⟨k, wrapper, n, by omega, hwrapper, hangle, hbefore⟩
  · rintro ⟨k, wrapper, n, hk, hwrapper, hangle, hnests⟩
    have hcollection : v.Encloses (wrapper ++ '<' :: (List.replicate (n + 1) '?' ++ ['>']))
        (List.replicate (n + 1) '?') := .collection hwrapper hangle (by simp)
    have hempty : ([] : Text).getLast? ≠ some '?' := by simp
    have hnothing : v.Encloses (List.replicate (n + 1) '?') [] := .marks n hempty
    exact ⟨k + 2, by omega, (hnests.snoc hcollection).snoc hnothing⟩

end Vocabulary

/-! ## Failing -/

namespace Scope

/-- Resolving a name fails in a scope that is not strict if and only if it is empty. -/
theorem targetOfName_eq_error_iff {scope : Scope} (hlenient : scope.isStrict = false) (name : Text)
    (cause : TypeError) :
    (scope.targetOfName name).value = .error cause ↔ name = [] ∧ cause = .malformed [] := by
  by_cases hname : name = []
  · subst hname
    have hvalue : (scope.targetOfName []).value = .error (.malformed []) := rfl
    rw [hvalue, Except.error.injEq]
    exact ⟨fun h => ⟨rfl, h.symm⟩, fun h => h.2.symm⟩
  · rw [value_targetOfName scope hname, if_pos (.inl hlenient)]
    constructor
    · intro h
      cases h
    · exact fun h => absurd h.1 hname

/-- With any number of layers allowed, resolving a type without blanks fails in a scope that is not strict
if and only if the type has all these layers, or nothing is left within fewer. -/
theorem resolveWithin_eq_error_iff {scope : Scope} (hlenient : scope.isStrict = false) (allowance : Nat)
    {t : Text} (hblank : ∀ c ∈ t, isBlank c = false) (cause : TypeError) :
    (scope.resolveWithin allowance t).value = .error cause ↔
      ∃ part, scope.vocabulary.FailsWithin allowance t part ∧ cause = .malformed part := by
  induction allowance generalizing t with
  | zero =>
    have hvalue : (scope.resolveWithin 0 t).value = .error (.malformed (trim t)) := rfl
    rw [hvalue, trim_of_not_blank hblank, Except.error.injEq]
    constructor
    · rintro rfl
      exact ⟨t, .inl (.here t), rfl⟩
    · rintro ⟨part, hnests | ⟨⟨k, hk, -⟩, -⟩, rfl⟩
      · rw [Vocabulary.nests_zero_iff.1 hnests]
      · exact absurd hk (Nat.not_lt_zero k)
  | succ allowance ih =>
    have hinner : ∀ {u}, scope.vocabulary.Encloses t u → ∀ c ∈ u, isBlank c = false :=
      fun hlayer c hc => hblank c (Vocabulary.mem_of_encloses_inner hlayer c hc)
    rcases peel_cases scope.vocabulary t with
      ⟨inner, hpeel, hlayer⟩ | ⟨element, hpeel, hlayer⟩ | ⟨hpeel, hname⟩
    · have hvalue : (scope.resolveWithin (allowance + 1) t).value =
          (scope.resolveWithin allowance inner).value.map TargetType.orAbsent := by
        rw [resolveWithin, trim_of_not_blank hblank, hpeel]
        rfl
      simp only [hvalue, map_eq_error_iff, ih (hinner hlayer), Vocabulary.failsWithin_succ_iff hlayer]
    · have hvalue : (scope.resolveWithin (allowance + 1) t).value =
          (scope.resolveWithin allowance element).value.map TargetType.array := by
        rw [resolveWithin, trim_of_not_blank hblank, hpeel]
        rfl
      simp only [hvalue, map_eq_error_iff, ih (hinner hlayer), Vocabulary.failsWithin_succ_iff hlayer]
    · have hvalue : (scope.resolveWithin (allowance + 1) t).value = (scope.targetOfName t).value := by
        rw [resolveWithin, trim_of_not_blank hblank, hpeel]
      rw [hvalue, targetOfName_eq_error_iff hlenient]
      simp only [Vocabulary.failsWithin_succ_iff_of_name hname]
      constructor
      · rintro ⟨ht, rfl⟩
        exact ⟨[], ⟨ht, rfl⟩, rfl⟩
      · rintro ⟨part, ⟨ht, rfl⟩, rfl⟩
        exact ⟨ht, rfl⟩

/-- Resolving a type that has no blanks and begins with no question mark fails in a scope that is not
strict if and only if the type has more than 64 layers or is hollow. -/
theorem resolve_eq_error_iff {scope : Scope} (hlenient : scope.isStrict = false) {t : Text}
    (hblank : ∀ c ∈ t, isBlank c = false) (hne : t ≠ [])
    (hmarks : ∀ n, t ≠ List.replicate (n + 1) '?') (cause : TypeError) :
    (scope.resolve t).value = .error cause ↔
      ∃ part, scope.vocabulary.Unresolvable t part ∧ cause = .malformed part := by
  have hhollow := Vocabulary.nests_nil_iff_hollow (v := scope.vocabulary) hne hmarks
  rw [resolve, maxLayers, resolveWithin_eq_error_iff hlenient _ hblank]
  unfold Vocabulary.FailsWithin Vocabulary.Unresolvable
  rw [hhollow]

end Scope

end InterfaceGen
