import InterfaceGen.Types.Vocabulary
import Mathlib.Data.List.Induction

/-!
# Vocabularies by their history

A vocabulary is made from a built-in one by adding scalars and collections, in any order and number.  What it
says of a name is decided by the last scalar that was added for the name, and by whether the name was added as a
collection.  The keys of its scalars are lower-case names, so two vocabularies that say the same of every name
have the same entries.

Main definitions:

- `Addition`, `Vocabulary.addAll`: something added to a vocabulary, and a vocabulary after a history of
  additions.
- `SetLast`: the target type of the last scalar that a history adds for a name.
- `Vocabulary.HasLowerKeys`: every key is the lower case of a name.

Main results:

- Theorems `target?_addAll` and `isCollection_addAll`: what is said of a name after a history.
- Theorem `hasLowerKeys_addAll`: the keys stay lower-case names.
- Theorem `agrees_iff`: vocabularies are compared by their entries.
- Theorem `vocabularies_are_extensional`: vocabularies with a history are equal if and only if they say the
  same of every name.
-/

namespace InterfaceGen

open Text

/-! ## Histories -/

/-- Something that is added to a vocabulary. -/
inductive Addition where
  | scalar (name target : Text)
  | collection (name : Text)
deriving DecidableEq, Repr

namespace Addition

/-- Whether a scalar is added. -/
def isScalar : Addition → Bool
  | scalar .. => true
  | collection _ => false

/-- Whether a scalar is added that spells a name, in any case. -/
def Spells (name : Text) : Addition → Prop
  | scalar source _ => lowercase source = lowercase name
  | collection _ => False

/-- A vocabulary with an addition. -/
def addTo (v : Vocabulary) : Addition → Vocabulary
  | scalar name target => v.addScalar name target
  | collection name => v.addCollection name

end Addition

/-- The last scalar that a history adds for a name has this target type. -/
def SetLast (history : List Addition) (name target : Text) : Prop :=
  ∃ before source after, history = before ++ .scalar source target :: after ∧
    lowercase source = lowercase name ∧ ∀ addition ∈ after, ¬ addition.Spells name

namespace Vocabulary

/-- A vocabulary after a history of additions. -/
def addAll (v : Vocabulary) (history : List Addition) : Vocabulary :=
  history.foldl Addition.addTo v

@[simp] theorem addAll_nil (v : Vocabulary) : v.addAll [] = v := rfl

@[simp] theorem addAll_append (v : Vocabulary) (before after : List Addition) :
    v.addAll (before ++ after) = (v.addAll before).addAll after :=
  List.foldl_append

@[simp] theorem addAll_singleton (v : Vocabulary) (addition : Addition) :
    v.addAll [addition] = addition.addTo v := rfl

/-! ## Scalars -/

/-- A scalar sets the target type at its lower-case name, and at no other key. -/
theorem entry?_addScalar (v : Vocabulary) (source target key : Text) :
    Vocabulary.entry? (v.addScalar source target) key =
      if lowercase source == key then some target else v.entry? key := by
  unfold entry? addScalar
  rw [List.find?_cons]
  cases lowercase source == key <;> rfl

/-- A scalar decides what the names are looked up to that it spells, and no others. -/
theorem target?_addScalar (v : Vocabulary) (source target name : Text) :
    (v.addScalar source target).target? name =
      if lowercase source = lowercase name then some target else v.target? name := by
  rw [target?, entry?_addScalar, target?]
  simp only [beq_iff_eq]

/-- A collection has no bearing on scalars. -/
@[simp] theorem target?_addCollection (v : Vocabulary) (collection name : Text) :
    (v.addCollection collection).target? name = v.target? name := rfl

/-- The last addition sets what a name is looked up to, or else it is of no concern. -/
theorem setLast_concat (history : List Addition) (last : Addition) (name target : Text) :
    SetLast (history ++ [last]) name target ↔
      (∃ source, last = .scalar source target ∧ lowercase source = lowercase name) ∨
        ¬ last.Spells name ∧ SetLast history name target := by
  constructor
  · rintro ⟨before, source, after, hsplit, hspells, hafter⟩
    rcases List.eq_nil_or_concat after with rfl | ⟨middle, other, rfl⟩
    · obtain ⟨-, hlast⟩ := List.append_inj' hsplit rfl
      exact .inl ⟨source, List.singleton_inj.1 hlast, hspells⟩
    · rw [List.concat_eq_append, ← List.cons_append, ← List.append_assoc] at hsplit
      obtain ⟨hhistory, hlast⟩ := List.append_inj' hsplit rfl
      obtain rfl := List.singleton_inj.1 hlast
      refine .inr ⟨hafter _ (by simp), before, source, middle, hhistory, hspells, fun addition hmem => ?_⟩
      exact hafter addition (by simp [hmem])
  · rintro (⟨source, rfl, hspells⟩ | ⟨hlast, before, source, after, rfl, hspells, hafter⟩)
    · exact ⟨history, source, [], rfl, hspells, by simp⟩
    · refine ⟨before, source, after ++ [last], by simp, hspells, fun addition hmem => ?_⟩
      rcases List.mem_append.1 hmem with hmem | hmem
      · exact hafter addition hmem
      · rwa [List.mem_singleton.1 hmem]

/-- After a history a name is looked up to the target type of the last scalar that was added for it, and if
there is none, to what it was looked up to before. -/
theorem target?_addAll (v : Vocabulary) (history : List Addition) (name target : Text) :
    (v.addAll history).target? name = some target ↔
      SetLast history name target ∨
        (∀ addition ∈ history, ¬ addition.Spells name) ∧ v.target? name = some target := by
  -- By induction on the history from its end, as it is the last addition that may decide.
  induction history using List.reverseRecOn with
  | nil => simp [SetLast]
  | append_singleton history last ih =>
    have hnone : (∀ addition ∈ history ++ [last], ¬ addition.Spells name) ↔
        ¬ last.Spells name ∧ ∀ addition ∈ history, ¬ addition.Spells name := by
      simp [or_imp, forall_and, and_comm]
    rw [addAll_append, addAll_singleton, setLast_concat, hnone]
    cases last with
    | scalar source given =>
      rw [Addition.addTo, target?_addScalar]
      by_cases hspells : lowercase source = lowercase name
      · simp [hspells, Addition.Spells]
      · simp [hspells, Addition.Spells, ih]
    | collection other => simp [Addition.addTo, Addition.Spells, ih]

/-! ## Collections -/

/-- A scalar has no bearing on collections. -/
@[simp] theorem isCollection_addScalar (v : Vocabulary) (source target name : Text) :
    (v.addScalar source target).isCollection name = v.isCollection name := rfl

/-- A collection that is added is the one name that becomes one. -/
theorem isCollection_addCollection (v : Vocabulary) (collection name : Text) :
    (v.addCollection collection).isCollection name = (name == collection || v.isCollection name) :=
  List.contains_cons

/-- After a history the collections are those that were added and those from before. -/
theorem isCollection_addAll (v : Vocabulary) (history : List Addition) (name : Text) :
    (v.addAll history).isCollection name = true ↔
      .collection name ∈ history ∨ v.isCollection name = true := by
  induction history using List.reverseRecOn with
  | nil => simp
  | append_singleton history last ih =>
    rw [addAll_append, addAll_singleton]
    cases last with
    | scalar source target => simp [Addition.addTo, ih]
    | collection other =>
      rw [Addition.addTo, isCollection_addCollection, Bool.or_eq_true, ih]
      simp [or_assoc, or_comm (a := name = other)]

/-! ## Scalars and collections apart -/

/-- The scalars of a history decide what names are looked up to. -/
theorem target?_addAll_scalars (v : Vocabulary) (history : List Addition) (name : Text) :
    (v.addAll (history.filter (·.isScalar))).target? name = (v.addAll history).target? name := by
  induction history using List.reverseRecOn with
  | nil => rfl
  | append_singleton history last ih =>
    rw [List.filter_append]
    cases last with
    | scalar source target =>
      have hkept : [Addition.scalar source target].filter (·.isScalar) = [.scalar source target] := rfl
      simp only [hkept, addAll_append, addAll_singleton, Addition.addTo, target?_addScalar, ih]
    | collection other =>
      have hdropped : [Addition.collection other].filter (·.isScalar) = [] := rfl
      simp only [hdropped, List.append_nil, ih, addAll_append, addAll_singleton, Addition.addTo,
        target?_addCollection]

/-- The collections of a history decide which names are collections. -/
theorem isCollection_addAll_collections (v : Vocabulary) (history : List Addition) (name : Text) :
    (v.addAll (history.filter (!·.isScalar))).isCollection name = (v.addAll history).isCollection name := by
  rw [Bool.eq_iff_iff, isCollection_addAll, isCollection_addAll, List.mem_filter]
  simp [Addition.isScalar]

/-! ## Keys -/

/-- Every key of a vocabulary is the lower case of a name, so that its scalar can be looked up. -/
def HasLowerKeys (v : Vocabulary) : Prop :=
  ∀ scalar ∈ v.scalars, ∃ name, scalar.1 = lowercase name

/-- The keys stay lower-case names with every addition. -/
theorem HasLowerKeys.addTo {v : Vocabulary} (h : v.HasLowerKeys) (addition : Addition) :
    (addition.addTo v).HasLowerKeys := by
  cases addition with
  | scalar name target => exact List.forall_mem_cons.2 ⟨⟨name, rfl⟩, h⟩
  | collection name => exact h

/-- The keys stay lower-case names through a history. -/
theorem hasLowerKeys_addAll {v : Vocabulary} (h : v.HasLowerKeys) (history : List Addition) :
    (v.addAll history).HasLowerKeys := by
  induction history using List.reverseRecOn with
  | nil => exact h
  | append_singleton history last ih =>
    rw [addAll_append]
    exact ih.addTo last

/-! ## Comparison -/

/-- A key that is in no entry is not looked up. -/
theorem entry?_eq_none {v : Vocabulary} {key : Text} (h : ∀ scalar ∈ v.scalars, scalar.1 ≠ key) :
    v.entry? key = none := by
  unfold entry?
  rw [List.find?_eq_none.2 fun scalar hscalar => by simpa using h scalar hscalar]
  rfl

/-- Vocabularies are compared by their entries: each key must have the same target type in both, and each
collection must be in both. -/
theorem agrees_iff (v w : Vocabulary) :
    v.agrees w = true ↔
      (∀ key, v.entry? key = w.entry? key) ∧ ∀ name, v.isCollection name = w.isCollection name := by
  simp only [agrees, Bool.and_eq_true, List.all_eq_true, beq_iff_eq]
  refine and_congr ⟨fun h key => ?_, fun h scalar _ => h scalar.1⟩ ⟨fun h name => ?_, fun h name _ => h name⟩
  · by_cases hkey : ∃ scalar ∈ v.scalars ++ w.scalars, scalar.1 = key
    · obtain ⟨scalar, hmem, rfl⟩ := hkey
      exact h scalar hmem
    · have hnone : ∀ scalar ∈ v.scalars ++ w.scalars, scalar.1 ≠ key := fun scalar hmem heq =>
        hkey ⟨scalar, hmem, heq⟩
      rw [entry?_eq_none fun scalar hmem => hnone scalar (List.mem_append_left _ hmem),
        entry?_eq_none fun scalar hmem => hnone scalar (List.mem_append_right _ hmem)]
  · by_cases hname : name ∈ v.collections ++ w.collections
    · exact h name hname
    · have hv : name ∉ v.collections := fun hmem => hname (List.mem_append_left _ hmem)
      have hw : name ∉ w.collections := fun hmem => hname (List.mem_append_right _ hmem)
      simp [isCollection, hv, hw]

/-- Vocabularies whose keys are lower-case names are equal if and only if they say the same of every name. -/
theorem HasLowerKeys.agrees_iff {v w : Vocabulary} (hv : v.HasLowerKeys) (hw : w.HasLowerKeys) :
    v.agrees w = true ↔ ∀ name, v.target? name = w.target? name ∧ v.isCollection name = w.isCollection name := by
  rw [Vocabulary.agrees_iff, forall_and]
  refine and_congr_left fun _ => ⟨fun h name => h (lowercase name), fun h key => ?_⟩
  by_cases hkey : ∃ name, key = lowercase name
  · obtain ⟨name, rfl⟩ := hkey
    exact h name
  · have hnone : ∀ {u : Vocabulary}, u.HasLowerKeys → u.entry? key = none := fun hu =>
      entry?_eq_none fun scalar hscalar heq => hkey (heq ▸ hu scalar hscalar)
    rw [hnone hv, hnone hw]

/-! ## Built-in vocabularies -/

/-- A vocabulary that a history can begin with. -/
inductive Base where
  | empty
  | minimal
  | standard
deriving DecidableEq, Repr

/-- The built-in vocabularies. -/
def Base.vocabulary : Base → Vocabulary
  | empty => Vocabulary.empty
  | minimal => Vocabulary.minimal
  | standard => Vocabulary.standard

/-- The keys of the built-in vocabularies are lower-case names. -/
theorem Base.hasLowerKeys (base : Base) : base.vocabulary.HasLowerKeys := by
  have hempty : Vocabulary.empty.HasLowerKeys := fun scalar hscalar => absurd hscalar List.not_mem_nil
  -- All of them are made from the empty one.
  obtain ⟨history, hhistory⟩ : ∃ history, base.vocabulary = Vocabulary.empty.addAll history := by
    let few : List Addition := minimalScalars.map (fun s => .scalar s.1 s.2) ++ [.collection "List".toList]
    let more : List Addition :=
      furtherScalars.map (fun s => .scalar s.1 s.2) ++ furtherCollections.map .collection
    cases base with
    | empty => exact ⟨[], rfl⟩
    | minimal => exact ⟨few, rfl⟩
    | standard => exact ⟨few ++ more, rfl⟩
  rw [hhistory]
  exact hasLowerKeys_addAll hempty history

/-- Two vocabularies that are made from built-in ones are equal if and only if they say the same of every name.
What they say is decided by their histories: a name is looked up to the target type of the last scalar whose
source has the same lower case, and else to what the built-in vocabulary says; a name is a collection if it was
added as one, or is one in the built-in vocabulary.  Scalars have no bearing on collections, and collections have
none on scalars. -/
theorem vocabularies_are_extensional (base base' : Base) (history history' : List Addition) :
    let v := base.vocabulary.addAll history
    let w := base'.vocabulary.addAll history'
    (v.agrees w = true ↔ ∀ name, v.target? name = w.target? name ∧ v.isCollection name = w.isCollection name) ∧
      ∀ name,
        (∀ target, v.target? name = some target ↔ SetLast history name target ∨
          (∀ addition ∈ history, ¬ addition.Spells name) ∧ base.vocabulary.target? name = some target) ∧
        (v.isCollection name = true ↔
          .collection name ∈ history ∨ base.vocabulary.isCollection name = true) ∧
        v.target? name = (base.vocabulary.addAll (history.filter (·.isScalar))).target? name ∧
        v.isCollection name = (base.vocabulary.addAll (history.filter (!·.isScalar))).isCollection name := by
  have hkeys : ∀ (base : Base) (history : List Addition), (base.vocabulary.addAll history).HasLowerKeys :=
    fun base history => hasLowerKeys_addAll base.hasLowerKeys history
  refine ⟨(hkeys base history).agrees_iff (hkeys base' history'), fun name => ⟨?_, ?_, ?_, ?_⟩⟩
  · exact target?_addAll base.vocabulary history name
  · exact isCollection_addAll base.vocabulary history name
  · exact (target?_addAll_scalars base.vocabulary history name).symm
  · exact (isCollection_addAll_collections base.vocabulary history name).symm

/-- Three spellings of one name with two forms of sigma: the last of them is looked up. -/
example : (Vocabulary.empty.addAll [.scalar "ΣΑΣ".toList "a".toList, .scalar "σας".toList "b".toList,
    .collection "σας".toList]).target? "Σας".toList = some "b".toList := by
  decide +kernel

end Vocabulary

end InterfaceGen
