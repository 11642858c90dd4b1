import InterfaceGen.Conversion
import InterfaceGen.Proofs.Interface.Blocks
import InterfaceGen.Proofs.Text.ByteOrder
import InterfaceGen.Proofs.Types.Additions
import InterfaceGen.Settings.Basic

/-!
# The vocabulary of settings

Settings add scalars and collections to the standard vocabulary.  Scalars are looked up without regard to case,
so that several of the further ones may spell the same name.  They are added in the order of their spellings;
the last of them is looked up, and the standard vocabulary is asked only if there is none.

Main definitions:

- `Settings.Decides`: the further scalar that is looked up by a name.
- `Options.Alike`: options that say the same of every name.

Main results:

- Theorems `target?_of_decides`, `exists_decides` and `target?_of_undecided`: what a name is looked up to.
- Theorem `isCollection_options_iff`: which names are collections.
- Theorems `interfaces_of_alike` and `convert_of_alike`: only what is said of names bears on a conversion.
-/

namespace InterfaceGen

open Text

/-! ## Additions to a vocabulary -/

namespace Vocabulary

/-- A name is looked up to the last scalar that was added for it. -/
theorem entry?_addScalars (v : Vocabulary) (scalars : List (Text × Text)) (key : Text) :
    Vocabulary.entry? (v.addScalars scalars) key =
      ((scalars.reverse.find? (lowercase ·.1 == key)).map (·.2)).or (v.entry? key) := by
  -- By induction on the scalars: the first of them is looked up only if none of those after it is.
  induction scalars generalizing v with
  | nil => rfl
  | cons scalar rest ih =>
    have hrest : v.addScalars (scalar :: rest) = (v.addScalar scalar.1 scalar.2).addScalars rest := rfl
    rw [hrest, ih, entry?_addScalar, List.reverse_cons, List.find?_append]
    cases rest.reverse.find? (lowercase ·.1 == key) with
    | some last => rfl
    | none =>
      rw [List.find?_singleton]
      cases lowercase scalar.1 == key <;> rfl

/-- Further collections have no bearing on scalars. -/
@[simp] theorem scalars_addCollections (v : Vocabulary) (names : List Text) :
    (v.addCollections names).scalars = v.scalars := by
  induction names generalizing v with
  | nil => rfl
  | cons name rest ih => exact ih (v.addCollection name)

/-- Further scalars have no bearing on collections. -/
@[simp] theorem collections_addScalars (v : Vocabulary) (scalars : List (Text × Text)) :
    (v.addScalars scalars).collections = v.collections := by
  induction scalars generalizing v with
  | nil => rfl
  | cons scalar rest ih => exact ih (v.addScalar scalar.1 scalar.2)

/-- The collections are those from before and the further ones. -/
theorem mem_addCollections_iff (v : Vocabulary) (names : List Text) (name : Text) :
    name ∈ (v.addCollections names).collections ↔ name ∈ v.collections ∨ name ∈ names := by
  induction names generalizing v with
  | nil => simp [addCollections]
  | cons first rest ih =>
    have hrest : v.addCollections (first :: rest) = (v.addCollection first).addCollections rest := rfl
    rw [hrest, ih, addCollection, List.mem_cons, List.mem_cons, or_comm (a := name = first), or_assoc]

end Vocabulary

/-! ## Scalars of settings -/

namespace Settings

variable (s : Settings) (name : Text)

/-- A further scalar decides what a name is looked up to: it spells the name, in any case, and its bytes come
after those of all others that do. -/
structure Decides (key : Text) : Prop where
  is_scalar : key ∈ s.scalarTypes.keys
  spells : lowercase key = lowercase name
  last : ∀ other ∈ s.scalarTypes.keys, lowercase other = lowercase name →
    compare (utf8 other) (utf8 key) ≠ .gt

/-- The last of the further scalars that spell a name. -/
def lastScalar? : Option (Text × Text) :=
  s.scalarTypes.entries.reverse.find? (lowercase ·.1 == lowercase name)

/-- A name is looked up to the last of the further scalars that spell it, and else to what the standard
vocabulary says. -/
theorem target?_options :
    s.options.vocabulary.target? name =
      ((s.lastScalar? name).map (·.2)).or (Vocabulary.standard.target? name) := by
  have hscalars : s.options.vocabulary.entry? (lowercase name) =
      Vocabulary.entry? (Vocabulary.standard.addScalars s.scalarTypes.entries) (lowercase name) := by
    rw [Vocabulary.entry?, Vocabulary.entry?, options, Vocabulary.scalars_addCollections]
  exact hscalars.trans (Vocabulary.entry?_addScalars _ _ _)

variable {s name}

/-- No further scalar spells a name without a last one. -/
theorem lastScalar?_eq_none_iff :
    s.lastScalar? name = none ↔ ∀ key ∈ s.scalarTypes.keys, lowercase key ≠ lowercase name := by
  simp [lastScalar?, SortedMap.keys]

/-- The last of the further scalars that spell a name is greater than all others. -/
theorem of_lastScalar? {key target : Text} (h : s.lastScalar? name = some (key, target)) :
    s.scalarTypes.find? key = some target ∧ lowercase key = lowercase name ∧
      ∀ other ∈ s.scalarTypes.keys, lowercase other = lowercase name →
        other = key ∨ compare other key = .lt := by
  obtain ⟨hspells, behind, before, hsplit, hbehind⟩ := List.find?_eq_some_iff_append.1 h
  have hentries : s.scalarTypes.entries = before.reverse ++ (key, target) :: behind.reverse := by
    rw [← List.reverse_reverse s.scalarTypes.entries, hsplit]
    simp
  refine ⟨SortedMap.find?_eq_some_iff.2 (by simp [hentries]), by simpa using hspells, ?_⟩
  intro other hother hsame
  obtain ⟨entry, hentry, rfl⟩ := List.mem_map.1 hother
  have hsorted := s.scalarTypes.sorted
  rw [hentries, List.pairwise_append] at hsorted
  rw [hentries, List.mem_append, List.mem_cons] at hentry
  rcases hentry with hentry | rfl | hentry
  · exact .inr (hsorted.2.2 entry hentry _ List.mem_cons_self)
  · exact .inl rfl
  · have hnot := hbehind entry (List.mem_reverse.1 hentry)
    simp [hsame] at hnot

/-- The last of the further scalars that spell a name decides what it is looked up to. -/
theorem decides_of_lastScalar? {key target : Text} (h : s.lastScalar? name = some (key, target)) :
    s.Decides name key := by
  obtain ⟨hfind, hspells, hlast⟩ := of_lastScalar? h
  refine ⟨(SortedMap.mem_keys_iff _ _).2 (by simp [hfind]), hspells, fun other hother hsame => ?_⟩
  rw [compare_utf8]
  rcases hlast other hother hsame with rfl | hlt
  · simp
  · simp [hlt]

/-- A name is looked up to the target type of the further scalar that decides. -/
theorem target?_of_decides {key : Text} (h : s.Decides name key) :
    ∃ target, s.scalarTypes.find? key = some target ∧ s.options.vocabulary.target? name = some target := by
  rw [target?_options]
  cases hlast : s.lastScalar? name with
  | none => exact absurd h.spells (lastScalar?_eq_none_iff.1 hlast key h.is_scalar)
  | some entry =>
    obtain ⟨last, target⟩ := entry
    obtain ⟨hfind, hspells, hgreatest⟩ := of_lastScalar? hlast
    -- The deciding scalar is not before the last one, so it is the last one.
    have hkey : key = last := by
      refine (hgreatest key h.is_scalar h.spells).resolve_right fun hlt => ?_
      refine h.last last ((SortedMap.mem_keys_iff _ _).2 (by simp [hfind])) hspells ?_
      rw [compare_utf8]
      exact Std.OrientedCmp.gt_of_lt hlt
    exact ⟨target, hkey ▸ hfind, rfl⟩

/-- If some further scalar spells a name, one of them decides. -/
theorem exists_decides (h : ∃ key ∈ s.scalarTypes.keys, lowercase key = lowercase name) :
    ∃ key, s.Decides name key := by
  obtain ⟨key, hkey, hsame⟩ := h
  cases hlast : s.lastScalar? name with
  | none => exact absurd hsame (lastScalar?_eq_none_iff.1 hlast key hkey)
  | some entry => exact ⟨entry.1, decides_of_lastScalar? hlast⟩

/-- If no further scalar spells a name, it is looked up in the standard vocabulary. -/
theorem target?_of_undecided (h : ∀ key ∈ s.scalarTypes.keys, lowercase key ≠ lowercase name) :
    s.options.vocabulary.target? name = Vocabulary.standard.target? name := by
  rw [target?_options, lastScalar?_eq_none_iff.2 h]
  rfl

/-- The collections are the standard ones and the further ones. -/
theorem isCollection_options_iff :
    s.options.vocabulary.isCollection name = true ↔
      Vocabulary.standard.isCollection name = true ∨ name ∈ s.collectionTypes := by
  rw [Vocabulary.isCollection, Vocabulary.isCollection, List.contains_iff_mem, List.contains_iff_mem, options,
    Vocabulary.mem_addCollections_iff, Vocabulary.collections_addScalars]

end Settings

/-! ## Options that say the same -/

/-- Two options are alike: they lay out interfaces in the same way and say the same of every name. -/
structure Options.Alike (o o' : Options) : Prop where
  indentWidth_eq : o.indentWidth = o'.indentWidth
  exported_eq : o.exported = o'.exported
  isStrict_eq : o.isStrict = o'.isStrict
  target?_eq : ∀ name, o.vocabulary.target? name = o'.vocabulary.target? name
  isCollection_eq : ∀ name, o.vocabulary.isCollection name = o'.vocabulary.isCollection name

section Alike

variable {o o' : Options} (h : o.Alike o')
include h

/-- Types are resolved alike. -/
theorem resolve_of_alike (m : Model) (t : Text) : (m.scope o).resolve t = (m.scope o').resolve t := by
  refine resolveWithin_congr (fun name => ?_) (fun part => ?_) _ t
  · rw [Scope.targetOfName, Scope.targetOfName, Model.scope, Model.scope, h.isStrict_eq, h.target?_eq]
  · have helement : o.vocabulary.element? part = o'.vocabulary.element? part := by
      unfold Vocabulary.element?
      dsimp only
      rw [h.isCollection_eq]
    rw [Vocabulary.peel, Vocabulary.peel, Model.scope, Model.scope, helement]

/-- Properties are written alike. -/
theorem printProperties_of_alike (m : Model) (className : Text) (properties : List Property) (w : Writer) :
    printProperties (m.scope o) className properties w =
      printProperties (m.scope o') className properties w := by
  induction properties generalizing w with
  | nil => rfl
  | cons p rest ih => simp only [printProperties, printProperty, resolve_of_alike h, ih]

/-- Classes are written alike. -/
theorem printClasses_of_alike (m : Model) (exported : Bool) (classes : List DataClass) (w : Writer) :
    printClasses (m.scope o) exported classes w = printClasses (m.scope o') exported classes w := by
  induction classes generalizing w with
  | nil => rfl
  | cons c rest ih => simp only [printClasses, printClass, printProperties_of_alike h, ih]

/-- A model has the same interfaces, and the same log. -/
theorem interfaces_of_alike (m : Model) : m.interfaces o = m.interfaces o' := by
  rw [Model.interfaces, Model.interfaces, printClasses_of_alike h, h.exported_eq, h.indentWidth_eq]

/-- A source has the same interfaces, and the same log. -/
theorem convert_of_alike (source : Text) : convert o source = convert o' source := by
  simp only [convert, interfaces_of_alike h]

end Alike

end InterfaceGen
