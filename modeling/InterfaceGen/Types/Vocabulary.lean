import InterfaceGen.Text.Lowercase

/-!
# Vocabularies

A vocabulary says which source names are scalars, and of which target type, and which are collections.
Scalars are looked up without regard to case; the names of collections are matched exactly.

Main definitions:

- `Vocabulary.target?`, `Vocabulary.isCollection`: what a vocabulary says of a name.
- `Vocabulary.addScalar`, `Vocabulary.addCollection`: a vocabulary with one more entry.
- `Vocabulary.agrees`: whether two vocabularies say the same.
-/

namespace InterfaceGen

/-- The scalars, by lower-case name and latest first, and the collections that are known. -/
structure Vocabulary where
  scalars : List (Text × Text)
  collections : List Text
deriving Repr

namespace Vocabulary

/-! ## What a vocabulary says -/

/-- The target type of the scalar with this lower-case name. -/
def entry? (v : Vocabulary) (key : Text) : Option Text :=
  (v.scalars.find? (·.1 == key)).map (·.2)

/-- The target type of a scalar by its name in any case. -/
def target? (v : Vocabulary) (name : Text) : Option Text :=
  v.entry? (Text.lowercase name)

/-- Whether a name is that of a collection. -/
def isCollection (v : Vocabulary) (name : Text) : Bool :=
  v.collections.contains name

/-- Whether two vocabularies say the same of every name. -/
def agrees (v w : Vocabulary) : Bool :=
  (v.scalars ++ w.scalars).all (fun scalar => v.entry? scalar.1 == w.entry? scalar.1) &&
    (v.collections ++ w.collections).all (fun name => v.isCollection name == w.isCollection name)

/-! ## Adding entries -/

/-- A vocabulary with a scalar, in place of the one of this name if there is one. -/
def addScalar (v : Vocabulary) (name target : Text) : Vocabulary :=
  { v with scalars := (Text.lowercase name, target) :: v.scalars }

/-- A vocabulary with a collection. -/
def addCollection (v : Vocabulary) (name : Text) : Vocabulary :=
  { v with collections := name :: v.collections }

/-- A vocabulary with more scalars, added in order. -/
def addScalars (v : Vocabulary) (scalars : List (Text × Text)) : Vocabulary :=
  scalars.foldl (fun v scalar => v.addScalar scalar.1 scalar.2) v

/-- A vocabulary with more collections, added in order. -/
def addCollections (v : Vocabulary) (names : List Text) : Vocabulary :=
  names.foldl addCollection v

/-! ## Built-in vocabularies -/

/-- The vocabulary without entries. -/
def empty : Vocabulary :=
  ⟨[], []⟩

/-- The scalars of the smallest useful vocabulary. -/
def minimalScalars : List (Text × Text) :=
  [("string".toList, "string".toList), ("int".toList, "number".toList),
   ("long".toList, "number".toList)]

/-- Strings, whole numbers and lists. -/
def minimal : Vocabulary :=
  (empty.addScalars minimalScalars).addCollection "List".toList

/-- The scalars that the standard vocabulary adds to the minimal one. -/
def furtherScalars : List (Text × Text) :=
  [("char".toList, "string".toList), ("short".toList, "number".toList),
   ("byte".toList, "number".toList), ("float".toList, "number".toList),
   ("double".toList, "number".toList), ("decimal".toList, "number".toList),
   ("bool".toList, "boolean".toList)]

/-- The collections that the standard vocabulary adds to the minimal one. -/
def furtherCollections : List Text :=
  ["IList".toList, "ICollection".toList, "IEnumerable".toList, "IReadOnlyList".toList,
   "IReadOnlyCollection".toList]

/-- The built-in scalars and the generic sequence interfaces. -/
def standard : Vocabulary :=
  (minimal.addScalars furtherScalars).addCollections furtherCollections

end Vocabulary

end InterfaceGen
