import InterfaceGen.Interface.Options
import InterfaceGen.SortedMap

/-!
# Settings

The settings of a project: where its sources and results are, how interfaces are laid out, how strict the
resolution of types is, and what is added to the standard vocabulary.

Main definitions:

- `Settings`: the settings of a project, with their defaults.
- `Settings.options`: the options of a conversion by the settings.
-/

namespace InterfaceGen

/-- The settings of a project. -/
structure Settings where
  /-- The directory of the sources. -/
  sourceDir : Text := "src".toList
  /-- The directory of the results. -/
  outputDir : Text := "dist".toList
  /-- Spaces before each property. -/
  indentWidth : UInt64 := 4
  /-- Whether interfaces are exported. -/
  exported : Bool := true
  /-- Whether every type must be a scalar or a declared class. -/
  isStrict : Bool := false
  /-- Further scalars with their target types. -/
  scalarTypes : SortedMap Text Text := .empty
  /-- Further collections. -/
  collectionTypes : List Text := []
deriving DecidableEq

/-- The options of a conversion by the settings: the standard vocabulary with the further scalars, in the
order of their names, and the further collections. -/
def Settings.options (s : Settings) : Options where
  indentWidth := s.indentWidth
  exported := s.exported
  isStrict := s.isStrict
  vocabulary :=
    (Vocabulary.standard.addScalars s.scalarTypes.entries).addCollections s.collectionTypes

end InterfaceGen
