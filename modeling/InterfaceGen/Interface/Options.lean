import InterfaceGen.Types.Vocabulary

/-!
# Conversion options

How a model is turned into interfaces.
-/

namespace InterfaceGen

/-- How a model is turned into interfaces. -/
structure Options where
  /-- Spaces before each property. -/
  indentWidth : UInt64 := 4
  /-- Whether interfaces are exported. -/
  exported : Bool := true
  /-- Whether every type must be a scalar or a declared class. -/
  isStrict : Bool := false
  /-- The scalars and collections that are known. -/
  vocabulary : Vocabulary := Vocabulary.standard

end InterfaceGen
