import InterfaceGen.Text.Basic

/-!
# The declaration model

What is kept of a source: its data classes, each with its properties in order.  A property keeps its
type as it was written.
-/

namespace InterfaceGen

/-- A property of a data class, with its type as written in the source. -/
structure Property where
  name : Text
  sourceType : Text
deriving DecidableEq, Repr, Inhabited

/-- A data class with its properties in order. -/
structure DataClass where
  name : Text
  properties : List Property
deriving DecidableEq, Repr, Inhabited

/-- The data classes of a source, an enclosing class before the classes it encloses. -/
structure Model where
  classes : List DataClass
deriving DecidableEq, Repr, Inhabited

namespace Model

/-- The names of all classes, in order. -/
def names (m : Model) : List Text :=
  m.classes.map (·.name)

/-- The first class of a name. -/
def find? (m : Model) (name : Text) : Option DataClass :=
  m.classes.find? (·.name == name)

/-- Whether a model has no classes. -/
def isEmpty (m : Model) : Bool :=
  m.classes.isEmpty

end Model

end InterfaceGen
