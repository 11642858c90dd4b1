import InterfaceGen.Json.Printer
import InterfaceGen.Json.Reader
import InterfaceGen.Json.Record
import InterfaceGen.Model.Basic

/-!
# The model as JSON

The model is an object with its classes under `declarations`; a class has a `name` and `fields`, and a
property a `name` and a `sourceType`.  The fields of a class may be left out if there are none.

Main definitions:

- `Model.print`: a model as indented JSON text.
- `Model.parse?`: the model that JSON text describes.
-/

namespace InterfaceGen

open Json

/-! ## Properties -/

/-- The names of the parts of a property. -/
def Property.keys : List Text :=
  ["name".toList, "sourceType".toList]

/-- A property as JSON. -/
def Property.toJson (p : Property) : Value :=
  .object [(some "name".toList, .ofText p.name), (some "sourceType".toList, .ofText p.sourceType)]

/-- The property that JSON describes. -/
def Property.ofJson? (v : Value) : Option Property := do
  let [name, sourceType] ← v.record? Property.keys | none
  return ⟨← required Value.text? name, ← required Value.text? sourceType⟩

/-! ## Classes -/

/-- The names of the parts of a class. -/
def DataClass.keys : List Text :=
  ["name".toList, "fields".toList]

/-- A class as JSON. -/
def DataClass.toJson (c : DataClass) : Value :=
  .object [(some "name".toList, .ofText c.name),
    (some "fields".toList, .array (c.properties.map Property.toJson))]

/-- The properties that the items of an array describe. -/
def DataClass.propertiesOfJson? (v : Value) : Option (List Property) := do
  (← v.items?).mapM Property.ofJson?

/-- The class that JSON describes. -/
def DataClass.ofJson? (v : Value) : Option DataClass := do
  let [name, fields] ← v.record? DataClass.keys | none
  return ⟨← required Value.text? name, ← optional [] DataClass.propertiesOfJson? fields⟩

/-! ## Models -/

namespace Model

/-- The names of the parts of a model. -/
def keys : List Text :=
  ["declarations".toList]

/-- A model as JSON. -/
def toJson (m : Model) : Value :=
  .object [(some "declarations".toList, .array (m.classes.map DataClass.toJson))]

/-- The classes that the items of an array describe. -/
def classesOfJson? (v : Value) : Option (List DataClass) := do
  (← v.items?).mapM DataClass.ofJson?

/-- The model that JSON describes. -/
def ofJson? (v : Value) : Option Model := do
  let [declarations] ← v.record? keys | none
  return ⟨← required classesOfJson? declarations⟩

/-- A model as indented JSON text. -/
def print (m : Model) : Text :=
  m.toJson.pretty

/-- The model that JSON text describes. -/
def parse? (t : Text) : Option Model :=
  (Value.parse? t).bind ofJson?

end Model

end InterfaceGen
