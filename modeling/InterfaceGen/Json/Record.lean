import InterfaceGen.Json.Value

/-!
# Records in JSON

A record with named fields is written as an object, or as an array of its fields in order.  In an object
every known field occurs at most once and unknown ones are ignored; an array may leave fields off at its
end and holds no more values than the record has fields.

Main definitions:

- `Value.record?`: the values of the fields of a record.
- `required`, `optional`: the reading of a field that must be there, or that has a default.
-/

namespace InterfaceGen.Json

namespace Value

/-- The member of a name among those of an object: none if it is missing.  The outer option is none if
the name is repeated. -/
def memberOnce? (members : List (Option Text × Value)) (name : Text) : Option (Option Value) :=
  match members.filter (·.1 == some name) with
  | [] => some none
  | [(_, value)] => some (some value)
  | _ => none

/-- The values of the fields with these names: all keys of an object must have content, known ones may
not be repeated, and an array may not be too long.  A field that is left out has no value. -/
def record? (names : List Text) : Value → Option (List (Option Value))
  | object members =>
    if members.all (·.1.isSome) then names.mapM (memberOnce? members) else none
  | array items =>
    if items.length ≤ names.length then
      some (items.map some ++ List.replicate (names.length - items.length) none)
    else none
  | _ => none

end Value

/-- Reads a field that must be there. -/
def required {α : Type} (decode : Value → Option α) (field : Option Value) : Option α :=
  field.bind decode

/-- Reads a field that has a default for when it is left out. -/
def optional {α : Type} (default : α) (decode : Value → Option α) : Option Value → Option α
  | none => some default
  | some value => decode value

end InterfaceGen.Json
