import InterfaceGen.Event
import InterfaceGen.Text.Blank
import InterfaceGen.Types.Target
import InterfaceGen.Types.Vocabulary

/-!
# Resolving source types

A source type is taken apart from the outside: question marks behind it say that values may be absent, a
known collection around it makes an array of what it encloses, and what is left is a name.  A name is a
scalar of the vocabulary or stands for another type; in a strict scope it must be a declared one.

Main definitions:

- `Layer`, `Vocabulary.peel`: the outermost layer of a source type.
- `Scope.resolve`: the target type of a source type.
-/

namespace InterfaceGen

open Text

/-- Why a source type has no target type. -/
inductive TypeError where
  /-- A name is neither a scalar nor, in a strict scope, a declared type. -/
  | unmappable (name : Text)
  /-- A part of the type is empty or nested too deeply. -/
  | malformed (part : Text)
deriving DecidableEq, Repr

/-- The wording of a type error. -/
def TypeError.message : TypeError → Text
  | unmappable name =>
    "Strict mode error: type '".toList ++ name ++
      "' is neither a known scalar nor a declared type".toList
  | malformed part => "Malformed type expression '".toList ++ part ++ "'".toList

/-! ## Layers -/

/-- The outermost layer of a source type, with what it encloses. -/
inductive Layer where
  /-- Question marks behind a type. -/
  | optional (inner : Text)
  /-- A collection around the type of its elements. -/
  | collection (element : Text)
  /-- No layer, but a name. -/
  | name (name : Text)
deriving DecidableEq, Repr

/-- The text between the first `<` and a final `>`, if a collection stands before them and there is
anything between. -/
def Vocabulary.element? (v : Vocabulary) (t : Text) : Option Text :=
  if t.getLast? = some '>' then
    let body := t.dropLast
    match body.dropWhile (· != '<') with
    | [] => none
    | _ :: element =>
      if element.isEmpty || !v.isCollection (body.takeWhile (· != '<')) then none else some element
  else none

/-- A text without the question marks it ends with. -/
def dropMarks (t : Text) : Text :=
  (t.reverse.dropWhile (· == '?')).reverse

/-- The outermost layer of a trimmed source type. -/
def Vocabulary.peel (v : Vocabulary) (t : Text) : Layer :=
  if t.getLast? = some '?' then .optional (dropMarks t)
  else
    match v.element? t with
    | some element => .collection element
    | none => .name t

/-! ## Resolution -/

/-- What a source type is resolved in: a vocabulary and, if the scope is strict, the names that may stand
for other types. -/
structure Scope where
  vocabulary : Vocabulary
  isStrict : Bool
  declared : List Text

namespace Scope

/-- The target type of a name. -/
def targetOfName (scope : Scope) (name : Text) : Logged (Except TypeError TargetType) :=
  if name.isEmpty then pure (.error (.malformed name))
  else
    match scope.vocabulary.target? name with
    | some target => pure (.ok (.primitive target))
    | none =>
      if scope.isStrict && !scope.declared.contains name then pure (.error (.unmappable name))
      else do
        Logged.report (.referring name)
        return .ok (.reference name)

/-- The target type of a source type that has fewer than `allowance` layers. -/
def resolveWithin (scope : Scope) : Nat → Text → Logged (Except TypeError TargetType)
  | 0, source => pure (.error (.malformed (trim source)))
  | allowance + 1, source =>
    match scope.vocabulary.peel (trim source) with
    | .optional inner => do return (← scope.resolveWithin allowance inner).map TargetType.orAbsent
    | .collection element => do return (← scope.resolveWithin allowance element).map TargetType.array
    | .name name => scope.targetOfName name

/-- The most layers that a source type may have. -/
def maxLayers : Nat :=
  64

/-- The target type of a source type. -/
def resolve (scope : Scope) (source : Text) : Logged (Except TypeError TargetType) :=
  scope.resolveWithin (maxLayers + 1) source

end Scope

end InterfaceGen
