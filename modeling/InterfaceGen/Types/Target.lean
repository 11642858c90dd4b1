import InterfaceGen.Text.Basic

/-!
# Target types

The types of the generated interfaces, and how they are written.  In text an array is marked behind its
element, and a value that may be absent by a union with `undefined`, which binds less tightly and so is
put into parentheses where it is the element of an array.

Main definitions:

- `TargetType`: a type of an interface property.
- `TargetType.text`: a type as it is written.
- `Binding`: a type split into the optional mark of a property and what remains.
-/

namespace InterfaceGen

/-- A type of an interface property. -/
inductive TargetType where
  /-- A scalar by its target name. -/
  | primitive (name : Text)
  /-- Another interface by its name. -/
  | reference (name : Text)
  /-- A sequence of elements of one type. -/
  | array (element : TargetType)
  /-- A value that may be absent. -/
  | optional (inner : TargetType)
deriving DecidableEq, Repr, Inhabited

namespace TargetType

/-- A type whose values may be absent; nothing is added to a type that says so already. -/
def orAbsent : TargetType → TargetType
  | optional inner => optional inner
  | type => optional type

/-- Whether a type says at its top that values may be absent. -/
def isOptional : TargetType → Bool
  | optional _ => true
  | _ => false

/-! ## Writing types -/

/-- The mark of an array behind its element. -/
def arrayMark : Text :=
  "[]".toList

/-- The mark of a value that may be absent, behind its type. -/
def absentMark : Text :=
  " | undefined".toList

/-- A type as it is written. -/
def text : TargetType → Text
  | primitive name => name
  | reference name => name
  | array element =>
    (if element.isOptional then '(' :: element.text ++ [')'] else element.text) ++ arrayMark
  | optional inner => inner.text ++ absentMark

end TargetType

/-! ## Bindings -/

/-- The type of a property: whether the property may be left out, and its type if it is there. -/
structure Binding where
  type : TargetType
  isOptional : Bool
deriving DecidableEq, Repr

/-- The binding of a type: an optional layer at the top moves to the property. -/
def TargetType.binding : TargetType → Binding
  | .optional inner => ⟨inner, true⟩
  | type => ⟨type, false⟩

/-- A property of an interface as it is written. -/
def Binding.property (binding : Binding) (name : Text) : Text :=
  name ++ (if binding.isOptional then ['?'] else []) ++ [':', ' '] ++ binding.type.text

end InterfaceGen
