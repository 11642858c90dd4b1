import InterfaceGen.Interface.Options
import InterfaceGen.Interface.Writer
import InterfaceGen.Model.Basic
import InterfaceGen.Types.Resolve

/-!
# Printing interfaces

Every class of a model becomes an interface with the properties of the class, in order.  The first
property whose type has no target type ends the printing, and nothing of what was printed is kept.

Main definitions:

- `ConversionError`: why a source or a model has no interfaces.
- `Model.interfaces`: the interfaces of a model.
-/

namespace InterfaceGen

/-! ## Errors -/

/-- Why a source or a model has no interfaces. -/
inductive ConversionError where
  /-- The source holds nothing but blanks. -/
  | blankSource
  /-- The type of a property of a class has no target type. -/
  | inProperty (className property : Text) (cause : TypeError)
deriving DecidableEq, Repr

namespace ConversionError

/-- The wording of an error. -/
def message : ConversionError → Text
  | blankSource => "Invalid argument: C# code cannot be null or empty".toList
  | inProperty className property (.unmappable name) =>
    "Unmappable type '".toList ++ name ++ "' on ".toList ++ className ++ ['.'] ++ property
  | inProperty className property (.malformed part) =>
    className ++ ['.'] ++ property ++ [':', ' '] ++ (TypeError.malformed part).message

/-- The error behind an error, where it is reported as well. -/
def cause? : ConversionError → Option TypeError
  | inProperty _ _ (.malformed part) => some (.malformed part)
  | _ => none

end ConversionError

/-! ## Interfaces -/

/-- A property as it is written in an interface. -/
def printProperty (scope : Scope) (className : Text) (p : Property) :
    Logged (Except ConversionError Text) := do
  match ← scope.resolve p.sourceType with
  | .error cause => return .error (.inProperty className p.name cause)
  | .ok type => return .ok (type.binding.property (Text.lowerFirst p.name))

/-- Writes properties, one on a line. -/
def printProperties (scope : Scope) (className : Text) :
    List Property → Writer → Logged (Except ConversionError Writer)
  | [], w => return .ok w
  | p :: rest, w => do
    match ← printProperty scope className p with
    | .error e => return .error e
    | .ok line => printProperties scope className rest (w.writeLine (line ++ [';']))

/-- The first line of the interface of a class. -/
def interfaceHeader (exported : Bool) (name : Text) : Text :=
  (if exported then "export ".toList else []) ++ "interface ".toList ++ name ++ [' ', '{']

/-- Writes the interface of a class. -/
def printClass (scope : Scope) (exported : Bool) (c : DataClass) (w : Writer) :
    Logged (Except ConversionError Writer) := do
  Logged.report (.printing c.name c.properties.length)
  let opened := (w.writeLine (interfaceHeader exported c.name)).indent
  match ← printProperties scope c.name c.properties opened with
  | .error e => return .error e
  | .ok filled => return .ok (filled.dedent.writeLine ['}'])

/-- Writes the interfaces of classes, one after the other. -/
def printClasses (scope : Scope) (exported : Bool) :
    List DataClass → Writer → Logged (Except ConversionError Writer)
  | [], w => return .ok w
  | c :: rest, w => do
    match ← printClass scope exported c w with
    | .error e => return .error e
    | .ok next => printClasses scope exported rest next

/-- The scope in which the types of a model are resolved. -/
def Model.scope (m : Model) (options : Options) : Scope :=
  ⟨options.vocabulary, options.isStrict, m.names⟩

/-- The interfaces of a model. -/
def Model.interfaces (m : Model) (options : Options) : Logged (Except ConversionError Text) := do
  Logged.report (.printingStarts m.classes.length)
  match ← printClasses (m.scope options) options.exported m.classes (.start options.indentWidth) with
  | .error e => return .error e
  | .ok w => do
    Logged.report (.printed m.classes.length)
    return .ok w.result

end InterfaceGen
