import InterfaceGen.Text.Basic

/-!
# Events

Every decision of the reader and of the interface printer is reported as an event.  A computation that
reports events is a value together with the events, oldest first.

Main definitions:

- `Event`: what can be reported, with its level, wording and details.
- `Logged`: a value and the events reported on the way to it.
-/

namespace InterfaceGen

/-! ## What is reported -/

/-- How much an event matters. -/
inductive Level where
  | trace
  | debug
  | info
  | warn
deriving DecidableEq, Repr

/-- A detail of an event. -/
inductive Detail where
  | number (n : Nat)
  | text (t : Text)
deriving DecidableEq, Repr

/-- A step of a conversion: the start of one of its stages, or a decision taken in a stage. -/
inductive Event where
  /-- The conversion of a source of so many bytes starts. -/
  | conversionStarts (bytes : Nat)
  /-- The reading of a source of so many bytes starts. -/
  | readingStarts (bytes : Nat)
  /-- The printing of so many classes starts. -/
  | printingStarts (classes : Nat)
  /-- A class opens inside `depth` others. -/
  | opening (name : Text) (depth : Nat)
  /-- The innermost open class closes with so many properties. -/
  | closing (name : Text) (properties : Nat)
  /-- A closing brace has no class to close. -/
  | strayClosing
  /-- A property is added to the innermost open class. -/
  | adding (className name sourceType : Text)
  /-- A property stands outside of all classes. -/
  | strayProperty (name : Text)
  /-- A line says nothing of interest. -/
  | skipping (line : Text)
  /-- A class is dropped because it was still open at the end. -/
  | unclosed (name : Text)
  /-- The interface of a class with so many properties is printed. -/
  | printing (name : Text) (properties : Nat)
  /-- A name that is no scalar is taken for the name of another type. -/
  | referring (name : Text)
  /-- All of so many interfaces are printed. -/
  | printed (classes : Nat)
deriving DecidableEq, Repr

namespace Event

/-- The level of an event. -/
def level : Event → Level
  | conversionStarts _ | readingStarts _ | printingStarts _ | printed _ => .info
  | opening .. | closing .. | adding .. | printing .. => .debug
  | strayClosing | strayProperty _ | skipping _ | referring _ => .trace
  | unclosed _ => .warn

/-- Whether an event is the start of a stage. -/
def isStage : Event → Bool
  | conversionStarts _ | readingStarts _ | printingStarts _ => true
  | _ => false

/-- The name of the stage that an event starts, or what it says of a decision. -/
def message : Event → String
  | conversionStarts _ => "convert"
  | readingStarts _ => "parse"
  | printingStarts _ => "compile_document"
  | opening .. => "Opening declaration"
  | closing .. => "Closing declaration"
  | strayClosing => "Dropping unmatched closing brace"
  | adding .. => "Adding field"
  | strayProperty _ => "Skipping field outside any declaration"
  | skipping _ => "Skipping line"
  | unclosed _ => "Declaration was never closed, dropping it"
  | printing .. => "Compiling declaration"
  | referring _ => "Treating unmapped name as a type reference"
  | printed _ => "Compiled TypeScript interfaces"

/-- The details of an event by their names. -/
def details : Event → List (String × Detail)
  | conversionStarts bytes | readingStarts bytes => [("bytes", .number bytes)]
  | printingStarts classes | printed classes => [("declarations", .number classes)]
  | opening name depth => [("declaration", .text name), ("depth", .number depth)]
  | closing name properties | printing name properties =>
    [("declaration", .text name), ("fields", .number properties)]
  | strayClosing => []
  | adding className name sourceType =>
    [("declaration", .text className), ("field", .text name), ("source_type", .text sourceType)]
  | strayProperty name => [("field", .text name)]
  | skipping line => [("line", .text line)]
  | unclosed name => [("declaration", .text name)]
  | referring name => [("name", .text name)]

end Event

/-! ## Logged values -/

/-- A value and the events reported on the way to it, oldest first. -/
structure Logged (α : Type) where
  events : List Event
  value : α
deriving Repr

namespace Logged

/-- Reports one event. -/
def report (event : Event) : Logged Unit :=
  ⟨[event], ()⟩

instance : Monad Logged where
  pure value := ⟨[], value⟩
  bind first next := ⟨first.events ++ (next first.value).events, (next first.value).value⟩

@[simp] theorem events_pure {α : Type} (a : α) : (pure a : Logged α).events = [] := rfl

@[simp] theorem value_pure {α : Type} (a : α) : (pure a : Logged α).value = a := rfl

@[simp] theorem events_bind {α β : Type} (x : Logged α) (f : α → Logged β) :
    (x >>= f).events = x.events ++ (f x.value).events := rfl

@[simp] theorem value_bind {α β : Type} (x : Logged α) (f : α → Logged β) :
    (x >>= f).value = (f x.value).value := rfl

@[simp] theorem value_map {α β : Type} (f : α → β) (x : Logged α) : (f <$> x).value = f x.value := rfl

instance : LawfulMonad Logged :=
  LawfulMonad.mk' Logged
    (fun x => by cases x; simp [Functor.map])
    (fun _ _ => rfl)
    (fun x _ _ => by cases x; simp [bind])

end Logged

end InterfaceGen
