import InterfaceGen.Interface.Printer

/-!
# The first failure

Printing ends at the first property whose type has no target type.  Here the error of a model is the
first failure among its properties, class by class and in the order in which they are declared.

Main definitions:

- `Model.declarations`: the properties of a model in order, each with the name of its class.
- `Scope.failure?`: the error of one property, if its type has no target type.

Main results:

- Theorem `printClasses_eq_error_iff`: printing classes fails with the first failure among them.
- Theorem `interfaces_eq_error_iff`: printing a model fails with its first failure.
-/

namespace InterfaceGen

/-! ## Declarations -/

/-- The properties of a class in order, each with the name of the class. -/
def DataClass.declarations (c : DataClass) : List (Text × Property) :=
  c.properties.map fun p => (c.name, p)

/-- The properties of a model in order, each with the name of its class. -/
def Model.declarations (m : Model) : List (Text × Property) :=
  m.classes.flatMap DataClass.declarations

/-- The error of a property in a class, if its type has no target type. -/
def Scope.failure? (scope : Scope) (declaration : Text × Property) : Option ConversionError :=
  match (scope.resolve declaration.2.sourceType).value with
  | .error cause => some (.inProperty declaration.1 declaration.2.name cause)
  | .ok _ => none

/-- A property fails if and only if resolving its type does. -/
theorem failure?_eq_some_iff {scope : Scope} {declaration : Text × Property} {e : ConversionError} :
    scope.failure? declaration = some e ↔
      ∃ cause, (scope.resolve declaration.2.sourceType).value = .error cause ∧
        e = .inProperty declaration.1 declaration.2.name cause := by
  unfold Scope.failure?
  cases hresolve : (scope.resolve declaration.2.sourceType).value with
  | error cause =>
    constructor
    · intro h
      exact ⟨cause, rfl, (Option.some.inj h).symm⟩
    · intro h
      obtain ⟨cause', hcause, he⟩ := h
      rw [he, Except.error.inj hcause]
  | ok type => simp

/-! ## Printing -/

/-- Where errors are the failures that are found, none is found after a success. -/
theorem eq_none_of_ok {α ε : Type} {result : Except ε α} {found : Option ε} {a : α}
    (h : ∀ e, result = .error e ↔ found = some e) (hok : result = .ok a) : found = none := by
  cases hfound : found with
  | none => rfl
  | some e =>
    have herror := (h e).2 hfound
    rw [hok] at herror
    cases herror

section Printing

variable (scope : Scope) (e : ConversionError)

/-- Printing a property fails if and only if the property does. -/
theorem printProperty_eq_error_iff (className : Text) (p : Property) :
    (printProperty scope className p).value = .error e ↔ scope.failure? (className, p) = some e := by
  unfold printProperty Scope.failure?
  rw [Logged.value_bind]
  cases hresolve : (scope.resolve p.sourceType).value with
  | error cause => simp
  | ok type => simp

/-- Printing properties fails with the first failure among them. -/
theorem printProperties_eq_error_iff (className : Text) (properties : List Property) (w : Writer) :
    (printProperties scope className properties w).value = .error e ↔
      (properties.map fun p => (className, p)).findSome? scope.failure? = some e := by
  induction properties generalizing w with
  | nil => simp [printProperties]
  | cons p rest ih =>
    rw [printProperties, Logged.value_bind, List.map_cons, List.findSome?_cons]
    cases hprint : (printProperty scope className p).value with
    | error e' =>
      have hfailure := (printProperty_eq_error_iff scope e' className p).1 hprint
      simp [hfailure]
    | ok line =>
      have hfailure : scope.failure? (className, p) = none :=
        eq_none_of_ok (fun e => printProperty_eq_error_iff scope e className p) hprint
      rw [hfailure]
      exact ih _

/-- Printing a class fails with the first failure among its properties. -/
theorem printClass_eq_error_iff (exported : Bool) (c : DataClass) (w : Writer) :
    (printClass scope exported c w).value = .error e ↔
      c.declarations.findSome? scope.failure? = some e := by
  have hproperties := printProperties_eq_error_iff scope e c.name c.properties
    (w.writeLine (interfaceHeader exported c.name)).indent
  rw [printClass, Logged.value_bind, Logged.value_bind, DataClass.declarations, ← hproperties]
  cases hprint : (printProperties scope c.name c.properties
      (w.writeLine (interfaceHeader exported c.name)).indent).value with
  | error e' => simp
  | ok filled => simp

/-- Printing classes fails with the first failure among their properties. -/
theorem printClasses_eq_error_iff (exported : Bool) (classes : List DataClass) (w : Writer) :
    (printClasses scope exported classes w).value = .error e ↔
      (classes.flatMap DataClass.declarations).findSome? scope.failure? = some e := by
  induction classes generalizing w with
  | nil => simp [printClasses]
  | cons c rest ih =>
    rw [printClasses, Logged.value_bind, List.flatMap_cons, List.findSome?_append]
    cases hprint : (printClass scope exported c w).value with
    | error e' =>
      have hfailure := (printClass_eq_error_iff scope e' exported c w).1 hprint
      simp [hfailure]
    | ok next =>
      have hfailure : c.declarations.findSome? scope.failure? = none :=
        eq_none_of_ok (fun e => printClass_eq_error_iff scope e exported c w) hprint
      rw [hfailure, Option.none_or]
      exact ih _

end Printing

/-- Printing a model fails with its first failure. -/
theorem interfaces_eq_error_iff (m : Model) (options : Options) (e : ConversionError) :
    (m.interfaces options).value = .error e ↔
      m.declarations.findSome? (m.scope options).failure? = some e := by
  have hclasses := printClasses_eq_error_iff (m.scope options) e options.exported m.classes
    (.start options.indentWidth)
  rw [Model.interfaces, Logged.value_bind, Logged.value_bind, Model.declarations, ← hclasses]
  cases hprint : (printClasses (m.scope options) options.exported m.classes
      (.start options.indentWidth)).value with
  | error e' => simp
  | ok w => simp

end InterfaceGen
