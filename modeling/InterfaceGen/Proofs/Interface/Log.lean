import InterfaceGen.Proofs.Interface.FirstFailure
import InterfaceGen.Proofs.Types.Core

/-!
# The log of a printing

Printing reports every class that it reaches, and every name that it takes for that of another type, which is
found below all layers of a property's type.  The log thus tells how far the printing came: to its end, or up
to the first property whose type has no target type, which is itself not reported.

Main definitions:

- `TargetType.mentions`, `Scope.mentions`: the events of a type, by what it is made of.
- `Scope.classLog`: the events of a class whose types are all found.
- `Model.Logs`: the result and the log of a printing, to its end or up to its first failure.

Main results:

- Theorem `events_resolve`: the events of a type are told by its target type.
- Theorem `log_tells_progress`: every printing has the log that tells how far it came.
-/

namespace InterfaceGen

open Text

/-! ## The events of a type -/

/-- The events of a target type: the name of the other type that it is made of, if it is made of one. -/
def TargetType.mentions (type : TargetType) : List Event :=
  match type.leaf with
  | .reference name => [.referring name]
  | _ => []

/-- The events of a result: those of the target type, if there is one. -/
def mentionsOf : Except TypeError TargetType → List Event
  | .ok type => type.mentions
  | .error _ => []

/-- A layer around a type reports nothing. -/
theorem mentionsOf_map {layer : TargetType → TargetType} (hleaf : ∀ type, (layer type).leaf = type.leaf)
    (result : Except TypeError TargetType) : mentionsOf (result.map layer) = mentionsOf result := by
  cases result with
  | error cause => rfl
  | ok type =>
    change (layer type).mentions = type.mentions
    rw [TargetType.mentions, hleaf, ← TargetType.mentions]

namespace Scope

variable (scope : Scope)

/-- A name is reported if it is taken for that of another type. -/
theorem events_targetOfName (name : Text) :
    (scope.targetOfName name).events = mentionsOf (scope.targetOfName name).value := by
  unfold targetOfName
  split
  · rfl
  · cases scope.vocabulary.target? name with
    | some target => rfl
    | none =>
      simp only
      split <;> rfl

/-- With any number of layers allowed, the events of a type are told by its target type. -/
theorem events_resolveWithin (allowance : Nat) (t : Text) :
    (scope.resolveWithin allowance t).events = mentionsOf (scope.resolveWithin allowance t).value := by
  induction allowance generalizing t with
  | zero => rfl
  | succ allowance ih =>
    rw [value_resolveWithin_succ, resolveWithin]
    cases scope.vocabulary.peel (trim t) with
    | optional inner =>
      rw [mentionsOf_map TargetType.leaf_orAbsent, ← ih inner]
      exact List.append_nil _
    | collection element =>
      have hleaf : ∀ type, (TargetType.array type).leaf = type.leaf := fun _ => rfl
      rw [mentionsOf_map hleaf, ← ih element]
      exact List.append_nil _
    | name name => exact scope.events_targetOfName name

/-- The events of a type are told by its target type. -/
theorem events_resolve (t : Text) : (scope.resolve t).events = mentionsOf (scope.resolve t).value :=
  scope.events_resolveWithin _ t

/-! ## The events of a class -/

/-- The type of a property has a target type. -/
def Resolves (p : Property) : Prop :=
  ∃ type, (scope.resolve p.sourceType).value = .ok type

/-- The events of a property: the name of the other type that its type is made of, if there is one. -/
def mentions (p : Property) : List Event :=
  mentionsOf (scope.resolve p.sourceType).value

/-- The events of a class whose types are all found: its name with the number of its properties, and the
other types that these are made of, in order. -/
def classLog (c : DataClass) : List Event :=
  .printing c.name c.properties.length :: c.properties.flatMap scope.mentions

/-- The result and the events of the properties of a class: all of them have lines, or there is a first one
whose type is not found, and the events are those of the properties before it. -/
inductive LogsProperties {α : Type} (className : Text) (properties : List Property) :
    Except ConversionError α → List Event → Prop
  | complete (a : α) (resolved : ∀ p ∈ properties, scope.Resolves p) :
      LogsProperties className properties (.ok a) (properties.flatMap scope.mentions)
  | broken (before : List Property) (p : Property) (after : List Property) (cause : TypeError)
      (split : properties = before ++ p :: after) (resolved : ∀ q ∈ before, scope.Resolves q)
      (unresolved : (scope.resolve p.sourceType).value = .error cause) :
      LogsProperties className properties (.error (.inProperty className p.name cause))
        (before.flatMap scope.mentions)

/-- The result and the events of classes: all of them are printed, or there is a first one that is not. -/
inductive LogsClasses {α : Type} (classes : List DataClass) : Except ConversionError α → List Event → Prop
  | complete (a : α) (resolved : ∀ c ∈ classes, ∀ p ∈ c.properties, scope.Resolves p) :
      LogsClasses classes (.ok a) (classes.flatMap scope.classLog)
  | broken (before : List DataClass) (c : DataClass) (after : List DataClass) (e : ConversionError)
      (events : List Event) (split : classes = before ++ c :: after)
      (resolved : ∀ b ∈ before, ∀ p ∈ b.properties, scope.Resolves p)
      (unresolved : scope.LogsProperties c.name c.properties (.error e : Except ConversionError α) events) :
      LogsClasses classes (.error e)
        (before.flatMap scope.classLog ++ .printing c.name c.properties.length :: events)

/-! ## Printing -/

/-- A property that has a line has a target type, and reports what this is made of. -/
theorem printProperty_cases (className : Text) (p : Property) :
    (∃ line, (printProperty scope className p).value = .ok line ∧ scope.Resolves p ∧
      (printProperty scope className p).events = scope.mentions p) ∨
    ∃ cause, (printProperty scope className p).value = .error (.inProperty className p.name cause) ∧
      (scope.resolve p.sourceType).value = .error cause ∧ (printProperty scope className p).events = [] := by
  have hevents := scope.events_resolve p.sourceType
  unfold printProperty mentions
  rw [Logged.value_bind, Logged.events_bind, hevents]
  cases hresolve : (scope.resolve p.sourceType).value with
  | ok type => exact .inl ⟨_, rfl, ⟨type, hresolve⟩, List.append_nil _⟩
  | error cause => exact .inr ⟨cause, rfl, rfl, rfl⟩

variable {scope} in
/-- A property that reports its type comes before others. -/
theorem LogsProperties.cons {α : Type} {className : Text} {p : Property} {rest : List Property}
    {result : Except ConversionError α} {events : List Event} (hp : scope.Resolves p)
    (h : scope.LogsProperties className rest result events) :
    scope.LogsProperties className (p :: rest) result (scope.mentions p ++ events) := by
  cases h with
  | complete a resolved =>
    rw [← List.flatMap_cons]
    exact .complete a (List.forall_mem_cons.2 ⟨hp, resolved⟩)
  | broken before q after cause split resolved unresolved =>
    rw [← List.flatMap_cons]
    exact .broken (p :: before) q after cause (by rw [split, List.cons_append])
      (List.forall_mem_cons.2 ⟨hp, resolved⟩) unresolved

/-- The events of printing properties. -/
theorem logsProperties (className : Text) (properties : List Property) (w : Writer) :
    scope.LogsProperties className properties (printProperties scope className properties w).value
      (printProperties scope className properties w).events := by
  induction properties generalizing w with
  | nil => exact .complete w (by simp)
  | cons p rest ih =>
    rw [printProperties, Logged.value_bind, Logged.events_bind]
    rcases scope.printProperty_cases className p with
      ⟨line, hvalue, hresolves, hevents⟩ | ⟨cause, hvalue, hcause, hevents⟩
    · rw [hvalue, hevents]
      exact (ih _).cons hresolves
    · rw [hvalue, hevents]
      exact .broken [] p rest cause rfl (by simp) hcause

/-- A class that is printed has types that are all found, and reports what they are made of; one that is not
printed has reported its name and what its properties have. -/
theorem printClass_cases (exported : Bool) (c : DataClass) (w : Writer) :
    (∃ next, (printClass scope exported c w).value = .ok next ∧ (∀ p ∈ c.properties, scope.Resolves p) ∧
      (printClass scope exported c w).events = scope.classLog c) ∨
    ∃ e events, (printClass scope exported c w).value = .error e ∧
      scope.LogsProperties c.name c.properties (.error e : Except ConversionError Writer) events ∧
      (printClass scope exported c w).events = .printing c.name c.properties.length :: events := by
  have hproperties := scope.logsProperties c.name c.properties
    (w.writeLine (interfaceHeader exported c.name)).indent
  rw [printClass, Logged.value_bind, Logged.value_bind, Logged.events_bind, Logged.events_bind]
  cases hvalue : (printProperties scope c.name c.properties
      (w.writeLine (interfaceHeader exported c.name)).indent).value with
  | ok filled =>
    rw [hvalue] at hproperties
    generalize (printProperties scope c.name c.properties
      (w.writeLine (interfaceHeader exported c.name)).indent).events = events at hproperties
    cases hproperties with
    | complete _ resolved => exact .inl ⟨_, rfl, resolved, by simp [Logged.report, classLog]⟩
  | error e =>
    rw [hvalue] at hproperties
    exact .inr ⟨e, _, rfl, hproperties, by simp [Logged.report]⟩

variable {scope} in
/-- A class whose types are all found comes before others. -/
theorem LogsClasses.cons {α : Type} {c : DataClass} {rest : List DataClass}
    {result : Except ConversionError α} {events : List Event} (hc : ∀ p ∈ c.properties, scope.Resolves p)
    (h : scope.LogsClasses rest result events) :
    scope.LogsClasses (c :: rest) result (scope.classLog c ++ events) := by
  cases h with
  | complete a resolved =>
    rw [← List.flatMap_cons]
    exact .complete a (List.forall_mem_cons.2 ⟨hc, resolved⟩)
  | broken before b after e inner split resolved unresolved =>
    rw [← List.append_assoc, ← List.flatMap_cons]
    exact .broken (c :: before) b after e inner (by rw [split, List.cons_append])
      (List.forall_mem_cons.2 ⟨hc, resolved⟩) unresolved

/-- The events of printing classes. -/
theorem logsClasses (exported : Bool) (classes : List DataClass) (w : Writer) :
    scope.LogsClasses classes (printClasses scope exported classes w).value
      (printClasses scope exported classes w).events := by
  induction classes generalizing w with
  | nil => exact .complete w (by simp)
  | cons c rest ih =>
    rw [printClasses, Logged.value_bind, Logged.events_bind]
    rcases scope.printClass_cases exported c w with
      ⟨next, hvalue, hresolved, hevents⟩ | ⟨e, events, hvalue, hbroken, hevents⟩
    · rw [hvalue, hevents]
      exact (ih next).cons hresolved
    · rw [hvalue, hevents]
      simpa using LogsClasses.broken [] c rest e events rfl (by simp) hbroken

end Scope

/-! ## Models -/

/-- The result and the log of printing a model.  If all types are found, every class is reported with what its
properties mention, and in the end the number of classes.  If not, there is a first property whose type is not
found, and the log ends with what is mentioned before it in its class. -/
inductive Model.Logs (m : Model) (options : Options) : Except ConversionError Text → List Event → Prop
  | complete (out : Text)
      (resolved : ∀ c ∈ m.classes, ∀ p ∈ c.properties, (m.scope options).Resolves p) :
      m.Logs options (.ok out)
        (.printingStarts m.classes.length :: m.classes.flatMap (m.scope options).classLog ++
          [.printed m.classes.length])
  | broken (before : List DataClass) (c : DataClass) (after : List DataClass)
      (earlier : List Property) (p : Property) (later : List Property) (cause : TypeError)
      (classes_eq : m.classes = before ++ c :: after) (properties_eq : c.properties = earlier ++ p :: later)
      (classes_resolved : ∀ b ∈ before, ∀ q ∈ b.properties, (m.scope options).Resolves q)
      (properties_resolved : ∀ q ∈ earlier, (m.scope options).Resolves q)
      (unresolved : ((m.scope options).resolve p.sourceType).value = .error cause) :
      m.Logs options (.error (.inProperty c.name p.name cause))
        (.printingStarts m.classes.length :: before.flatMap (m.scope options).classLog ++
          .printing c.name c.properties.length :: earlier.flatMap (m.scope options).mentions)

/-- The log of printing a model tells how far the printing came. -/
theorem log_tells_progress (m : Model) (options : Options) :
    m.Logs options (m.interfaces options).value (m.interfaces options).events := by
  have hclasses := (m.scope options).logsClasses options.exported m.classes (.start options.indentWidth)
  rw [Model.interfaces, Logged.value_bind, Logged.events_bind, Logged.value_bind, Logged.events_bind]
  cases hvalue : (printClasses (m.scope options) options.exported m.classes
      (.start options.indentWidth)).value with
  | ok w =>
    rw [hvalue] at hclasses
    generalize (printClasses (m.scope options) options.exported m.classes
      (.start options.indentWidth)).events = events at hclasses
    cases hclasses with
    | complete _ resolved => exact .complete w.result resolved
  | error e =>
    rw [hvalue] at hclasses
    generalize (printClasses (m.scope options) options.exported m.classes
      (.start options.indentWidth)).events = events at hclasses
    cases hclasses with
    | broken before c after _ inner classes_eq classes_resolved inner_broken =>
      cases inner_broken with
      | broken earlier p later cause properties_eq properties_resolved unresolved =>
        have hlog : m.Logs options _ _ := .broken before c after earlier p later cause classes_eq properties_eq
          classes_resolved properties_resolved unresolved
        simpa [Logged.report] using hlog

end InterfaceGen
