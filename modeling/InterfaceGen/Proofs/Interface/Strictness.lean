import InterfaceGen.Proofs.Interface.Blocks
import InterfaceGen.Proofs.Interface.FirstFailure
import InterfaceGen.Proofs.Types.Strictness

/-!
# Strict interfaces

Strictness makes printing fail where it would mention a type that is not among the interfaces; what is
printed nevertheless is what would be printed without it.

Main results:

- Theorem `failure?_strict_eq_some_iff`: a property fails strictly as it does leniently, or by the name of
  an undeclared type that it is made of.
- Theorems `interfaces_lenient_of_strict`, `exists_interfaces_strict_iff` and `error_of_interfaces_strict`:
  what strict printing gives, when it succeeds and how it fails.
- Theorem `strictness_restricts`: strict printing succeeds exactly on the models that are printed leniently
  and mention scalars and declared types only, and then gives the same text.
-/

namespace InterfaceGen

/-! ## Properties -/

/-- A property does not fail if and only if its type is resolved. -/
theorem failure?_eq_none_iff_resolves {scope : Scope} {declaration : Text × Property} :
    scope.failure? declaration = none ↔
      ∃ type, (scope.resolve declaration.2.sourceType).value = .ok type := by
  unfold Scope.failure?
  cases (scope.resolve declaration.2.sourceType).value with
  | error cause => simp
  | ok type => simp

section Properties

variable {scope : Scope}

/-- What is resolved strictly is resolved to the same leniently, and grounded. -/
theorem resolve_strict_eq_ok_iff {t : Text} {type : TargetType} :
    (scope.strict.resolve t).value = .ok type ↔
      (scope.lenient.resolve t).value = .ok type ∧ type.GroundedIn scope.declared := by
  rw [Scope.value_resolve_strict]
  constructor
  · intro h
    obtain ⟨found, hfound, hchecked⟩ := bind_eq_ok_iff.1 h
    obtain ⟨hgrounded, rfl⟩ := TargetType.checkedIn_eq_ok_iff.1 hchecked
    exact ⟨hfound, hgrounded⟩
  · rintro ⟨hfound, hgrounded⟩
    exact bind_eq_ok_iff.2 ⟨type, hfound, TargetType.checkedIn_eq_ok_iff.2 ⟨hgrounded, rfl⟩⟩

/-- A property fails strictly as it does leniently, or by the name of an undeclared type that its target
type is made of. -/
theorem failure?_strict_eq_some_iff {declaration : Text × Property} {e : ConversionError} :
    scope.strict.failure? declaration = some e ↔
      scope.lenient.failure? declaration = some e ∨
        ∃ type name, (scope.lenient.resolve declaration.2.sourceType).value = .ok type ∧
          type.leaf = .reference name ∧ name ∉ scope.declared ∧
          e = .inProperty declaration.1 declaration.2.name (.unmappable name) := by
  rw [failure?_eq_some_iff, failure?_eq_some_iff, Scope.value_resolve_strict]
  cases hresolve : (scope.lenient.resolve declaration.2.sourceType).value with
  | error cause => simp [Except.bind]
  | ok type =>
    change (∃ cause, type.checkedIn scope.declared = .error cause ∧ _) ↔ _
    simp only [TargetType.checkedIn_eq_error_iff]
    constructor
    · rintro ⟨cause, ⟨name, hleaf, hname, rfl⟩, rfl⟩
      exact .inr ⟨type, name, rfl, hleaf, hname, rfl⟩
    · rintro (⟨cause, habsurd, -⟩ | ⟨type', name, htype, hleaf, hname, rfl⟩)
      · cases habsurd
      · obtain rfl := Except.ok.inj htype
        exact ⟨.unmappable name, ⟨name, hleaf, hname, rfl⟩, rfl⟩

/-- A line that is printed strictly is printed leniently. -/
theorem line_lenient_of_strict {className t : Text} {p : Property}
    (h : scope.strict.line className p = .ok t) : scope.lenient.line className p = .ok t := by
  unfold Scope.line at h ⊢
  cases hresolve : (scope.strict.resolve p.sourceType).value with
  | error cause =>
    rw [hresolve] at h
    cases h
  | ok type =>
    rw [hresolve] at h
    rw [(resolve_strict_eq_ok_iff.1 hresolve).1]
    exact h

/-- A block that is printed strictly is printed leniently. -/
theorem block_lenient_of_strict {c : DataClass} {exported : Bool} {width : UInt64} {t : Text}
    (h : c.block scope.strict exported width = .ok t) : c.block scope.lenient exported width = .ok t := by
  obtain ⟨lines, hlines, hblock⟩ := bind_eq_ok_iff.1 h
  obtain ⟨line, hall, rfl⟩ := exists_of_mapM_eq_ok hlines
  have hlenient := mapM_eq_ok fun p hp => line_lenient_of_strict (hall p hp)
  exact bind_eq_ok_iff.2 ⟨_, hlenient, hblock⟩

end Properties

/-! ## Models -/

/-- Options with strictness. -/
def Options.strict (options : Options) : Options :=
  { options with isStrict := true }

/-- Options without strictness. -/
def Options.lenient (options : Options) : Options :=
  { options with isStrict := false }

@[simp] theorem scope_strict (m : Model) (options : Options) :
    m.scope options.strict = (m.scope options).strict := rfl

@[simp] theorem scope_lenient (m : Model) (options : Options) :
    m.scope options.lenient = (m.scope options).lenient := rfl

/-- A block that a strict model has is the one that it has without strictness. -/
theorem modelBlock_lenient_of_strict {m : Model} {options : Options} {c : DataClass} {t : Text}
    (h : m.block options.strict c = .ok t) : m.block options.lenient c = .ok t := by
  have hstrict : c.block (m.scope options).strict options.exported options.indentWidth = .ok t := h
  have hlenient := block_lenient_of_strict hstrict
  exact hlenient

/-- A model has interfaces if and only if all types of its properties are resolved. -/
theorem exists_interfaces_iff (m : Model) (options : Options) :
    (∃ out, (m.interfaces options).value = .ok out) ↔
      ∀ d ∈ m.declarations, ∃ type, ((m.scope options).resolve d.2.sourceType).value = .ok type := by
  have hfailure := interfaces_eq_error_iff m options
  have hnone : (m.declarations.findSome? (m.scope options).failure? = none) ↔
      ∀ d ∈ m.declarations, ∃ type, ((m.scope options).resolve d.2.sourceType).value = .ok type := by
    rw [List.findSome?_eq_none_iff]
    simp only [failure?_eq_none_iff_resolves]
  rw [← hnone]
  constructor
  · rintro ⟨out, hout⟩
    exact eq_none_of_ok hfailure hout
  · intro h
    cases hvalue : (m.interfaces options).value with
    | error e =>
      rw [(hfailure e).1 hvalue] at h
      cases h
    | ok out => exact ⟨out, rfl⟩

/-- A model that is printed strictly is printed as the same text leniently. -/
theorem interfaces_lenient_of_strict {m : Model} {options : Options} {out : Text}
    (h : (m.interfaces options.strict).value = .ok out) : (m.interfaces options.lenient).value = .ok out := by
  obtain ⟨block, hall, rfl⟩ := interfaces_eq_ok_iff.1 h
  exact interfaces_eq_ok_iff.2 ⟨block, fun c hc => modelBlock_lenient_of_strict (hall c hc), rfl⟩

/-- A model is printed strictly if and only if it is printed leniently and every type in it is made of a
scalar or of one of its classes. -/
theorem exists_interfaces_strict_iff (m : Model) (options : Options) :
    (∃ out, (m.interfaces options.strict).value = .ok out) ↔
      (∃ out, (m.interfaces options.lenient).value = .ok out) ∧
        ∀ d ∈ m.declarations, ∀ type,
          ((m.scope options).lenient.resolve d.2.sourceType).value = .ok type → type.GroundedIn m.names := by
  rw [exists_interfaces_iff, exists_interfaces_iff, scope_strict, scope_lenient]
  constructor
  · intro h
    refine ⟨fun d hd => ?_, fun d hd type htype => ?_⟩
    · obtain ⟨type, hstrict⟩ := h d hd
      exact ⟨type, (resolve_strict_eq_ok_iff.1 hstrict).1⟩
    · obtain ⟨found, hstrict⟩ := h d hd
      obtain ⟨hlenient, hgrounded⟩ := resolve_strict_eq_ok_iff.1 hstrict
      obtain rfl := Except.ok.inj (htype.symm.trans hlenient)
      exact hgrounded
  · rintro ⟨hlenient, hgrounded⟩ d hd
    obtain ⟨type, htype⟩ := hlenient d hd
    exact ⟨type, resolve_strict_eq_ok_iff.2 ⟨htype, hgrounded d hd type htype⟩⟩

/-- An error of strict printing is one of lenient printing, or names a type that is no class of the model. -/
theorem error_of_interfaces_strict {m : Model} {options : Options} {e : ConversionError}
    (h : (m.interfaces options.strict).value = .error e) :
    (m.interfaces options.lenient).value = .error e ∨
      ∃ d ∈ m.declarations, ∃ type name,
        ((m.scope options).lenient.resolve d.2.sourceType).value = .ok type ∧
          type.leaf = .reference name ∧ name ∉ m.names ∧
          e = .inProperty d.1 d.2.name (.unmappable name) := by
  rw [interfaces_eq_error_iff, scope_strict, List.findSome?_eq_some_iff] at h
  obtain ⟨before, d, after, hsplit, hfailure, hbefore⟩ := h
  rcases failure?_strict_eq_some_iff.1 hfailure with hlenient | ⟨type, name, htype, hleaf, hname, he⟩
  · left
    rw [interfaces_eq_error_iff, scope_lenient, List.findSome?_eq_some_iff]
    refine ⟨before, d, after, hsplit, hlenient, fun earlier hearlier => ?_⟩
    obtain ⟨type, hstrict⟩ := failure?_eq_none_iff_resolves.1 (hbefore earlier hearlier)
    exact failure?_eq_none_iff_resolves.2 ⟨type, (resolve_strict_eq_ok_iff.1 hstrict).1⟩
  · have hd : d ∈ m.declarations := by simp [hsplit]
    exact .inr ⟨d, hd, type, name, htype, hleaf, hname, he⟩

/-- What a strict model mentions: a type of its interfaces is made of a scalar of the vocabulary, or of a
class whose interface is part of the text. -/
theorem closed_of_interfaces_strict {m : Model} {options : Options} {out : Text}
    (hout : (m.interfaces options.strict).value = .ok out) {d : Text × Property}
    (hd : d ∈ m.declarations) :
    ∃ type, ((m.scope options).strict.resolve d.2.sourceType).value = .ok type ∧
      ((∃ key target, options.vocabulary.entry? key = some target ∧ type.leaf = .primitive target) ∨
        ∃ c ∈ m.classes, type.leaf = .reference c.name ∧
          ∃ block, m.block options.strict c = .ok block ∧ block <:+: out) := by
  obtain ⟨type, hresolve⟩ := (exists_interfaces_iff m options.strict).1 ⟨out, hout⟩ d hd
  rw [scope_strict] at hresolve
  refine ⟨type, hresolve, ?_⟩
  rcases (resolve_strict_eq_ok_iff.1 hresolve).2 with ⟨target, hprimitive⟩ | ⟨name, hname, hreference⟩
  · obtain ⟨core, -, -, -, hleaf⟩ := Scope.exists_core_of_resolve hresolve
    have htarget : options.vocabulary.target? core = some target :=
      meaningOf_eq_primitive_iff.1 (hleaf.symm.trans hprimitive)
    exact .inl ⟨Text.lowercase core, target, htarget, hprimitive⟩
  · change name ∈ m.names at hname
    obtain ⟨c, hc, rfl⟩ := List.mem_map.1 hname
    obtain ⟨block, hall, rfl⟩ := interfaces_eq_ok_iff.1 hout
    exact .inr ⟨c, hc, hreference, block c, hall c hc, infix_intercalate (List.mem_map_of_mem hc)⟩

/-- Strictness restricts: what it lets through is what is printed without it.  It lets a model through if
and only if the model is printed without it and every type is made of a scalar or of a class of the model;
the error is one without it, or names a type that is no class.  So the text of a strict model mentions
scalars of the vocabulary and interfaces of the text itself, and nothing else. -/
theorem strictness_restricts (m : Model) (options : Options) :
    (∀ out, (m.interfaces options.strict).value = .ok out →
      (m.interfaces options.lenient).value = .ok out) ∧
    ((∃ out, (m.interfaces options.strict).value = .ok out) ↔
      (∃ out, (m.interfaces options.lenient).value = .ok out) ∧
        ∀ d ∈ m.declarations, ∀ type,
          ((m.scope options).lenient.resolve d.2.sourceType).value = .ok type →
            type.GroundedIn m.names) ∧
    (∀ e, (m.interfaces options.lenient).value = .error e →
      ∃ e', (m.interfaces options.strict).value = .error e') ∧
    (∀ e, (m.interfaces options.strict).value = .error e →
      (m.interfaces options.lenient).value = .error e ∨
        ∃ d ∈ m.declarations, ∃ type name,
          ((m.scope options).lenient.resolve d.2.sourceType).value = .ok type ∧
            type.leaf = .reference name ∧ name ∉ m.names ∧
            e = .inProperty d.1 d.2.name (.unmappable name)) ∧
    ∀ out, (m.interfaces options.strict).value = .ok out →
      ∀ d ∈ m.declarations, ∃ type, ((m.scope options).strict.resolve d.2.sourceType).value = .ok type ∧
        ((∃ key target, options.vocabulary.entry? key = some target ∧ type.leaf = .primitive target) ∨
          ∃ c ∈ m.classes, type.leaf = .reference c.name ∧
            ∃ block, m.block options.strict c = .ok block ∧ block <:+: out) := by
  refine ⟨fun out hout => interfaces_lenient_of_strict hout, exists_interfaces_strict_iff m options, ?_,
    fun e he => error_of_interfaces_strict he, fun out hout d hd => closed_of_interfaces_strict hout hd⟩
  intro e he
  cases hstrict : (m.interfaces options.strict).value with
  | error strictly => exact ⟨strictly, rfl⟩
  | ok out =>
    rw [interfaces_lenient_of_strict hstrict] at he
    cases he

end InterfaceGen
