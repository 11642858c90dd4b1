import InterfaceGen.Proofs.Types.Layers
import Mathlib.Logic.Function.Iterate

/-!
# Well-formed type expressions

A type expression is a name, a known collection around an expression, or an expression with a question
mark behind it.  It has a meaning and a number of layers of its own, and resolving its text finds the
meaning as long as there are no more layers than are allowed.

Main definitions:

- `TypeExpr`: type expressions over a vocabulary.
- `TypeExpr.text`, `TypeExpr.meaning`, `TypeExpr.layers`: how they are written, what they mean, and how
  deep they are.
- `TypeExpr.peel`: an expression without its outermost layer.

Main results:

- Theorem `resolveWithin_text`: what resolving an expression gives with any number of layers allowed.
- Theorem `resolve_text`: an expression is resolved to its meaning up to 64 layers, and not beyond.
-/

namespace InterfaceGen

open Text

/-! ## Expressions -/

/-- A name in a type: not empty, and without blanks and the signs of layers. -/
structure TypeName where
  text : Text
  ne_nil : text ≠ []
  plain : ∀ c ∈ text, isBlank c = false ∧ c ≠ '<' ∧ c ≠ '>' ∧ c ≠ '?'

/-- A collection that can be written around its element. -/
structure Wrapper (v : Vocabulary) where
  text : Text
  known : v.isCollection text = true
  no_angle : '<' ∉ text
  not_indented : ∀ c, text.head? = some c → isBlank c = false

/-- What a name stands for: a scalar if it is one, and else another type. -/
def Vocabulary.meaningOf (v : Vocabulary) (name : Text) : TargetType :=
  match v.target? name with
  | some target => .primitive target
  | none => .reference name

/-- A type expression over a vocabulary. -/
inductive TypeExpr (v : Vocabulary) where
  | name (name : TypeName)
  | collection (wrapper : Wrapper v) (element : TypeExpr v)
  | optional (inner : TypeExpr v)

namespace TypeExpr

variable {v : Vocabulary}

/-- An expression as it is written. -/
def text : TypeExpr v → Text
  | name n => n.text
  | collection wrapper element => wrapper.text ++ '<' :: (element.text ++ ['>'])
  | optional inner => inner.text ++ ['?']

/-- The name inside all layers. -/
def leaf : TypeExpr v → TypeName
  | name n => n
  | collection _ element => element.leaf
  | optional inner => inner.leaf

/-- Whether there is a question mark behind an expression. -/
def isOptional : TypeExpr v → Bool
  | optional _ => true
  | _ => false

/-- The number of layers: one for each collection, and one for all question marks in a row. -/
def layers : TypeExpr v → Nat
  | name _ => 0
  | collection _ element => element.layers + 1
  | optional inner => if inner.isOptional then inner.layers else inner.layers + 1

/-- The target type that an expression stands for. -/
def meaning : TypeExpr v → TargetType
  | name n => v.meaningOf n.text
  | collection _ element => .array element.meaning
  | optional inner => if inner.meaning.isOptional then inner.meaning else .optional inner.meaning

/-- An expression without the question marks behind it. -/
def base : TypeExpr v → TypeExpr v
  | optional inner => inner.base
  | name n => name n
  | collection wrapper element => collection wrapper element

/-- An expression without its outermost layer. -/
def peel : TypeExpr v → TypeExpr v
  | name n => name n
  | collection _ element => element
  | optional inner => inner.base

/-! ## The text of an expression -/

/-- No expression begins with a blank. -/
theorem not_blank_head (e : TypeExpr v) : ∀ c, e.text.head? = some c → isBlank c = false := by
  induction e with
  | name n => exact fun c hc => (n.plain c (List.mem_of_mem_head? hc)).1
  | collection wrapper element ih =>
    intro c hc
    cases hwrapper : wrapper.text with
    | nil =>
      rw [text, hwrapper] at hc
      obtain rfl : '<' = c := by simpa using hc
      decide
    | cons d rest =>
      rw [text, hwrapper] at hc
      obtain rfl : d = c := by simpa using hc
      exact wrapper.not_indented d (by rw [hwrapper]; rfl)
  | optional inner ih =>
    intro c hc
    rw [text, List.head?_append] at hc
    cases hinner : inner.text.head? with
    | none =>
      rw [hinner] at hc
      obtain rfl : '?' = c := by simpa using hc
      decide
    | some d =>
      rw [hinner] at hc
      obtain rfl : d = c := by simpa using hc
      exact ih d hinner

/-- No expression ends with a blank. -/
theorem not_blank_last (e : TypeExpr v) : ∀ c, e.text.getLast? = some c → isBlank c = false := by
  intro c hc
  cases e with
  | name n => exact (n.plain c (List.mem_of_mem_getLast? hc)).1
  | collection wrapper element =>
    rw [text, ← List.cons_append, ← List.append_assoc, List.getLast?_concat] at hc
    obtain rfl := Option.some.inj hc
    decide
  | optional inner =>
    rw [text, List.getLast?_concat] at hc
    obtain rfl := Option.some.inj hc
    decide

/-- An expression is trimmed as it is written. -/
@[simp] theorem trim_text (e : TypeExpr v) : trim e.text = e.text :=
  trim_eq_self e.not_blank_head e.not_blank_last

/-- No expression is empty. -/
theorem text_ne_nil (e : TypeExpr v) : e.text ≠ [] := by
  cases e with
  | name n => exact n.ne_nil
  | collection wrapper element => simp [text]
  | optional inner => simp [text]

/-! ## Question marks behind an expression -/

/-- An expression is its base with question marks behind it. -/
theorem exists_text_eq_base (e : TypeExpr v) : ∃ n, e.text = e.base.text ++ List.replicate n '?' := by
  induction e with
  | name n => exact ⟨0, (List.append_nil _).symm⟩
  | collection wrapper element => exact ⟨0, (List.append_nil _).symm⟩
  | optional inner ih =>
    obtain ⟨n, hinner⟩ := ih
    exact ⟨n + 1, by rw [text, hinner, base, List.append_assoc, List.replicate_succ']⟩

/-- The base of an expression has no question mark behind it. -/
theorem getLast?_base (e : TypeExpr v) : e.base.text.getLast? ≠ some '?' := by
  induction e with
  | name n => exact fun hlast => (n.plain '?' (List.mem_of_mem_getLast? hlast)).2.2.2 rfl
  | collection wrapper element =>
    rw [base, text, ← List.cons_append, ← List.append_assoc, List.getLast?_concat]
    decide
  | optional inner ih => exact ih

/-- Within question marks there is the name within their base. -/
theorem leaf_base (e : TypeExpr v) : e.base.leaf = e.leaf := by
  induction e with
  | name n => rfl
  | collection wrapper element => rfl
  | optional inner ih => exact ih

/-- All question marks behind an expression are one layer around its base. -/
theorem layers_optional (inner : TypeExpr v) : (optional inner).layers = inner.base.layers + 1 := by
  induction inner with
  | name n => rfl
  | collection wrapper element => rfl
  | optional more ih => exact ih

/-- Question marks behind an expression make its base optional once. -/
theorem meaning_optional (inner : TypeExpr v) :
    (optional inner).meaning = inner.base.meaning.orAbsent := by
  have habsent : ∀ type : TargetType,
      (if type.isOptional then type else .optional type) = type.orAbsent := by
    intro type
    cases type <;> rfl
  have honce : ∀ type : TargetType, type.orAbsent.orAbsent = type.orAbsent := by
    intro type
    cases type <;> rfl
  induction inner with
  | name n => exact habsent _
  | collection wrapper element => exact habsent _
  | optional more ih => rw [meaning, habsent, ih, honce, base]

end TypeExpr

/-! ## Resolution -/

/-- The outermost layer of an expression. -/
def TypeExpr.layer {v : Vocabulary} : TypeExpr v → Layer
  | name n => .name n.text
  | collection _ element => .collection element.text
  | optional inner => .optional inner.base.text

/-- The outermost layer of an expression is peeled off its text. -/
theorem peel_text {v : Vocabulary} (e : TypeExpr v) : v.peel e.text = e.layer := by
  cases e with
  | name n =>
    exact peel_of_plain v (fun hmark => (n.plain '?' hmark).2.2.2 rfl)
      fun hangle => (n.plain '<' hangle).2.1 rfl
  | collection wrapper element => exact peel_collection v wrapper.known wrapper.no_angle element.text_ne_nil
  | optional inner =>
    obtain ⟨n, hinner⟩ := inner.exists_text_eq_base
    have hwhole : (TypeExpr.optional inner).text = inner.base.text ++ List.replicate (n + 1) '?' := by
      rw [TypeExpr.text, hinner, List.append_assoc, List.replicate_succ']
    rw [hwhole]
    exact peel_marks v inner.getLast?_base n

namespace Scope

/-- Whether a scope accepts a name: every name if it is not strict, and else scalars and declared names. -/
def Accepts (scope : Scope) (name : Text) : Prop :=
  scope.isStrict = false ∨ (scope.vocabulary.target? name).isSome = true ∨ name ∈ scope.declared

instance (scope : Scope) (name : Text) : Decidable (scope.Accepts name) :=
  inferInstanceAs (Decidable (_ ∨ _ ∨ _))

/-- A name has the target type that it stands for, if the scope accepts it. -/
theorem value_targetOfName (scope : Scope) {name : Text} (hne : name ≠ []) :
    (scope.targetOfName name).value =
      if scope.Accepts name then .ok (scope.vocabulary.meaningOf name) else .error (.unmappable name) := by
  have hempty : name.isEmpty = false := by simpa using hne
  rw [targetOfName, hempty]
  cases htarget : scope.vocabulary.target? name with
  | some target => simp [Accepts, Vocabulary.meaningOf, htarget]
  | none =>
    cases hstrict : scope.isStrict with
    | false => simp [Accepts, Vocabulary.meaningOf, htarget, hstrict]
    | true =>
      by_cases hdeclared : name ∈ scope.declared
      · simp [Accepts, Vocabulary.meaningOf, htarget, hstrict, hdeclared]
      · simp [Accepts, htarget, hstrict, hdeclared]

/-- A layer around a type is put around every result that is a type. -/
theorem map_outcome {p q : Prop} [Decidable p] [Decidable q] (layer : TargetType → TargetType)
    (type : TargetType) (e e' : TypeError) :
    (if p then if q then Except.ok type else .error e else .error e').map layer =
      if p then if q then .ok (layer type) else .error e else .error e' := by
  split_ifs <;> rfl

/-- With any number of layers allowed, an expression of fewer layers is resolved to its meaning if the
scope accepts its name, and of one with more layers the part that remains is reported. -/
theorem resolveWithin_text (scope : Scope) (allowance : Nat) (e : TypeExpr scope.vocabulary) :
    (scope.resolveWithin allowance e.text).value =
      if e.layers < allowance then
        if scope.Accepts e.leaf.text then .ok e.meaning else .error (.unmappable e.leaf.text)
      else .error (.malformed (TypeExpr.peel^[allowance] e).text) := by
  induction allowance generalizing e with
  | zero => simp [resolveWithin]
  | succ allowance ih =>
    rw [resolveWithin, TypeExpr.trim_text, peel_text, Function.iterate_succ_apply]
    cases e with
    | name n =>
      have hlayers : (TypeExpr.name n : TypeExpr scope.vocabulary).layers < allowance + 1 :=
        Nat.succ_pos allowance
      rw [if_pos hlayers]
      exact value_targetOfName scope n.ne_nil
    | collection wrapper element =>
      have hlayers : (TypeExpr.collection wrapper element).layers < allowance + 1 ↔
          element.layers < allowance := Nat.add_lt_add_iff_right
      have hmap := congrArg (Except.map TargetType.array) (ih element)
      rw [map_outcome] at hmap
      exact hmap.trans (if_congr hlayers rfl rfl).symm
    | optional inner =>
      have hlayers : (TypeExpr.optional inner).layers < allowance + 1 ↔
          inner.base.layers < allowance := by
        rw [TypeExpr.layers_optional]
        exact Nat.add_lt_add_iff_right
      have hmap := congrArg (Except.map TargetType.orAbsent) (ih inner.base)
      rw [map_outcome, TypeExpr.leaf_base, ← TypeExpr.meaning_optional] at hmap
      exact hmap.trans (if_congr hlayers rfl rfl).symm

/-- A type expression with at most 64 layers is resolved to its meaning, unless the scope is strict and
knows nothing of its name; of one with more layers, what remains after 65 of them is reported. -/
theorem resolve_text (scope : Scope) (e : TypeExpr scope.vocabulary) :
    (scope.resolve e.text).value =
      if e.layers ≤ 64 then
        if scope.Accepts e.leaf.text then .ok e.meaning else .error (.unmappable e.leaf.text)
      else .error (.malformed (TypeExpr.peel^[65] e).text) := by
  rw [resolve, resolveWithin_text]
  simp only [maxLayers, Nat.lt_succ_iff]

end Scope

end InterfaceGen
