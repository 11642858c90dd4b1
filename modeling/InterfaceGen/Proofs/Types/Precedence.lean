import InterfaceGen.Proofs.Types.Core

/-!
# Reading types back

A written type is read back from its text, up to whether its name is that of a scalar.  Brackets bind more
tightly than `| undefined`, so that behind a text with `| undefined` at its end they would not apply to all of
it; parentheses hold such a text together.  An array of values that may be absent and an array that may be
absent are therefore never written alike.

Main definitions:

- `TypeShape`, `TargetType.shape`: target types without telling scalars from other types.
- `TypeShape.Written`: the grammar of written types.
- `TypeShape.read?`: a reader of written types, from left to right.

Main results:

- Theorem `read?_eq_some_iff`: the reader follows the grammar, so that no text has two readings.
- Theorem `written_text`: how a target type is written follows the grammar as well.
- Theorem `types_read_back`: a written type is read back, and types with the same text have the same shape.
-/

namespace InterfaceGen

open Text

/-! ## Shapes -/

/-- A target type in which scalars are not told from other types. -/
inductive TypeShape where
  | name (name : Text)
  | array (element : TypeShape)
  | optional (inner : TypeShape)
deriving DecidableEq, Repr

/-- The shape of a target type. -/
def TargetType.shape : TargetType → TypeShape
  | primitive name => .name name
  | reference name => .name name
  | array element => .array element.shape
  | optional inner => .optional inner.shape

/-! ## Grammar -/

/-- Whether a character may stand in a name: it is none of those that layers are written with. -/
def isTypeNameChar (c : Char) : Bool :=
  !"[]()| ".toList.contains c

/-- How tightly a text holds together: brackets behind a loose one would not apply to all of it. -/
inductive Bond where
  | tight
  | loose
deriving DecidableEq, Repr

namespace TypeShape

/-- How a shape is written: brackets stand behind a tight text, `| undefined` behind any, which makes it loose,
and parentheses around any, which makes it tight. -/
inductive Written : Bond → Text → TypeShape → Prop
  | name {name : Text} (hname : ∀ c ∈ name, isTypeNameChar c = true) : Written .tight name (.name name)
  | brackets {t : Text} {element : TypeShape} (h : Written .tight t element) :
    Written .tight (t ++ TargetType.arrayMark) (.array element)
  | absent {bond : Bond} {t : Text} {inner : TypeShape} (h : Written bond t inner) :
    Written .loose (t ++ TargetType.absentMark) (.optional inner)
  | parentheses {bond : Bond} {t : Text} {shape : TypeShape} (h : Written bond t shape) :
    Written .tight ('(' :: (t ++ [')'])) shape

/-! ## Reader -/

/-- Reads what stands behind a type, up to the end of the text, within so many open parentheses. -/
def readBehind? (depth : Nat) (bond : Bond) (shape : TypeShape) : Text → Option TypeShape
  | [] => if depth = 0 then some shape else none
  | ')' :: rest => if depth = 0 then none else readBehind? (depth - 1) .tight shape rest
  | '[' :: ']' :: rest => if bond = .tight then readBehind? depth .tight (.array shape) rest else none
  | ' ' :: '|' :: ' ' :: 'u' :: 'n' :: 'd' :: 'e' :: 'f' :: 'i' :: 'n' :: 'e' :: 'd' :: rest =>
    readBehind? depth .loose (.optional shape) rest
  | _ => none

/-- Reads a type: open parentheses, a name, and what stands behind it. -/
def read? (t : Text) : Option TypeShape :=
  let body := t.dropWhile (· == '(')
  readBehind? (t.takeWhile (· == '(')).length .tight (.name (body.takeWhile isTypeNameChar))
    (body.dropWhile isTypeNameChar)

/-- What is read within open parentheses is written with them around what stands before. -/
theorem exists_written_of_readBehind? {depth : Nat} {bond : Bond} {t rest : Text} {shape result : TypeShape}
    (hwritten : Written bond t shape) (h : readBehind? depth bond shape rest = some result) :
    ∃ bond', Written bond' (List.replicate depth '(' ++ (t ++ rest)) result := by
  fun_induction readBehind? depth bond shape rest generalizing t with
  | case1 bond shape =>
    obtain rfl := Option.some.inj h
    exact ⟨bond, by simpa using hwritten⟩
  | case4 bond shape depth rest hdepth ih =>
    obtain ⟨bond', hrest⟩ := ih (.parentheses hwritten) h
    obtain ⟨outer, rfl⟩ := Nat.exists_eq_add_one_of_ne_zero hdepth
    exact ⟨bond', by simpa [List.replicate_succ'] using hrest⟩
  | case5 shape depth rest ih =>
    obtain ⟨bond', hrest⟩ := ih (.brackets hwritten) h
    rw [List.append_assoc] at hrest
    exact ⟨bond', hrest⟩
  | case7 bond shape depth rest ih =>
    obtain ⟨bond', hrest⟩ := ih (.absent hwritten) h
    rw [List.append_assoc] at hrest
    exact ⟨bond', hrest⟩
  | case2 | case3 | case6 | case8 => cases h

/-- A text that continues neither a name nor the parentheses before one. -/
def EndsName (t : Text) : Prop :=
  ∀ c, t.head? = some c → isTypeNameChar c = false ∧ c ≠ '('

/-- What is written behind a type does not continue its name. -/
theorem endsName_cons {c : Char} (h : c ∈ ")[ ".toList) (rest : Text) : EndsName (c :: rest) := by
  intro d hd
  obtain rfl : c = d := by simpa using hd
  have hmark : c = ')' ∨ c = '[' ∨ c = ' ' := by simpa using h
  rcases hmark with rfl | rfl | rfl <;> decide

/-- A name does not go on in a text that is put together from two in which it does not. -/
theorem EndsName.append {t u : Text} (ht : EndsName t) (hu : EndsName u) : EndsName (t ++ u) := by
  intro c hc
  cases t with
  | nil => exact hu c hc
  | cons d more => exact ht c hc

/-- A written type falls into open parentheses, a name and a text that does not continue the name; and when
this text is read, the reader comes to the shape of the whole, within the parentheses around it. -/
theorem Written.exists_parts {bond : Bond} {t : Text} {shape : TypeShape} (h : Written bond t shape) :
    ∃ n name behind, t = List.replicate n '(' ++ (name ++ behind) ∧
      (∀ c ∈ name, isTypeNameChar c = true) ∧ EndsName behind ∧
      ∀ depth rest, readBehind? (depth + n) .tight (.name name) (behind ++ rest) =
        readBehind? depth bond shape rest := by
  induction h with
  | @name name hname => exact ⟨0, name, [], by simp, hname, by simp [EndsName], fun _ _ => rfl⟩
  | brackets h ih =>
    obtain ⟨n, name, behind, rfl, hname, hbehind, hread⟩ := ih
    refine ⟨n, name, behind ++ TargetType.arrayMark, by simp, hname,
      hbehind.append (endsName_cons (by decide) _), fun depth rest => ?_⟩
    rw [List.append_assoc, hread]
    rfl
  | absent h ih =>
    obtain ⟨n, name, behind, rfl, hname, hbehind, hread⟩ := ih
    refine ⟨n, name, behind ++ TargetType.absentMark, by simp, hname,
      hbehind.append (endsName_cons (by decide) _), fun depth rest => ?_⟩
    rw [List.append_assoc, hread]
    rfl
  | parentheses h ih =>
    obtain ⟨n, name, behind, rfl, hname, hbehind, hread⟩ := ih
    refine ⟨n + 1, name, behind ++ [')'], by simp [List.replicate_succ], hname,
      hbehind.append (endsName_cons (by decide) _), fun depth rest => ?_⟩
    rw [List.append_assoc, ← Nat.add_assoc, Nat.add_right_comm, hread]
    rfl

/-- The reader follows the grammar. -/
theorem read?_eq_some_iff {t : Text} {shape : TypeShape} :
    read? t = some shape ↔ ∃ bond, Written bond t shape := by
  constructor
  · intro h
    have hopen : ∀ c ∈ t.takeWhile (· == '('), c = '(' := fun c hc => by simpa using List.mem_takeWhile_imp hc
    have hname : ∀ c ∈ (t.dropWhile (· == '(')).takeWhile isTypeNameChar, isTypeNameChar c = true :=
      fun c hc => List.mem_takeWhile_imp hc
    obtain ⟨bond, hwritten⟩ := exists_written_of_readBehind? (.name hname) h
    rw [← List.eq_replicate_of_mem hopen, List.takeWhile_append_dropWhile,
      List.takeWhile_append_dropWhile] at hwritten
    exact ⟨bond, hwritten⟩
  · rintro ⟨bond, h⟩
    obtain ⟨n, name, behind, rfl, hname, hbehind, hread⟩ := h.exists_parts
    have hopen : ∀ c, (name ++ behind).head? = some c → (c == '(') = false := by
      intro c hc
      cases name with
      | nil => simpa using (hbehind c hc).2
      | cons d more =>
        obtain rfl : d = c := by simpa using hc
        have hd := hname d List.mem_cons_self
        rw [beq_eq_false_iff_ne]
        rintro rfl
        revert hd
        decide
    have hparens : ∀ c ∈ List.replicate n '(', (c == '(') = true := by simp
    obtain ⟨htake, hdrop⟩ := takeWhile_dropWhile_run hparens hopen
    obtain ⟨htake', hdrop'⟩ := takeWhile_dropWhile_run hname fun c hc => (hbehind c hc).1
    have hend := hread 0 []
    rw [List.append_nil, Nat.zero_add] at hend
    rw [read?, htake, hdrop, htake', hdrop', List.length_replicate, hend]
    rfl

end TypeShape

/-! ## Target types -/

/-- The name in a target type has none of the characters that layers are written with. -/
def TargetType.IsPlain (type : TargetType) : Prop :=
  ∀ c ∈ type.leaf.text, c ∉ "[]()| ".toList

/-- A name is plain if and only if all of its characters may stand in a name. -/
theorem isPlain_iff_all {type : TargetType} : type.leaf.text.all isTypeNameChar = true ↔ type.IsPlain := by
  simp [TargetType.IsPlain, isTypeNameChar]

instance (type : TargetType) : Decidable type.IsPlain :=
  decidable_of_iff _ isPlain_iff_all

/-- How a target type with a plain name is written: an optional type loosely, and every other one tightly. -/
theorem written_text {type : TargetType} (h : type.IsPlain) :
    TypeShape.Written (if type.isOptional then .loose else .tight) type.text type.shape := by
  induction type with
  | primitive name => exact .name (List.all_eq_true.1 (isPlain_iff_all.2 h))
  | reference name => exact .name (List.all_eq_true.1 (isPlain_iff_all.2 h))
  | array element ih =>
    have helement := ih h
    cases hoptional : element.isOptional with
    | true =>
      rw [TargetType.text, if_pos hoptional]
      exact helement.parentheses.brackets
    | false =>
      rw [hoptional] at helement
      rw [TargetType.text, hoptional]
      exact helement.brackets
  | optional inner ih => exact .absent (ih h)

/-- A target type with a plain name is read back from its text. -/
theorem read?_text {type : TargetType} (h : type.IsPlain) : TypeShape.read? type.text = some type.shape :=
  TypeShape.read?_eq_some_iff.2 ⟨_, written_text h⟩

/-- Written types are read back.  The reader follows the grammar, in which brackets bind more tightly than
`| undefined` and parentheses hold together what they enclose; it finds every type with a plain name again in
its text, however deep its layers are; so types with plain names and the same text are the same, up to whether
their name is that of a scalar. -/
theorem types_read_back :
    (∀ (t : Text) (shape : TypeShape),
      TypeShape.read? t = some shape ↔ ∃ bond, TypeShape.Written bond t shape) ∧
    (∀ type : TargetType, type.IsPlain → TypeShape.read? type.text = some type.shape) ∧
    ∀ type other : TargetType, type.IsPlain → other.IsPlain → type.text = other.text →
      type.shape = other.shape := by
  refine ⟨fun t shape => TypeShape.read?_eq_some_iff, fun type h => read?_text h, ?_⟩
  intro type other htype hother htext
  have hread := read?_text htype
  rw [htext, read?_text hother] at hread
  exact (Option.some.inj hread).symm

/-- Numbers that may be absent, in an array that may be absent. -/
def optionalNumbers : TargetType :=
  .optional (.array (.optional (.primitive "number".toList)))

/-- The same of another type with the name of the scalar. -/
def optionalReferences : TargetType :=
  .optional (.array (.optional (.reference "number".toList)))

/-- Both are written alike, read back, and the same up to their names. -/
theorem optionalNumbers_read_back :
    optionalNumbers.IsPlain ∧ optionalReferences.IsPlain ∧
      optionalNumbers.text = "(number | undefined)[] | undefined".toList ∧
      TypeShape.read? optionalNumbers.text = some optionalNumbers.shape ∧
      optionalNumbers.text = optionalReferences.text ∧ optionalNumbers.shape = optionalReferences.shape := by
  have hplain : optionalNumbers.IsPlain := by decide
  have hplain' : optionalReferences.IsPlain := by decide
  have htext : optionalNumbers.text = optionalReferences.text := by decide
  obtain ⟨-, hread, hshape⟩ := types_read_back
  exact ⟨hplain, hplain', by decide, hread _ hplain, htext, hshape _ _ hplain hplain' htext⟩

-- the brackets would belong to `undefined` alone
example : TypeShape.read? "number | undefined[]".toList = none := by decide

end InterfaceGen
