import InterfaceGen.Types.Resolve
import Mathlib.Data.List.DropRight

/-!
# The outermost layer

A source type is peeled by its last character and its first `<`.  Here its outermost layer is described
by how the type is written around what it encloses: question marks behind a text that has none at its
end, or a known collection, `<` and `>` around a text that is not empty.

Main definitions:

- `Vocabulary.Encloses`: a type is one layer around another.

Main results:

- Theorems `peel_marks` and `peel_collection`: a layer is peeled off what it encloses.
- Theorem `peel_cases`: what is peeled is a layer, or else the type has none.
- Theorem `encloses_unique`: a type is a layer around one text at most.
-/

namespace InterfaceGen

/-! ## Question marks -/

/-- Question marks are dropped from behind a text that does not end in one. -/
theorem dropMarks_append {base : Text} (h : base.getLast? ≠ some '?') (n : Nat) :
    dropMarks (base ++ List.replicate n '?') = base := by
  change (base ++ List.replicate n '?').rdropWhile (· == '?') = base
  induction n with
  | zero =>
    rw [List.replicate_zero, List.append_nil, List.rdropWhile_eq_self_iff]
    intro hne hlast
    rw [List.getLast?_eq_some_getLast hne] at h
    exact h (congrArg some (eq_of_beq hlast))
  | succ n ih =>
    rw [List.replicate_succ', ← List.append_assoc, List.rdropWhile_concat_pos _ _ _ (by decide), ih]

/-- What is left without question marks does not end in one. -/
theorem getLast?_dropMarks (t : Text) : (dropMarks t).getLast? ≠ some '?' := by
  change (t.rdropWhile (· == '?')).getLast? ≠ some '?'
  intro hlast
  have hne : t.rdropWhile (· == '?') ≠ [] := by
    intro hnil
    simp [hnil] at hlast
  have hnot := List.rdropWhile_last_not (· == '?') t hne
  rw [List.getLast?_eq_some_getLast hne] at hlast
  rw [Option.some.inj hlast] at hnot
  exact hnot (by decide)

/-- A text that ends in a question mark is what is left of it, with question marks behind it. -/
theorem exists_marks {t : Text} (h : t.getLast? = some '?') :
    ∃ n, t = dropMarks t ++ List.replicate (n + 1) '?' := by
  have hsplit : dropMarks t ++ t.rtakeWhile (· == '?') = t := List.rdropWhile_append_rtakeWhile
  have hmarks : t.rtakeWhile (· == '?') = List.replicate (t.rtakeWhile (· == '?')).length '?' := by
    apply List.eq_replicate_of_mem
    intro c hc
    have hmark := List.mem_rtakeWhile_imp hc
    exact eq_of_beq hmark
  cases hlength : (t.rtakeWhile (· == '?')).length with
  | zero =>
    rw [List.eq_nil_of_length_eq_zero hlength, List.append_nil] at hsplit
    rw [← hsplit] at h
    exact absurd h (getLast?_dropMarks t)
  | succ n =>
    rw [hlength] at hmarks
    exact ⟨n, by rw [← hmarks, hsplit]⟩

/-! ## Collections -/

/-- The first `<` of a text stands behind everything without one. -/
theorem dropWhile_ne_angle {wrapper rest : Text} (h : '<' ∉ wrapper) :
    (wrapper ++ '<' :: rest).dropWhile (· != '<') = '<' :: rest := by
  have hwrapper : ∀ c ∈ wrapper, (c != '<') = true := by
    intro c hc
    simpa using fun heq : c = '<' => h (heq ▸ hc)
  rw [List.dropWhile_append_of_pos hwrapper, List.dropWhile_cons_of_neg (by decide)]

/-- What stands before the first `<` of a text is everything without one. -/
theorem takeWhile_ne_angle {wrapper rest : Text} (h : '<' ∉ wrapper) :
    (wrapper ++ '<' :: rest).takeWhile (· != '<') = wrapper := by
  have hwrapper : ∀ c ∈ wrapper, (c != '<') = true := by
    intro c hc
    simpa using fun heq : c = '<' => h (heq ▸ hc)
  rw [List.takeWhile_append_of_pos hwrapper, List.takeWhile_cons_of_neg (by decide), List.append_nil]

/-- A text that goes on after everything before its first `<` has one there. -/
theorem eq_of_dropWhile_ne_angle {body element : Text} {c : Char}
    (h : body.dropWhile (· != '<') = c :: element) :
    body = body.takeWhile (· != '<') ++ '<' :: element ∧ '<' ∉ body.takeWhile (· != '<') := by
  have hsplit : body.takeWhile (· != '<') ++ body.dropWhile (· != '<') = body :=
    List.takeWhile_append_dropWhile
  have hhead := List.head?_dropWhile_not (· != '<') body
  rw [h] at hhead hsplit
  obtain rfl : c = '<' := by simpa using hhead
  refine ⟨hsplit.symm, fun hmem => ?_⟩
  have hne := List.mem_takeWhile_imp hmem
  simp at hne

variable (v : Vocabulary)

/-- The elements of a type are those of a collection that is written around them. -/
theorem element?_eq_some_iff {t element : Text} :
    v.element? t = some element ↔
      ∃ wrapper, t = wrapper ++ '<' :: (element ++ ['>']) ∧ v.isCollection wrapper = true ∧
        '<' ∉ wrapper ∧ element ≠ [] := by
  constructor
  · intro h
    unfold Vocabulary.element? at h
    split at h
    · next hlast =>
      obtain ⟨body, rfl⟩ := List.getLast?_eq_some_iff.1 hlast
      rw [List.dropLast_concat] at h
      simp only at h
      split at h
      · cases h
      · next c found hdrop =>
        obtain ⟨hbody, hangle⟩ := eq_of_dropWhile_ne_angle hdrop
        split at h
        · cases h
        · next hfound =>
          obtain rfl := Option.some.inj h
          simp only [Bool.or_eq_true, List.isEmpty_iff, Bool.not_eq_eq_eq_not, Bool.not_true,
            not_or, Bool.not_eq_false] at hfound
          refine ⟨body.takeWhile (· != '<'), ?_, hfound.2, hangle, hfound.1⟩
          rw [← List.cons_append, ← List.append_assoc, ← hbody]
    · cases h
  · rintro ⟨wrapper, rfl, hwrapper, hangle, helement⟩
    have hwhole : wrapper ++ '<' :: (element ++ ['>']) = (wrapper ++ '<' :: element) ++ ['>'] := by
      rw [List.append_assoc, List.cons_append]
    unfold Vocabulary.element?
    rw [hwhole, if_pos List.getLast?_concat, List.dropLast_concat]
    simp only [dropWhile_ne_angle hangle, takeWhile_ne_angle hangle]
    rw [if_neg (by simp [helement, hwrapper])]

/-! ## Layers -/

/-- A type is one layer around another: question marks behind it, or a known collection around it. -/
inductive Vocabulary.Encloses : Text → Text → Prop
  /-- All question marks behind a type are one layer. -/
  | marks {base : Text} (n : Nat) (hbase : base.getLast? ≠ some '?') :
      Encloses (base ++ List.replicate (n + 1) '?') base
  /-- A collection encloses something. -/
  | collection {wrapper element : Text} (hwrapper : v.isCollection wrapper = true)
      (hangle : '<' ∉ wrapper) (helement : element ≠ []) :
      Encloses (wrapper ++ '<' :: (element ++ ['>'])) element

/-- Question marks are peeled off all at once. -/
theorem peel_marks {base : Text} (hbase : base.getLast? ≠ some '?') (n : Nat) :
    v.peel (base ++ List.replicate (n + 1) '?') = .optional base := by
  have hlast : (base ++ List.replicate (n + 1) '?').getLast? = some '?' := by
    rw [List.replicate_succ', ← List.append_assoc, List.getLast?_concat]
  rw [Vocabulary.peel, if_pos hlast, dropMarks_append hbase]

/-- A collection is peeled off its element. -/
theorem peel_collection {wrapper element : Text} (hwrapper : v.isCollection wrapper = true)
    (hangle : '<' ∉ wrapper) (helement : element ≠ []) :
    v.peel (wrapper ++ '<' :: (element ++ ['>'])) = .collection element := by
  have hfound : v.element? (wrapper ++ '<' :: (element ++ ['>'])) = some element :=
    (element?_eq_some_iff v).2 ⟨wrapper, rfl, hwrapper, hangle, helement⟩
  have hlast : (wrapper ++ '<' :: (element ++ ['>'])).getLast? ≠ some '?' := by
    rw [← List.cons_append, ← List.append_assoc, List.getLast?_concat]
    decide
  rw [Vocabulary.peel, if_neg hlast, hfound]

/-- What is peeled off a layer is what it encloses. -/
theorem peel_of_encloses {t inner : Text} (h : v.Encloses t inner) :
    v.peel t = .optional inner ∨ v.peel t = .collection inner := by
  cases h with
  | marks n hbase => exact .inl (peel_marks v hbase n)
  | collection hwrapper hangle helement => exact .inr (peel_collection v hwrapper hangle helement)

/-- What is peeled off a type is a layer of it, or else the type has none. -/
theorem peel_cases (t : Text) :
    (∃ inner, v.peel t = .optional inner ∧ v.Encloses t inner) ∨
      (∃ element, v.peel t = .collection element ∧ v.Encloses t element) ∨
      (v.peel t = .name t ∧ ∀ u, ¬ v.Encloses t u) := by
  by_cases hlast : t.getLast? = some '?'
  · obtain ⟨n, ht⟩ := exists_marks hlast
    refine .inl ⟨dropMarks t, by rw [Vocabulary.peel, if_pos hlast], ?_⟩
    have hlayer : v.Encloses (dropMarks t ++ List.replicate (n + 1) '?') (dropMarks t) :=
      .marks n (getLast?_dropMarks t)
    rwa [← ht] at hlayer
  · cases hfound : v.element? t with
    | some element =>
      obtain ⟨wrapper, rfl, hwrapper, hangle, helement⟩ := (element?_eq_some_iff v).1 hfound
      exact .inr (.inl ⟨element, peel_collection v hwrapper hangle helement,
        .collection hwrapper hangle helement⟩)
    | none =>
      have hpeel : v.peel t = .name t := by rw [Vocabulary.peel, if_neg hlast, hfound]
      refine .inr (.inr ⟨hpeel, ?_⟩)
      intro u hlayer
      rcases peel_of_encloses v hlayer with h | h
      · rw [h] at hpeel
        cases hpeel
      · rw [h] at hpeel
        cases hpeel

/-- A layer is written with a question mark or a `<`. -/
theorem mem_of_encloses {t u : Text} (h : v.Encloses t u) : '?' ∈ t ∨ '<' ∈ t := by
  cases h with
  | marks n hbase => exact .inl (List.mem_append_right _ (List.mem_replicate.2 ⟨Nat.succ_ne_zero n, rfl⟩))
  | collection hwrapper hangle helement => exact .inr (List.mem_append_right _ List.mem_cons_self)

/-- Without question marks and `<` there is no layer to peel off. -/
theorem peel_of_plain {t : Text} (hmark : '?' ∉ t) (hangle : '<' ∉ t) : v.peel t = .name t := by
  have hnone : ∀ u, ¬ v.Encloses t u := fun u hlayer => (mem_of_encloses v hlayer).elim hmark hangle
  rcases peel_cases v t with ⟨inner, -, hlayer⟩ | ⟨element, -, hlayer⟩ | ⟨hpeel, -⟩
  · exact absurd hlayer (hnone inner)
  · exact absurd hlayer (hnone element)
  · exact hpeel

/-- A type is a layer around one text at most. -/
theorem encloses_unique {t u w : Text} (hu : v.Encloses t u) (hw : v.Encloses t w) : u = w := by
  have hlayer := peel_of_encloses v hw
  rcases peel_of_encloses v hu with h | h
  · rw [h] at hlayer
    rcases hlayer with hsame | hother
    · exact Layer.optional.inj hsame
    · cases hother
  · rw [h] at hlayer
    rcases hlayer with hother | hsame
    · cases hother
    · exact Layer.collection.inj hsame

end InterfaceGen
