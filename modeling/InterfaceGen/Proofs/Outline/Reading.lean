import InterfaceGen.Proofs.Outline.Matching

/-!
# Reading follows the matching

After any number of lines the outline holds what the positions of matching lines say: its closed classes
are those of the matched pairs, its open ones those of the headers without a match.  The argument is an
invariant of the open headers as a stack: each of them has exactly as many open classes inside as there
are open headers above it, so that a closing brace matches the top of the stack and nothing else, and a
property belongs to the top and to nothing else.

Main results:

- Theorem `depth_of_open`: the open headers are counted by their place in the stack.
- Theorem `Outline.Describes.addLine`: one line keeps an outline in agreement with the matching.
- Theorem `read_follows_matching`: every outline of a run agrees with the matching, idle lines change
  nothing, and the final model lists the matched pairs from the last closing brace to the first.
-/

namespace InterfaceGen.Source

open Text

variable {lines : List Text} {n : Nat}

/-! ## Open headers as a stack -/

/-- A header is open when it stands among the first lines and its count is defined. -/
theorem mem_openPositions {i : Nat} :
    i ∈ openPositions lines n ↔ i < n ∧ OpensAt lines i ∧ (depth lines i n).isSome := by
  rw [openPositions, List.mem_filter, List.mem_range]
  constructor
  · rintro ⟨hi, hopen⟩
    obtain ⟨hopens, hnone⟩ := of_decide_eq_true hopen
    exact ⟨hi, hopens, (unmatched_iff lines hi hopens).1 hnone⟩
  · rintro ⟨hi, hopens, hdepth⟩
    exact ⟨hi, decide_eq_true ⟨hopens, (unmatched_iff lines hi hopens).2 hdepth⟩⟩

/-- The open headers by position, said with the count. -/
theorem openPositions_eq_filter (lines : List Text) (n : Nat) :
    openPositions lines n =
      (List.range n).filter fun i => OpensAt lines i ∧ (depth lines i n).isSome := by
  apply List.filter_congr
  intro i hi
  have hiff : (OpensAt lines i ∧ ∀ j < n, ¬ Matches lines i j) ↔
      OpensAt lines i ∧ (depth lines i n).isSome :=
    and_congr_right fun hopens => unmatched_iff lines (List.mem_range.1 hi) hopens
  simp [hiff]

/-- One more line keeps the open headers whose count stays defined and adds its own position if it is a
header. -/
theorem openPositions_succ (lines : List Text) (n : Nat) :
    openPositions lines (n + 1) =
      (openPositions lines n).filter (fun i => (depth lines i (n + 1)).isSome) ++
        if OpensAt lines n then [n] else [] := by
  rw [openPositions_eq_filter, openPositions_eq_filter, List.range_succ, List.filter_append,
    List.filter_filter]
  congr 1
  · apply List.filter_congr
    intro i hi
    rw [Bool.eq_iff_iff]
    simp only [decide_eq_true_eq, Bool.and_eq_true]
    constructor
    · rintro ⟨hopens, hdepth⟩
      exact ⟨hdepth, hopens, ((depth_succ_isSome_iff lines (List.mem_range.1 hi) hopens).1 hdepth).1⟩
    · rintro ⟨hdepth, hopens, -⟩
      exact ⟨hopens, hdepth⟩
  · by_cases hopens : OpensAt lines n <;> simp [hopens, depth_self]

/-- A header joins the open ones. -/
theorem openPositions_succ_of_opening {name : Text} (hkind : kindAt lines n = some (.opening name)) :
    openPositions lines (n + 1) = openPositions lines n ++ [n] := by
  rw [openPositions_succ, if_pos ⟨name, hkind⟩]
  congr 1
  apply List.filter_eq_self.2
  intro i hi
  obtain ⟨hlt, -, hdepth⟩ := mem_openPositions.1 hi
  rw [depth_succ_of_opening lines hlt hkind]
  simpa using hdepth

/-- A line that is no header keeps the open headers whose count stays defined. -/
theorem openPositions_succ_of_not_opening (hkind : ∀ name, kindAt lines n ≠ some (.opening name)) :
    openPositions lines (n + 1) =
      (openPositions lines n).filter fun i => (depth lines i (n + 1)).isSome := by
  have hopens : ¬ OpensAt lines n := fun ⟨name, hopening⟩ => hkind name hopening
  rw [openPositions_succ, if_neg hopens, List.append_nil]

/-- A line that is no bracket keeps the open headers. -/
theorem openPositions_succ_of_plain (hkind : (kindAt lines n).bind LineKind.bracket? = none) :
    openPositions lines (n + 1) = openPositions lines n := by
  have hopening : ∀ name, kindAt lines n ≠ some (.opening name) := by
    intro name hkind'
    rw [hkind'] at hkind
    cases hkind
  rw [openPositions_succ_of_not_opening hopening]
  apply List.filter_eq_self.2
  intro i hi
  obtain ⟨hlt, -, hdepth⟩ := mem_openPositions.1 hi
  rwa [depth_succ_of_plain lines hlt hkind]

/-- A closing brace keeps the open headers that have an open class inside. -/
theorem openPositions_succ_of_closing (hkind : kindAt lines n = some .closing) :
    openPositions lines (n + 1) = (openPositions lines n).filter fun i => depth lines i n ≠ some 0 := by
  rw [openPositions_succ_of_not_opening (by simp [hkind])]
  apply List.filter_congr
  intro i hi
  obtain ⟨hlt, -, hdepth⟩ := mem_openPositions.1 hi
  obtain ⟨count, hcount⟩ := Option.isSome_iff_exists.1 hdepth
  rw [depth_succ_of_closing lines hlt hkind, hcount]
  by_cases hzero : count = 0 <;> simp [hzero]

/-- A position in the stack of open headers is one of the first lines. -/
theorem lt_of_mem_stack {k i : Nat} (h : (openPositions lines n).reverse[k]? = some i) : i < n :=
  (mem_openPositions.1 (List.mem_reverse.1 (List.mem_of_getElem? h))).1

/-- Every position of a list has its own place as its count. -/
def CountedByPlace (count : Nat → Option Nat) (stack : List Nat) : Prop :=
  ∀ k i, stack[k]? = some i → count i = some k

/-- In a list counted by places only the first position has the count zero. -/
theorem CountedByPlace.cons {count : Nat → Option Nat} {top : Nat} {rest : List Nat}
    (h : CountedByPlace count (top :: rest)) : count top = some 0 ∧ ∀ i ∈ rest, count i ≠ some 0 := by
  refine ⟨h 0 top rfl, fun i hi => ?_⟩
  obtain ⟨k, hk⟩ := List.mem_iff_getElem?.1 hi
  have hcount : count i = some (k + 1) := h (k + 1) i (by simpa using hk)
  simp [hcount]

/-- Positions with a count other than zero are all but the first. -/
theorem CountedByPlace.filter_ne {count : Nat → Option Nat} {stack : List Nat}
    (h : CountedByPlace count stack) : stack.filter (fun i => count i ≠ some 0) = stack.tail := by
  cases stack with
  | nil => rfl
  | cons top rest =>
    obtain ⟨htop, hrest⟩ := h.cons
    simpa [htop] using hrest

/-- The positions with count zero are the first one, if there is one. -/
theorem CountedByPlace.filter_eq {count : Nat → Option Nat} {stack : List Nat}
    (h : CountedByPlace count stack) :
    stack.filter (fun i => count i = some 0) = stack.head?.toList := by
  cases stack with
  | nil => rfl
  | cons top rest =>
    obtain ⟨htop, hrest⟩ := h.cons
    simpa [htop] using hrest

/-- The open headers, innermost first, are counted by their place: each has as many open classes inside
as open headers come before it. -/
theorem depth_of_open (lines : List Text) (n : Nat) :
    CountedByPlace (depth lines · n) (openPositions lines n).reverse := by
  induction n with
  | zero =>
    intro k i hi
    simp [openPositions] at hi
  | succ n ih =>
    intro k i hi
    rcases kindAt_cases lines n with ⟨name, hkind⟩ | hkind | hkind
    · rw [openPositions_succ_of_opening hkind, List.reverse_concat] at hi
      cases k with
      | zero =>
        obtain rfl : n = i := by simpa using hi
        exact depth_self lines n
      | succ k =>
        have hi : (openPositions lines n).reverse[k]? = some i := by simpa using hi
        have hdepth : depth lines i n = some k := ih k i hi
        change depth lines i (n + 1) = some (k + 1)
        rw [depth_succ_of_opening lines (lt_of_mem_stack hi) hkind, hdepth]
        rfl
    · rw [openPositions_succ_of_closing hkind, ← List.filter_reverse, ih.filter_ne,
        List.getElem?_tail] at hi
      have hdepth : depth lines i n = some (k + 1) := ih (k + 1) i hi
      change depth lines i (n + 1) = some k
      rw [depth_succ_of_closing lines (lt_of_mem_stack hi) hkind, hdepth]
      rfl
    · rw [openPositions_succ_of_plain hkind] at hi
      change depth lines i (n + 1) = some k
      rw [depth_succ_of_plain lines (lt_of_mem_stack hi) hkind]
      exact ih k i hi

/-! ## Matched pairs -/

/-- The matched pairs are exactly the matches with a closing brace among the first lines. -/
theorem mem_matchedPairs {i j : Nat} :
    (i, j) ∈ matchedPairs lines n ↔ j < n ∧ Matches lines i j := by
  simp only [matchedPairs, List.mem_flatMap, List.mem_range, List.mem_map, List.mem_filter,
    decide_eq_true_eq]
  constructor
  · rintro ⟨_, hj, _, ⟨-, hmatch⟩, rfl, rfl⟩
    exact ⟨hj, hmatch⟩
  · rintro ⟨hj, hmatch⟩
    exact ⟨j, hj, i, ⟨hmatch.lt, hmatch⟩, rfl⟩

/-- One more line adds its own matches. -/
theorem matchedPairs_succ (lines : List Text) (n : Nat) :
    matchedPairs lines (n + 1) =
      matchedPairs lines n ++ ((List.range n).filter fun i => Matches lines i n).map fun i => (i, n) := by
  simp [matchedPairs, List.range_succ]

/-- A closing brace matches the innermost open header and no other. -/
theorem matches_of_closing (hkind : kindAt lines n = some .closing) :
    ((List.range n).filter fun i => Matches lines i n) = (openPositions lines n).reverse.head?.toList := by
  have hopen : ((List.range n).filter fun i => Matches lines i n) =
      (openPositions lines n).filter fun i => depth lines i n = some 0 := by
    rw [openPositions_eq_filter, List.filter_filter]
    apply List.filter_congr
    intro i hi
    rw [Bool.eq_iff_iff]
    simp only [decide_eq_true_eq, Bool.and_eq_true]
    constructor
    · intro hmatch
      have hdepth := (balanced_iff lines i n).1 hmatch.balanced
      exact ⟨hdepth, hmatch.opens, by simp [hdepth]⟩
    · rintro ⟨hdepth, hopens, -⟩
      exact ⟨List.mem_range.1 hi, hopens, hkind, (balanced_iff lines i n).2 hdepth⟩
  have hstack := (depth_of_open lines n).filter_eq
  rw [List.filter_reverse] at hstack
  rw [hopen, ← List.reverse_reverse (List.filter _ _), hstack]
  cases (openPositions lines n).reverse.head? <;> rfl

/-- A line that is no closing brace matches nothing. -/
theorem matches_of_not_closing (hkind : kindAt lines n ≠ some .closing) :
    ((List.range n).filter fun i => Matches lines i n) = [] := by
  apply List.filter_eq_nil_iff.2
  intro i _ hmatch
  exact hkind (of_decide_eq_true hmatch).closes

/-- A line that is no closing brace adds no matched pair. -/
theorem matchedPairs_succ_of_not_closing (hkind : kindAt lines n ≠ some .closing) :
    matchedPairs lines (n + 1) = matchedPairs lines n := by
  rw [matchedPairs_succ, matches_of_not_closing hkind]
  simp

/-- The matched pairs are listed by strictly increasing closing position. -/
theorem pairwise_matchedPairs (lines : List Text) (n : Nat) :
    (matchedPairs lines n).Pairwise fun p q => p.2 < q.2 := by
  induction n with
  | zero => simp [matchedPairs]
  | succ n ih =>
    rw [matchedPairs_succ, List.pairwise_append]
    refine ⟨ih, ?_, ?_⟩
    · by_cases hkind : kindAt lines n = some .closing
      · rw [matches_of_closing hkind]
        cases (openPositions lines n).reverse.head? <;> simp
      · rw [matches_of_not_closing hkind]
        simp
    · rintro ⟨i, j⟩ hbefore ⟨i', j'⟩ hnew
      obtain ⟨_, _, hpair⟩ := List.mem_map.1 hnew
      cases hpair
      exact (mem_matchedPairs.1 hbefore).1

/-! ## Properties of a class -/

/-- One more line adds its property to the classes in which it is balanced. -/
theorem propertiesFrom_succ (lines : List Text) (i n : Nat) :
    propertiesFrom lines i (n + 1) =
      propertiesFrom lines i n ++
        (if i < n ∧ Balanced lines i n then (kindAt lines n).bind LineKind.declared? else none).toList := by
  rw [propertiesFrom, List.range_succ, List.filterMap_append]
  rfl

/-- A line that declares no property leaves every class as it is. -/
theorem classFrom_succ_of_undeclared (i : Nat)
    (hkind : (kindAt lines n).bind LineKind.declared? = none) :
    classFrom lines i (n + 1) = classFrom lines i n := by
  simp [classFrom, propertiesFrom_succ, hkind]

/-- A class with an open class inside is left as it is. -/
theorem classFrom_succ_of_depth {i : Nat} (hdepth : depth lines i n ≠ some 0) :
    classFrom lines i (n + 1) = classFrom lines i n := by
  have hbalanced : ¬ Balanced lines i n := mt (balanced_iff lines i n).1 hdepth
  simp [classFrom, propertiesFrom_succ, hbalanced]

/-- A property goes to the class without an open class inside. -/
theorem classFrom_succ_of_property {i : Nat} {name sourceType : Text} (h : i < n)
    (hkind : kindAt lines n = some (.property name sourceType)) (hdepth : depth lines i n = some 0) :
    classFrom lines i (n + 1) =
      { classFrom lines i n with
        properties := (classFrom lines i n).properties ++ [⟨name, sourceType⟩] } := by
  have hbalanced : Balanced lines i n := (balanced_iff lines i n).2 hdepth
  simp [classFrom, propertiesFrom_succ, h, hbalanced, hkind, LineKind.declared?]

/-- Right after its header a class has the name in the header and no property. -/
theorem classFrom_self {name : Text} (hkind : kindAt lines n = some (.opening name)) :
    classFrom lines n (n + 1) = ⟨name, []⟩ := by
  have hproperties : propertiesFrom lines n (n + 1) = [] := by
    apply List.filterMap_eq_nil_iff.2
    intro m hm
    have hle : ¬ n < m := by
      have := List.mem_range.1 hm
      omega
    simp [hle]
  simp [classFrom, nameAt, hkind, LineKind.openedName?, hproperties]

/-! ## Outlines of a run -/

/-- An outline says what the matching says of the first `n` lines: one closed class for each matched
pair, by closing position, and one open class for each header without a match, by position. -/
structure Outline.Describes (outline : Outline) (lines : List Text) (n : Nat) : Prop where
  closed_eq : outline.closed.reverse =
    (matchedPairs lines n).map fun pair => classFrom lines pair.1 pair.2
  opened_eq : outline.opened.reverse = (openPositions lines n).map fun i => classFrom lines i n

/-- The innermost open class, if there is one, is that of the top of the stack of open headers, and the
others are those of the rest of the stack. -/
theorem Outline.Describes.opened {outline : Outline} (h : outline.Describes lines n) :
    outline.opened = (openPositions lines n).reverse.map fun i => classFrom lines i n := by
  rw [List.map_reverse, ← h.opened_eq, List.reverse_reverse]

namespace Outline.Describes

variable {outline : Outline}

/-- Without an open class there is no open header. -/
theorem openPositions_eq_nil (h : outline.Describes lines n) (hopened : outline.opened = []) :
    openPositions lines n = [] := by
  simpa [hopened] using h.opened.symm

/-- The innermost open class and those around it are the top and the rest of the stack of headers. -/
theorem exists_stack {inner : DataClass} {outer : List DataClass} (h : outline.Describes lines n)
    (hopened : outline.opened = inner :: outer) :
    ∃ top rest, (openPositions lines n).reverse = top :: rest ∧ classFrom lines top n = inner ∧
      rest.map (fun i => classFrom lines i n) = outer := by
  have hstack := h.opened
  rw [hopened] at hstack
  exact List.map_eq_cons_iff.1 hstack.symm

/-- A header opens a class without properties. -/
theorem opening {name : Text} (h : outline.Describes lines n)
    (hkind : kindAt lines n = some (.opening name)) :
    Outline.Describes { outline with opened := ⟨name, []⟩ :: outline.opened } lines (n + 1) where
  closed_eq := by
    rw [matchedPairs_succ_of_not_closing (by simp [hkind])]
    exact h.closed_eq
  opened_eq := by
    have hsame : ∀ i ∈ openPositions lines n, classFrom lines i (n + 1) = classFrom lines i n :=
      fun i _ => classFrom_succ_of_undeclared i (by simp [hkind, LineKind.declared?])
    rw [openPositions_succ_of_opening hkind, List.map_append, List.map_congr_left hsame, ← h.opened_eq]
    simp [classFrom_self hkind]

/-- A line that is no bracket and declares no property leaves an outline as it is. -/
theorem plain (h : outline.Describes lines n)
    (hbracket : (kindAt lines n).bind LineKind.bracket? = none)
    (hdeclared : (kindAt lines n).bind LineKind.declared? = none) : outline.Describes lines (n + 1) where
  closed_eq := by
    have hkind : kindAt lines n ≠ some .closing := by
      intro hclosing
      simp [hclosing, LineKind.bracket?] at hbracket
    rw [matchedPairs_succ_of_not_closing hkind]
    exact h.closed_eq
  opened_eq := by
    have hsame : ∀ i ∈ openPositions lines n, classFrom lines i (n + 1) = classFrom lines i n :=
      fun i _ => classFrom_succ_of_undeclared i hdeclared
    rw [openPositions_succ_of_plain hbracket, List.map_congr_left hsame]
    exact h.opened_eq

/-- Without an open class a closing brace leaves an outline as it is. -/
theorem strayClosing (h : outline.Describes lines n) (hkind : kindAt lines n = some .closing)
    (hopened : outline.opened = []) : outline.Describes lines (n + 1) := by
  have hopen := h.openPositions_eq_nil hopened
  refine ⟨?_, ?_⟩
  · rw [matchedPairs_succ, matches_of_closing hkind, hopen]
    simpa using h.closed_eq
  · rw [openPositions_succ_of_closing hkind, hopen, hopened]
    rfl

/-- A closing brace closes the innermost open class. -/
theorem closing {inner : DataClass} {outer : List DataClass} (h : outline.Describes lines n)
    (hkind : kindAt lines n = some .closing) (hopened : outline.opened = inner :: outer) :
    Outline.Describes ⟨outer, inner :: outline.closed⟩ lines (n + 1) := by
  obtain ⟨top, rest, htop, rfl, rfl⟩ := h.exists_stack hopened
  refine ⟨?_, ?_⟩
  · rw [matchedPairs_succ, matches_of_closing hkind, htop, List.reverse_cons, h.closed_eq]
    simp
  · have hsame : ∀ i ∈ rest.reverse, classFrom lines i (n + 1) = classFrom lines i n :=
      fun i _ => classFrom_succ_of_undeclared i (by simp [hkind, LineKind.declared?])
    have hrest : openPositions lines (n + 1) = rest.reverse := by
      rw [openPositions_succ_of_closing hkind, ← List.reverse_reverse (List.filter _ _),
        ← List.filter_reverse, (depth_of_open lines n).filter_ne, htop, List.tail_cons]
    rw [hrest, List.map_congr_left hsame, List.map_reverse]

/-- Without an open class a property leaves an outline as it is. -/
theorem strayProperty {name sourceType : Text} (h : outline.Describes lines n)
    (hkind : kindAt lines n = some (.property name sourceType)) (hopened : outline.opened = []) :
    outline.Describes lines (n + 1) := by
  have hopen := h.openPositions_eq_nil hopened
  refine ⟨?_, ?_⟩
  · rw [matchedPairs_succ_of_not_closing (by simp [hkind])]
    exact h.closed_eq
  · rw [openPositions_succ_of_plain (by simp [hkind, LineKind.bracket?]), hopen, hopened]
    rfl

/-- A property is added to the innermost open class. -/
theorem property {name sourceType : Text} {inner : DataClass} {outer : List DataClass}
    (h : outline.Describes lines n) (hkind : kindAt lines n = some (.property name sourceType))
    (hopened : outline.opened = inner :: outer) :
    Outline.Describes
      { outline with
        opened := { inner with properties := inner.properties ++ [⟨name, sourceType⟩] } :: outer }
      lines (n + 1) := by
  obtain ⟨top, rest, htop, rfl, rfl⟩ := h.exists_stack hopened
  refine ⟨?_, ?_⟩
  · rw [matchedPairs_succ_of_not_closing (by simp [hkind])]
    exact h.closed_eq
  · have hcounted := depth_of_open lines n
    rw [htop] at hcounted
    obtain ⟨hdepth, hrest⟩ := hcounted.cons
    have hlt : top < n := lt_of_mem_stack (k := 0) (by rw [htop]; rfl)
    have hsame : ∀ i ∈ rest, classFrom lines i (n + 1) = classFrom lines i n :=
      fun i hi => classFrom_succ_of_depth (hrest i hi)
    rw [openPositions_succ_of_plain (by simp [hkind, LineKind.bracket?]), List.reverse_cons,
      ← List.reverse_reverse (openPositions lines n), htop, List.map_reverse, List.map_cons,
      List.map_congr_left hsame, classFrom_succ_of_property hlt hkind hdepth, List.reverse_cons]

/-- One line keeps an outline in agreement with the matching. -/
theorem addLine {line : Text} (h : outline.Describes lines n) (hline : lines[n]? = some line) :
    (outline.addLine line).2.Describes lines (n + 1) := by
  have hkind := kindAt_of_line hline
  unfold Outline.addLine
  generalize LineKind.ofLine line = kind at hkind ⊢
  cases kind with
  | opening name => exact h.opening hkind
  | closing =>
    cases hopened : outline.opened with
    | nil => simpa [Outline.step, hopened] using h.strayClosing hkind hopened
    | cons inner outer => simpa [Outline.step, hopened] using h.closing hkind hopened
  | property name sourceType =>
    cases hopened : outline.opened with
    | nil => simpa [Outline.step, hopened] using h.strayProperty hkind hopened
    | cons inner outer => simpa [Outline.step, hopened] using h.property hkind hopened
  | malformedHeader =>
    exact h.plain (by simp [hkind, LineKind.bracket?]) (by simp [hkind, LineKind.declared?])
  | other => exact h.plain (by simp [hkind, LineKind.bracket?]) (by simp [hkind, LineKind.declared?])

/-- Past the last line nothing changes. -/
theorem addNothing (h : outline.Describes lines n) (hline : lines[n]? = none) :
    outline.Describes lines (n + 1) :=
  h.plain (by simp [kindAt, hline]) (by simp [kindAt, hline])

/-- No class is open before a line without an enclosing header. -/
theorem opened_eq_nil (h : outline.Describes lines n)
    (hnone : ∀ i < n, ¬ (OpensAt lines i ∧ Balanced lines i n)) : outline.opened = [] := by
  rw [h.opened]
  cases hstack : (openPositions lines n).reverse with
  | nil => rfl
  | cons top rest =>
    have hmem : top ∈ openPositions lines n := List.mem_reverse.1 (by rw [hstack]; simp)
    obtain ⟨hlt, hopens, -⟩ := mem_openPositions.1 hmem
    have hdepth : depth lines top n = some 0 := depth_of_open lines n 0 top (by rw [hstack]; rfl)
    exact absurd ⟨hopens, (balanced_iff lines top n).2 hdepth⟩ (hnone top hlt)

/-- An idle line leaves the outline as it is. -/
theorem addLine_of_idle {line : Text} (h : outline.Describes lines n) (hline : lines[n]? = some line)
    (hidle : Idle lines n) : (outline.addLine line).2 = outline := by
  have hkind := kindAt_of_line hline
  unfold Outline.addLine
  unfold Idle at hidle
  rw [hkind] at hidle
  generalize LineKind.ofLine line = kind at hkind hidle ⊢
  cases kind with
  | opening name => exact hidle.elim
  | closing =>
    have hopened : outline.opened = [] :=
      h.opened_eq_nil fun i hi ⟨hopens, hbalanced⟩ => hidle i hi ⟨hi, hopens, hkind, hbalanced⟩
    simp [Outline.step, hopened]
  | property name sourceType =>
    have hopened : outline.opened = [] := h.opened_eq_nil hidle
    simp [Outline.step, hopened]
  | malformedHeader => rfl
  | other => rfl

end Outline.Describes

/-! ## Whole runs -/

/-- The outline after the first `n` lines. -/
def outlineAfter (lines : List Text) (n : Nat) : Outline :=
  (Outline.empty.addLines (lines.take n)).value

/-- The outline after one more line. -/
theorem outlineAfter_succ {line : Text} (hline : lines[n]? = some line) :
    outlineAfter lines (n + 1) = ((outlineAfter lines n).addLine line).2 := by
  rw [outlineAfter, List.take_add_one, hline, Outline.value_addLines_append]
  rfl

/-- Every outline of a run agrees with the matching. -/
theorem describes_outlineAfter (lines : List Text) (n : Nat) : (outlineAfter lines n).Describes lines n := by
  induction n with
  | zero => exact ⟨by simp [outlineAfter, Outline.addLines, Outline.empty, matchedPairs],
      by simp [outlineAfter, Outline.addLines, Outline.empty, openPositions]⟩
  | succ n ih =>
    cases hline : lines[n]? with
    | none =>
      have hsame : outlineAfter lines (n + 1) = outlineAfter lines n := by
        simp [outlineAfter, List.take_add_one, hline]
      rw [hsame]
      exact ih.addNothing hline
    | some line =>
      rw [outlineAfter_succ hline]
      exact ih.addLine hline

/-- The model of a source lists the matched pairs from the last closing brace to the first. -/
theorem classes_readLines (lines : List Text) :
    (readLines lines).value.classes =
      (matchedPairs lines lines.length).reverse.map fun pair => classFrom lines pair.1 pair.2 := by
  have hrun : (readLines lines).value.classes = (outlineAfter lines lines.length).closed := by
    rw [outlineAfter, List.take_length]
    rfl
  rw [hrun, List.map_reverse, ← (describes_outlineAfter lines lines.length).closed_eq,
    List.reverse_reverse]

/-- Reading follows the matching.  After any number of lines the outline has a closed class for each
matched pair and an open one for each header without a match, each with the properties that are balanced
in it; a line with no bearing on any class changes nothing; and the model lists the matched pairs from
the last closing brace to the first, so that no class comes before one that encloses it. -/
theorem read_follows_matching (lines : List Text) :
    (∀ n, (outlineAfter lines n).Describes lines n) ∧
      (∀ n i j, (i, j) ∈ matchedPairs lines n ↔ j < n ∧ Matches lines i j) ∧
      (∀ n, (matchedPairs lines n).Pairwise fun p q => p.2 < q.2) ∧
      (∀ n line, lines[n]? = some line → Idle lines n →
        ((outlineAfter lines n).addLine line).2 = outlineAfter lines n) ∧
      ((readLines lines).value.classes =
        (matchedPairs lines lines.length).reverse.map fun pair => classFrom lines pair.1 pair.2) ∧
      (matchedPairs lines lines.length).reverse.Pairwise fun p q => ¬ (q.1 < p.1 ∧ p.2 < q.2) := by
  refine ⟨describes_outlineAfter lines, fun n i j => mem_matchedPairs, pairwise_matchedPairs lines,
    fun n line hline hidle => (describes_outlineAfter lines n).addLine_of_idle hline hidle,
    classes_readLines lines, ?_⟩
  rw [List.pairwise_reverse]
  refine (pairwise_matchedPairs lines lines.length).imp fun hlt henclosing => ?_
  omega

/-- A stray closing brace, a class with a nested one and a property after it, and a class left open. -/
def untidyLines : List Text :=
  ["\x7d", "public class A", "public class B", "public int X \x7b get; set; \x7d", "\x7d",
    "public int Y \x7b get; set; \x7d", "\x7d", "public class C",
    "public int Z \x7b get; set; \x7d"].map String.toList

/-- In untidy lines the stray closing brace changes nothing, and of the classes two are kept. -/
theorem untidyLines_follow_matching :
    Idle untidyLines 0 ∧
      ((outlineAfter untidyLines 0).addLine ['}']).2 = outlineAfter untidyLines 0 ∧
      (readLines untidyLines).value.classes =
        [⟨"A".toList, [⟨"Y".toList, "int".toList⟩]⟩, ⟨"B".toList, [⟨"X".toList, "int".toList⟩]⟩] := by
  have hidle : Idle untidyLines 0 := by decide +kernel
  obtain ⟨-, -, -, hsame, hclasses, -⟩ := read_follows_matching untidyLines
  refine ⟨hidle, hsame 0 _ rfl hidle, ?_⟩
  rw [hclasses]
  decide +kernel

end InterfaceGen.Source
