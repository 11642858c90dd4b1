import InterfaceGen.Source.Outline
import Mathlib.Combinatorics.Enumerative.DyckWord

/-!
# Matching lines by position

Which closing brace belongs to which class header can be said without an outline: the headers and
closing braces strictly between the two form a balanced word.  This module says so for the lines of a
source, and says by positions alone which classes are closed, which are left open and which properties
each of them has.

Main definitions:

- `Balanced`: the headers and closing braces strictly between two positions form a Dyck word.
- `Matches`: the closing brace at one position belongs to the header at another.
- `matchedPairs`, `openPositions`: the matches among the first lines, and the headers without one.
- `classFrom`: the class that a header opens, as far as some position.

Main results:

- Theorem `balanced_iff`: balance is decided by counting open classes from left to right.
- Theorem `depth_succ`: how one more line changes that count.
- Theorem `unmatched_iff`: a header has no match as long as the count is defined.
-/

namespace InterfaceGen.Source

open Text

/-! ## Lines and brackets -/

/-- The kind of the line at a position. -/
def kindAt (lines : List Text) (n : Nat) : Option LineKind :=
  lines[n]?.map LineKind.ofLine

/-- The kind at a position is that of the line there. -/
theorem kindAt_of_line {lines : List Text} {n : Nat} {line : Text} (h : lines[n]? = some line) :
    kindAt lines n = some (LineKind.ofLine line) := by
  rw [kindAt, h, Option.map_some]

/-- A class header is an opening bracket and a closing brace a closing one. -/
def LineKind.bracket? : LineKind → Option DyckStep
  | .opening _ => some .U
  | .closing => some .D
  | _ => none

/-- A line is a class header, a closing brace or no bracket. -/
theorem kindAt_cases (lines : List Text) (n : Nat) :
    (∃ name, kindAt lines n = some (.opening name)) ∨ kindAt lines n = some .closing ∨
      (kindAt lines n).bind LineKind.bracket? = none := by
  cases kindAt lines n with
  | none => simp
  | some kind => cases kind <;> simp [LineKind.bracket?]

/-- The brackets strictly between two positions, in order. -/
def bracketsBetween (lines : List Text) (i m : Nat) : List DyckStep :=
  ((lines.take m).drop (i + 1)).filterMap fun line => (LineKind.ofLine line).bracket?

/-- The brackets strictly between two positions form a Dyck word. -/
def Balanced (lines : List Text) (i m : Nat) : Prop :=
  ∃ word : DyckWord, word.toList = bracketsBetween lines i m

/-- One more line adds its bracket, if it is one. -/
theorem bracketsBetween_succ (lines : List Text) {i n : Nat} (h : i < n) :
    bracketsBetween lines i (n + 1) =
      bracketsBetween lines i n ++ ((kindAt lines n).bind LineKind.bracket?).toList := by
  unfold bracketsBetween kindAt
  cases hline : lines[n]? with
  | none =>
    have hlen : lines.length ≤ n := List.getElem?_eq_none_iff.1 hline
    simp [List.take_of_length_le hlen, List.take_of_length_le (Nat.le_succ_of_le hlen)]
  | some line =>
    have hlen : n < lines.length := (List.getElem?_eq_some_iff.1 hline).1
    have htake : (lines.take n).length = n := by simp; omega
    rw [List.take_add_one, hline, Option.toList_some, List.drop_append_of_le_length (by omega),
      List.filterMap_append]
    cases hbracket : (LineKind.ofLine line).bracket? <;> simp [hbracket]

/-- Nothing stands strictly between a position and the next one. -/
theorem bracketsBetween_self (lines : List Text) (n : Nat) : bracketsBetween lines n (n + 1) = [] := by
  have hlen : (lines.take (n + 1)).length ≤ n + 1 := by simp
  simp [bracketsBetween, List.drop_eq_nil_of_le hlen]

/-! ## Counting open classes -/

/-- The count of open classes after one bracket; none when there is no class to close. -/
def countBracket (count : Nat) : DyckStep → Option Nat
  | .U => some (count + 1)
  | .D => if count = 0 then none else some (count - 1)

/-- The count of open classes after some brackets; none once there is no class to close. -/
def countBrackets (count : Nat) (word : List DyckStep) : Option Nat :=
  word.foldlM countBracket count

/-- The count after some brackets, said by the numbers of both brackets in every prefix. -/
theorem countBrackets_eq_some_iff (word : List DyckStep) (count rest : Nat) :
    countBrackets count word = some rest ↔
      count + word.count .U = rest + word.count .D ∧
        ∀ k, (word.take k).count .D ≤ count + (word.take k).count .U := by
  induction word generalizing count with
  | nil => simp [countBrackets]
  | cons bracket word ih =>
    have hshift : (∀ k, ((bracket :: word).take k).count .D ≤
          count + ((bracket :: word).take k).count .U) ↔
        ∀ k, (bracket :: word.take k).count .D ≤ count + (bracket :: word.take k).count .U := by
      constructor
      · intro h k
        simpa using h (k + 1)
      · intro h k
        cases k with
        | zero => simp
        | succ k => simpa using h k
    rw [hshift]
    cases bracket with
    | U =>
      have hstep : countBrackets count (.U :: word) = countBrackets (count + 1) word := rfl
      rw [hstep, ih]
      simp only [List.count_cons_self, List.count_cons_of_ne (show DyckStep.U ≠ .D by decide)]
      constructor
      · rintro ⟨htotal, hall⟩
        exact ⟨by omega, fun k => by have := hall k; omega⟩
      · rintro ⟨htotal, hall⟩
        exact ⟨by omega, fun k => by have := hall k; omega⟩
    | D =>
      simp only [List.count_cons_self, List.count_cons_of_ne (show DyckStep.D ≠ .U by decide)]
      cases count with
      | zero =>
        have hstep : countBrackets 0 (.D :: word) = none := rfl
        rw [hstep]
        constructor
        · intro h
          cases h
        · rintro ⟨-, hall⟩
          have := hall 0
          simp at this
      | succ count =>
        have hstep : countBrackets (count + 1) (.D :: word) = countBrackets count word := rfl
        rw [hstep, ih]
        constructor
        · rintro ⟨htotal, hall⟩
          exact ⟨by omega, fun k => by have := hall k; omega⟩
        · rintro ⟨htotal, hall⟩
          exact ⟨by omega, fun k => by have := hall k; omega⟩

/-- How many classes are open inside the one that opens at `i`, before the line at `n`; none if it is
closed there. -/
def depth (lines : List Text) (i n : Nat) : Option Nat :=
  countBrackets 0 (bracketsBetween lines i n)

/-- Two positions are balanced when no class between them is open at the second one. -/
theorem balanced_iff (lines : List Text) (i m : Nat) :
    Balanced lines i m ↔ depth lines i m = some 0 := by
  rw [depth, countBrackets_eq_some_iff]
  simp only [Nat.zero_add]
  constructor
  · rintro ⟨word, hword⟩
    rw [← hword]
    exact ⟨word.count_U_eq_count_D, word.count_D_le_count_U⟩
  · rintro ⟨htotal, hall⟩
    exact ⟨⟨_, htotal, hall⟩, rfl⟩

instance (lines : List Text) (i m : Nat) : Decidable (Balanced lines i m) :=
  decidable_of_iff _ (balanced_iff lines i m).symm

/-- Right after its header a class has no open class inside. -/
theorem depth_self (lines : List Text) (n : Nat) : depth lines n (n + 1) = some 0 := by
  rw [depth, bracketsBetween_self]
  rfl

/-- One more line changes the count by its bracket, if it is one. -/
theorem depth_succ (lines : List Text) {i n : Nat} (h : i < n) :
    depth lines i (n + 1) =
      (depth lines i n).bind fun count =>
        ((kindAt lines n).bind LineKind.bracket?).elim (some count) (countBracket count) := by
  rw [depth, bracketsBetween_succ lines h, countBrackets, List.foldlM_append, Option.bind_eq_bind]
  refine congrArg (Option.bind _) (funext fun count => ?_)
  cases (kindAt lines n).bind LineKind.bracket? <;> simp

/-- A header between two positions opens one more class. -/
theorem depth_succ_of_opening (lines : List Text) {i n : Nat} {name : Text} (h : i < n)
    (hkind : kindAt lines n = some (.opening name)) :
    depth lines i (n + 1) = (depth lines i n).map (· + 1) := by
  rw [depth_succ lines h, hkind]
  cases depth lines i n <;> rfl

/-- A closing brace between two positions closes the last open class, or else the one outside. -/
theorem depth_succ_of_closing (lines : List Text) {i n : Nat} (h : i < n)
    (hkind : kindAt lines n = some .closing) :
    depth lines i (n + 1) =
      (depth lines i n).bind fun count => if count = 0 then none else some (count - 1) := by
  rw [depth_succ lines h, hkind]
  rfl

/-- A line that is no bracket leaves the count as it is. -/
theorem depth_succ_of_plain (lines : List Text) {i n : Nat} (h : i < n)
    (hkind : (kindAt lines n).bind LineKind.bracket? = none) :
    depth lines i (n + 1) = depth lines i n := by
  rw [depth_succ lines h, hkind]
  cases depth lines i n <;> rfl

/-! ## Matching headers and closing braces -/

/-- The name of the class that a line of some kind opens. -/
def LineKind.openedName? : LineKind → Option Text
  | .opening name => some name
  | _ => none

/-- A class header stands at a position. -/
def OpensAt (lines : List Text) (n : Nat) : Prop :=
  ∃ name, kindAt lines n = some (.opening name)

instance (lines : List Text) (n : Nat) : Decidable (OpensAt lines n) :=
  decidable_of_iff (((kindAt lines n).bind LineKind.openedName?).isSome = true) <| by
    unfold OpensAt
    cases kindAt lines n with
    | none => simp
    | some kind => cases kind <;> simp [LineKind.openedName?]

/-- The closing brace at `j` belongs to the class header at `i`. -/
structure Matches (lines : List Text) (i j : Nat) : Prop where
  lt : i < j
  opens : OpensAt lines i
  closes : kindAt lines j = some .closing
  balanced : Balanced lines i j

instance (lines : List Text) (i j : Nat) : Decidable (Matches lines i j) :=
  decidable_of_iff (i < j ∧ OpensAt lines i ∧ kindAt lines j = some .closing ∧ Balanced lines i j)
    ⟨fun ⟨lt, opens, closes, balanced⟩ => ⟨lt, opens, closes, balanced⟩,
      fun ⟨lt, opens, closes, balanced⟩ => ⟨lt, opens, closes, balanced⟩⟩

/-- The line at `n` ends the count of an open class exactly when it is its closing brace. -/
theorem depth_succ_isSome_iff (lines : List Text) {i n : Nat} (h : i < n) (hopens : OpensAt lines i) :
    (depth lines i (n + 1)).isSome ↔ (depth lines i n).isSome ∧ ¬ Matches lines i n := by
  have hmatches : Matches lines i n ↔
      kindAt lines n = some .closing ∧ depth lines i n = some 0 := by
    constructor
    · intro hmatch
      exact ⟨hmatch.closes, (balanced_iff lines i n).1 hmatch.balanced⟩
    · rintro ⟨hcloses, hdepth⟩
      exact ⟨h, hopens, hcloses, (balanced_iff lines i n).2 hdepth⟩
  rw [hmatches]
  by_cases hcloses : kindAt lines n = some .closing
  · rw [depth_succ_of_closing lines h hcloses]
    cases depth lines i n with
    | none => simp
    | some count => by_cases hzero : count = 0 <;> simp [hcloses, hzero]
  · simp only [hcloses, false_and, not_false_eq_true, and_true]
    rw [depth_succ lines h]
    cases hdepth : depth lines i n with
    | none => simp
    | some count =>
      cases hkind : kindAt lines n with
      | none => simp
      | some kind => cases kind <;> simp_all [LineKind.bracket?, countBracket]

/-- A header has no match among the first lines as long as its count is defined. -/
theorem unmatched_iff (lines : List Text) {i n : Nat} (h : i < n) (hopens : OpensAt lines i) :
    (∀ j < n, ¬ Matches lines i j) ↔ (depth lines i n).isSome := by
  induction n, h using Nat.le_induction with
  | base =>
    simp only [depth_self, Option.isSome_some, iff_true]
    intro j hj hmatch
    have := hmatch.lt
    omega
  | succ n hn ih =>
    rw [depth_succ_isSome_iff lines hn hopens, ← ih]
    constructor
    · intro hnone
      exact ⟨fun j hj => hnone j (by omega), hnone n (by omega)⟩
    · rintro ⟨hbefore, hlast⟩ j hj
      rcases Nat.lt_succ_iff_lt_or_eq.1 hj with hlt | rfl
      · exact hbefore j hlt
      · exact hlast

/-! ## Closed and open classes -/

/-- The headers among the first `n` lines whose closing brace is not among them, by position. -/
def openPositions (lines : List Text) (n : Nat) : List Nat :=
  (List.range n).filter fun i => OpensAt lines i ∧ ∀ j < n, ¬ Matches lines i j

/-- The headers among the first `n` lines with their closing braces, by closing position. -/
def matchedPairs (lines : List Text) (n : Nat) : List (Nat × Nat) :=
  (List.range n).flatMap fun j =>
    ((List.range j).filter fun i => Matches lines i j).map fun i => (i, j)

/-- The property that a line of some kind declares. -/
def LineKind.declared? : LineKind → Option Property
  | .property name sourceType => some ⟨name, sourceType⟩
  | _ => none

/-- The name in the header at a position. -/
def nameAt (lines : List Text) (i : Nat) : Text :=
  ((kindAt lines i).bind LineKind.openedName?).getD []

/-- The properties declared between a header and position `stop` with all classes closed that open
after the header. -/
def propertiesFrom (lines : List Text) (i stop : Nat) : List Property :=
  (List.range stop).filterMap fun m =>
    if i < m ∧ Balanced lines i m then (kindAt lines m).bind LineKind.declared? else none

/-- The class that the header at `i` opens, with the properties it has before position `stop`. -/
def classFrom (lines : List Text) (i stop : Nat) : DataClass :=
  ⟨nameAt lines i, propertiesFrom lines i stop⟩

/-- The line at a position has no bearing on any class: a closing brace without a header, a property
outside of all classes, or a line that is neither header, closing brace nor property. -/
def Idle (lines : List Text) (n : Nat) : Prop :=
  match kindAt lines n with
  | some (.opening _) => False
  | some .closing => ∀ i < n, ¬ Matches lines i n
  | some (.property _ _) => ∀ i < n, ¬ (OpensAt lines i ∧ Balanced lines i n)
  | _ => True

instance (lines : List Text) (n : Nat) : Decidable (Idle lines n) :=
  match hkind : kindAt lines n with
  | some (.opening _) => isFalse (by simp [Idle, hkind])
  | some .closing => decidable_of_iff (∀ i < n, ¬ Matches lines i n) (by simp [Idle, hkind])
  | some (.property _ _) =>
    decidable_of_iff (∀ i < n, ¬ (OpensAt lines i ∧ Balanced lines i n)) (by simp [Idle, hkind])
  | some .malformedHeader | some .other | none => isTrue (by simp [Idle, hkind])

end InterfaceGen.Source
