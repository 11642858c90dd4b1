import InterfaceGen.Interface.Writer
import Mathlib.Combinatorics.Enumerative.DyckWord
import Mathlib.Data.List.Induction
import Mathlib.Data.List.TakeWhile
import Mathlib.Order.Bounds.Basic

/-!
# Writing step by step

A writer only ever adds to what is written, and its level counts indents and dedents, where a dedent at the
outermost level counts for nothing.  So the level after some steps is their balance less the least balance on
the way.  Blanks at the end of what is written are left out of the result but stay written.

Main definitions:

- `Step`, `run`: a step of writing, and a writer after some steps.
- `balance`, `IsBracketed`: indents minus dedents among some steps, and whether every dedent among them undoes an
  indent and the other way round.
- `Step.text`: what a step writes, given the indentation.

Main results:

- Theorem `isLeast_balance`: the level in closed form.
- Theorem `level_run_of_isBracketed`: a bracketed stretch restores the level.
- Theorem `written_run`: what is written, by the steps and the levels at which they are taken.
- Theorem `result_run_append`: how the result grows.
-/

namespace InterfaceGen

/-! ## Trimming -/

namespace Text

/-- Blanks behind a text are trimmed. -/
theorem trimEnd_append_of_blank (t : Text) {u : Text} (h : ∀ c ∈ u, isBlank c = true) :
    trimEnd (t ++ u) = trimEnd t := by
  have hempty : u.reverse.dropWhile isBlank = [] := by
    rw [List.dropWhile_eq_nil_iff]
    exact fun c hc => h c (List.mem_reverse.1 hc)
  rw [trimEnd, List.reverse_append, List.dropWhile_append, hempty, List.isEmpty_nil, if_pos rfl, trimEnd]

/-- Nothing is trimmed before a character that is not blank. -/
theorem trimEnd_append_of_not_blank (t : Text) {u : Text} (h : ∃ c ∈ u, isBlank c = false) :
    trimEnd (t ++ u) = t ++ trimEnd u := by
  have hrest : ¬ (u.reverse.dropWhile isBlank).isEmpty = true := by
    obtain ⟨c, hc, hblank⟩ := h
    rw [List.isEmpty_iff, List.dropWhile_eq_nil_iff]
    exact fun hall => by simp [hall c (List.mem_reverse.2 hc)] at hblank
  rw [trimEnd, List.reverse_append, List.dropWhile_append, if_neg hrest, List.reverse_append,
    List.reverse_reverse, trimEnd]

end Text

namespace Writer

open Text

/-! ## Steps -/

/-- A step of writing. -/
inductive Step where
  | write (t : Text)
  | writeIndented (t : Text)
  | writeLine (t : Text)
  | indent
  | dedent
deriving DecidableEq, Repr

namespace Step

/-- A writer after a step. -/
def apply (w : Writer) : Step → Writer
  | write t => w.write t
  | writeIndented t => w.writeIndented t
  | writeLine t => w.writeLine t
  | indent => w.indent
  | dedent => w.dedent

/-- Whether a step writes behind the indentation. -/
def isIndented : Step → Bool
  | writeIndented _ | writeLine _ => true
  | _ => false

/-- What a step writes, given the indentation. -/
def text (indentation : Text) : Step → Text
  | write t => t
  | writeIndented t => indentation ++ t
  | writeLine t => indentation ++ t ++ ['\n']
  | indent | dedent => []

/-- An indent is an opening bracket and a dedent a closing one. -/
def bracket? : Step → Option DyckStep
  | indent => some .U
  | dedent => some .D
  | _ => none

end Step

/-- A writer after some steps. -/
def run (w : Writer) (steps : List Step) : Writer :=
  steps.foldl Step.apply w

@[simp] theorem run_nil (w : Writer) : w.run [] = w := rfl

@[simp] theorem run_cons (w : Writer) (step : Step) (steps : List Step) :
    w.run (step :: steps) = (step.apply w).run steps := rfl

@[simp] theorem run_append (w : Writer) (before after : List Step) :
    w.run (before ++ after) = (w.run before).run after :=
  List.foldl_append

/-- The width stays. -/
@[simp] theorem width_run (w : Writer) (steps : List Step) : (w.run steps).width = w.width := by
  induction steps generalizing w with
  | nil => rfl
  | cons step rest ih =>
    rw [run_cons, ih]
    cases step <;> rfl

/-! ## Levels -/

/-- Indents minus dedents among some steps. -/
def balance (steps : List Step) : Int :=
  steps.count .indent - steps.count .dedent

@[simp] theorem balance_nil : balance [] = 0 := rfl

/-- Balances add up. -/
theorem balance_append (before after : List Step) :
    balance (before ++ after) = balance before + balance after := by
  unfold balance
  rw [List.count_append, List.count_append]
  omega

/-- A step changes the level by its balance, but not below zero. -/
theorem level_apply (w : Writer) (step : Step) :
    ((step.apply w).level : Int) = max 0 (w.level + balance [step]) := by
  cases step with
  | write t => simp [Step.apply, write, balance]
  | writeIndented t => simp [Step.apply, writeIndented, write, balance]
  | writeLine t => simp [Step.apply, balance]
  | indent =>
    have hbalance : balance [.indent] = 1 := rfl
    rw [Step.apply, level_indent, hbalance]
    omega
  | dedent =>
    have hbalance : balance [.dedent] = -1 := rfl
    rw [Step.apply, level_dedent, hbalance]
    omega

/-- The level rises at least by the balance of the steps. -/
theorem level_add_balance_le (w : Writer) (steps : List Step) :
    w.level + balance steps ≤ (w.run steps).level := by
  induction steps using List.reverseRecOn with
  | nil => simp
  | append_singleton steps last ih =>
    rw [run_append, run_cons, run_nil, level_apply, balance_append]
    omega

/-- Either no dedent was in vain, or the level counts from the last one that was. -/
theorem level_run_cases (w : Writer) (steps : List Step) :
    (w.run steps).level = w.level + balance steps ∨
      ∃ before after, steps = before ++ after ∧ (w.run steps).level = balance after := by
  induction steps using List.reverseRecOn with
  | nil => exact .inl (by simp)
  | append_singleton steps last ih =>
    have hlevel := level_apply (w.run steps) last
    rw [run_append, run_cons, run_nil, balance_append]
    by_cases hvain : ((w.run steps).level + balance [last] : Int) < 0
    · refine .inr ⟨steps ++ [last], [], by simp, ?_⟩
      rw [balance_nil]
      omega
    · rcases ih with hall | ⟨before, after, hsteps, hafter⟩
      · exact .inl (by omega)
      · refine .inr ⟨before, after ++ [last], by simp [hsteps], ?_⟩
        rw [balance_append]
        omega

/-- The least balance on the way is what the balance exceeds the level by. -/
theorem isLeast_balance (width : UInt64) (steps : List Step) :
    IsLeast {b | ∃ k ≤ steps.length, balance (steps.take k) = b}
      (balance steps - ((start width).run steps).level) := by
  have hstart : (start width).level = 0 := rfl
  constructor
  · rcases level_run_cases (start width) steps with hall | ⟨before, after, rfl, hafter⟩
    · exact ⟨0, Nat.zero_le _, by rw [List.take_zero, balance_nil]; omega⟩
    · refine ⟨before.length, by simp, ?_⟩
      rw [List.take_left, balance_append]
      omega
  · rintro b ⟨k, -, rfl⟩
    have hrest := level_add_balance_le ((start width).run (steps.take k)) (steps.drop k)
    have hsplit := balance_append (steps.take k) (steps.drop k)
    rw [← run_append, List.take_append_drop] at hrest
    rw [List.take_append_drop] at hsplit
    omega

/-! ## Bracketed stretches -/

/-- Whether the indents and dedents among some steps are well bracketed. -/
def IsBracketed (steps : List Step) : Prop :=
  ∃ word : DyckWord, word.toList = steps.filterMap Step.bracket?

/-- The balance is that of the brackets. -/
theorem balance_eq_brackets (steps : List Step) :
    balance steps = (steps.filterMap Step.bracket?).count .U - (steps.filterMap Step.bracket?).count .D := by
  induction steps with
  | nil => rfl
  | cons step rest ih =>
    have hfirst : balance [step] =
        ([step].filterMap Step.bracket?).count .U - ([step].filterMap Step.bracket?).count .D := by
      cases step <;> rfl
    rw [← List.singleton_append, balance_append, ih, List.filterMap_append, List.count_append,
      List.count_append]
    omega

/-- A bracketed stretch has no balance, and none of its beginnings has less. -/
theorem IsBracketed.balance_eq {steps : List Step} (h : IsBracketed steps) :
    balance steps = 0 ∧ ∀ before after, steps = before ++ after → 0 ≤ balance before := by
  obtain ⟨word, hword⟩ := h
  have hcounts := word.count_U_eq_count_D
  constructor
  · rw [balance_eq_brackets, ← hword]
    omega
  · rintro before after rfl
    have hbefore := word.count_D_le_count_U (before.filterMap Step.bracket?).length
    rw [hword, List.filterMap_append, List.take_left] at hbefore
    rw [balance_eq_brackets]
    omega

/-- A bracketed stretch restores the level that it started from. -/
theorem level_run_of_isBracketed (w : Writer) {steps : List Step} (h : IsBracketed steps) :
    (w.run steps).level = w.level := by
  obtain ⟨hzero, hbefore⟩ := h.balance_eq
  have hle := level_add_balance_le w steps
  rcases level_run_cases w steps with hall | ⟨before, after, hsteps, hafter⟩
  · omega
  · have hsplit := balance_append before after
    rw [← hsteps] at hsplit
    have hbeginning := hbefore before after hsteps
    omega

/-- A dedent at the outermost level is forgotten. -/
theorem dedent_of_level_zero {w : Writer} (h : w.level = 0) : w.dedent = w := by
  obtain ⟨width, level, pieces⟩ := w
  cases h
  rfl

/-! ## What is written -/

/-- A step adds its text to what is written. -/
theorem written_apply (w : Writer) (step : Step) :
    (step.apply w).written = w.written ++ step.text w.indentation := by
  cases step <;> simp [Step.apply, Step.text]

/-- What is written is the texts of the steps, each behind the indentation at its moment. -/
theorem written_run (w : Writer) (steps : List Step) :
    (w.run steps).written =
      w.written ++ steps.zipIdx.flatMap fun (step, k) => step.text (w.run (steps.take k)).indentation := by
  -- By induction on the steps from their end, as the steps before a moment are a beginning of all of them.
  induction steps using List.reverseRecOn with
  | nil => simp
  | append_singleton steps last ih =>
    have hearlier : (steps.zipIdx.flatMap fun (step, k) =>
        step.text (w.run ((steps ++ [last]).take k)).indentation) =
          steps.zipIdx.flatMap fun (step, k) => step.text (w.run (steps.take k)).indentation := by
      refine List.flatMap_congr fun ⟨step, k⟩ hmem => ?_
      have hk : k ≤ steps.length := by
        have := List.snd_lt_of_mem_zipIdx hmem
        omega
      dsimp only
      rw [List.take_append_of_le_length hk]
    rw [run_append, run_cons, run_nil, written_apply, ih, List.zipIdx_append, List.flatMap_append, hearlier]
    simp

/-- A product of level and width below the bound of the numbers is the number of spaces. -/
theorem indentation_of_lt {w : Writer} (h : w.level * w.width.toNat < UInt64.size) :
    w.indentation = List.replicate (w.level * w.width.toNat) ' ' := by
  have hproduct : (UInt64.ofNat w.level * w.width).toNat = w.level * w.width.toNat := by
    rw [UInt64.toNat_mul, UInt64.toNat_ofNat', Nat.mod_mul_mod]
    exact Nat.mod_eq_of_lt h
  rw [indentation, hproduct]

/-- Whether the products of level and width stay below the bound of the numbers wherever a step writes behind
the indentation. -/
def Fits (width : UInt64) (steps : List Step) : Prop :=
  ∀ k step, steps[k]? = some step → step.isIndented = true →
    ((start width).run (steps.take k)).level * width.toNat < UInt64.size

/-- Steps write their texts, each behind as many spaces as level and width have as their product. -/
theorem written_run_of_fits {width : UInt64} {steps : List Step} (h : Fits width steps) :
    ((start width).run steps).written = steps.zipIdx.flatMap fun (step, k) =>
      step.text (List.replicate (((start width).run (steps.take k)).level * width.toNat) ' ') := by
  rw [written_run, written_start, List.nil_append]
  refine List.flatMap_congr fun ⟨step, k⟩ hmem => ?_
  have hstep : steps[k]? = some step := by simpa using List.mem_zipIdx_iff_getElem?.1 hmem
  have hspaces : step.isIndented = true → ((start width).run (steps.take k)).indentation =
      List.replicate (((start width).run (steps.take k)).level * width.toNat) ' ' := by
    intro hindented
    have hfits := h k step hstep hindented
    have hwidth : ((start width).run (steps.take k)).width = width := width_run _ _
    rw [indentation_of_lt (by rwa [hwidth]), hwidth]
  cases step with
  | writeIndented t => simp only [Step.text, hspaces rfl]
  | writeLine t => simp only [Step.text, hspaces rfl]
  | write t => rfl
  | indent => rfl
  | dedent => rfl

/-! ## Results -/

/-- More steps add to what is written.  As long as they add blanks only, the result stays; once they add more,
all that was written before them is in the result. -/
theorem result_run_append (w : Writer) (later : List Step) :
    ∃ added, (w.run later).written = w.written ++ added ∧
      ((∀ c ∈ added, isBlank c = true) → (w.run later).result = w.result) ∧
      ((∃ c ∈ added, isBlank c = false) → (w.run later).result = w.written ++ trimEnd added) := by
  refine ⟨_, written_run w later, fun hblank => ?_, fun hmore => ?_⟩
  · rw [result, written_run, trimEnd_append_of_blank _ hblank, result]
  · rw [result, written_run, trimEnd_append_of_not_blank _ hmore]

/-- The result stays a beginning of every later one. -/
theorem result_isPrefix (w : Writer) (later : List Step) : w.result <+: (w.run later).result := by
  obtain ⟨added, -, hblank, hmore⟩ := result_run_append w later
  by_cases hall : ∀ c ∈ added, isBlank c = true
  · rw [hblank hall]
  · have hexists : ∃ c ∈ added, isBlank c = false := by simpa using hall
    rw [hmore hexists]
    exact (trimEnd_isPrefix w.written).trans (List.prefix_append _ _)

/-! ## Writers from the start -/

/-- A writer after some steps, and after more of them.  Its level is the balance of the steps less the least
balance on the way; so a bracketed stretch restores the level, and a dedent at the outermost level is forgotten.
What is written is the texts of the steps one after the other, those that are indented behind the product of
level and width in spaces.  The result is a beginning of every later one, in which the blanks that it leaves
out reappear once more than blanks is written. -/
theorem writer_appends_and_reflects (width : UInt64) (steps later : List Step) :
    let w := (start width).run steps
    let next := (start width).run (steps ++ later)
    (∃ least, IsLeast {b | ∃ k ≤ steps.length, balance (steps.take k) = b} least ∧
        w.level = balance steps - least) ∧
      (IsBracketed later → next.level = w.level) ∧
      (w.level = 0 → (start width).run (steps ++ .dedent :: later) = next) ∧
      (Fits width steps → w.written = steps.zipIdx.flatMap fun (step, k) =>
        step.text (List.replicate (((start width).run (steps.take k)).level * width.toNat) ' ')) ∧
      w.result <+: next.result ∧
      ∃ added, next.written = w.written ++ added ∧
        ((∀ c ∈ added, isBlank c = true) → next.result = w.result) ∧
        ((∃ c ∈ added, isBlank c = false) → next.result = w.written ++ trimEnd added) := by
  dsimp only
  rw [run_append]
  refine ⟨⟨_, isLeast_balance width steps, by omega⟩, level_run_of_isBracketed _, fun hzero => ?_,
    written_run_of_fits, result_isPrefix _ later, result_run_append _ later⟩
  rw [run_append, run_cons, Step.apply, dedent_of_level_zero hzero]

/-- A line in braces, and one dedent too many. -/
def bracedLine : List Step :=
  [.writeLine "a \x7b".toList, .indent, .writeLine "b;".toList, .dedent, .dedent, .writeLine ['}']]

/-- The line in braces is written with its indentation, the dedent too many is forgotten, and a bracketed stretch
after it ends at the outermost level again. -/
theorem bracedLine_appends_and_reflects :
    let w := (start 2).run bracedLine
    let later : List Step := [.indent, .writeIndented ['c'], .dedent]
    Fits 2 bracedLine ∧ w.written = "a \x7b\n  b;\n\x7d\n".toList ∧ w.level = 0 ∧
      IsBracketed later ∧ ((start 2).run (bracedLine ++ later)).level = 0 ∧
        (start 2).run (bracedLine ++ .dedent :: later) = (start 2).run (bracedLine ++ later) := by
  intro w later
  obtain ⟨-, hbracketed, hforgotten, hwritten, -⟩ := writer_appends_and_reflects 2 bracedLine later
  have hfits : Fits 2 bracedLine := by
    have hproducts : ∀ k < bracedLine.length,
        ((start 2).run (bracedLine.take k)).level * (2 : UInt64).toNat < UInt64.size := by decide
    intro k step hstep _
    exact hproducts k (List.getElem?_eq_some_iff.1 hstep).1
  have hlater : IsBracketed later := ⟨DyckWord.nest 0, rfl⟩
  exact ⟨hfits, (hwritten hfits).trans (by decide), rfl, hlater, hbracketed hlater, hforgotten rfl⟩

end Writer

end InterfaceGen
