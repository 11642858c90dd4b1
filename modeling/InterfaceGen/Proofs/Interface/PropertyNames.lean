import InterfaceGen.Proofs.Source.Lexing
import InterfaceGen.Text.Lowercase

/-!
# Names of properties

An interface has the names of properties with their first character in lower case.  A name that is lowered
already stays as it is, although the lower case of one character takes two; only the first character is
looked at and replaced; and what was a word before is a word afterwards.

Main definitions:

- `CaseRun.misses`: runs of capitals that leave the lower case of each other alone.
- `CaseRun.keepsLetters`: runs of capitals whose letters have letters as their lower case.

Main results:

- Theorem `lowerCode_lowerCode`: a lower-case code point is its own lower case.
- Theorem `lowerChar_of_mem`: every character of a lower case is its own lower case.
- Theorem `isWord_lowerChar`: the lower case of a character that begins words is a word.
- Theorem `property_names_settle`: lowering names is idempotent, local, and keeps words.
-/

namespace InterfaceGen.Text

open Source

/-! ## Code points that are lowered already -/

/-- Whether no lower-case code point of a run is a capital of another one: all of them lie before or behind
it, or it takes every second code point and they are the others.  As every run is compared with every other,
this is done by `Nat.blt`. -/
def CaseRun.misses (run other : CaseRun) : Bool :=
  Nat.blt other.last run.target || Nat.blt (run.target + (run.last - run.first)) other.first ||
    (other.step == 2 && (run.step == 2 || run.first == run.last) &&
      (run.target + other.first) % 2 == 1)

/-- A run that is missed covers no lower-case code point of the other one. -/
theorem CaseRun.not_covers_of_misses {run other : CaseRun} (hmisses : run.misses other = true) {n : Nat}
    (hcovers : run.covers n = true) : other.covers (run.target + (n - run.first)) = false := by
  simp only [misses, Bool.or_eq_true, Bool.and_eq_true, Nat.blt_eq, beq_iff_eq] at hmisses
  simp only [covers, Bool.and_eq_true, decide_eq_true_eq, beq_iff_eq] at hcovers
  rw [Bool.eq_false_iff]
  intro hother
  simp only [covers, Bool.and_eq_true, decide_eq_true_eq, beq_iff_eq] at hother
  rcases hmisses with (hbefore | hbehind) | ⟨⟨hstep, hself⟩, hodd⟩
  · omega
  · omega
  · -- an odd number of places lies between the first capital of the one and the target of the other
    rw [hstep] at hother
    rcases hself with htwo | hsingle
    · rw [htwo] at hcovers
      omega
    · omega

/-- The capital I with a dot above as a run of its own. -/
def dottedRun : CaseRun :=
  ⟨0x130, 0x130, 1, 0x69⟩

/-- No lower-case code point is a capital. -/
theorem misses_of_mem {run other : CaseRun} (hrun : run ∈ caseRuns) (hother : other ∈ dottedRun :: caseRuns) :
    run.misses other = true := by
  have hall : (caseRuns.all fun run => (dottedRun :: caseRuns).all run.misses) = true := by decide +kernel
  exact List.all_eq_true.1 (List.all_eq_true.1 hall run hrun) other hother

/-- A code point that no run covers is its own lower case. -/
theorem lowerCode_of_uncovered {runs : List CaseRun} {n : Nat} (h : ∀ run ∈ runs, run.covers n = false) :
    lowerCode n runs = n := by
  rcases lowerCode_cases n runs with hself | ⟨run, hrun, hcovers, -⟩
  · exact hself
  · rw [h run hrun] at hcovers
    cases hcovers

/-- A lower-case code point is its own lower case. -/
theorem lowerCode_lowerCode (n : Nat) :
    lowerCode (lowerCode n caseRuns) caseRuns = lowerCode n caseRuns := by
  rcases lowerCode_cases n caseRuns with hself | ⟨run, hrun, hcovers, hcode⟩
  · rw [hself, hself]
  · rw [hcode]
    exact lowerCode_of_uncovered fun other hother =>
      CaseRun.not_covers_of_misses (misses_of_mem hrun (List.mem_cons_of_mem _ hother)) hcovers

/-- The capital I with a dot above is the lower case of itself only. -/
theorem eq_of_lowerCode_eq_dotted {n : Nat} (h : lowerCode n caseRuns = dottedCapitalI.toNat) :
    n = dottedCapitalI.toNat := by
  rcases lowerCode_cases n caseRuns with hself | ⟨run, hrun, hcovers, hcode⟩
  · rw [← hself, h]
  · have hmisses := misses_of_mem hrun List.mem_cons_self
    have huncovered := CaseRun.not_covers_of_misses hmisses hcovers
    rw [← hcode, h] at huncovered
    cases huncovered

/-! ## Names that are lowered already -/

/-- Every character but one has a lower case of one character. -/
theorem lowerChar_of_ne {c : Char} (h : c ≠ dottedCapitalI) :
    lowerChar c = [Char.ofNat (lowerCode c.toNat caseRuns)] :=
  if_neg h

/-- The lower case of a character is one character, or two for the capital I with a dot above. -/
theorem length_lowerChar (c : Char) : (lowerChar c).length = if c = dottedCapitalI then 2 else 1 := by
  unfold lowerChar
  split <;> rfl

/-- Every character of a lower case is its own lower case. -/
theorem lowerChar_of_mem {c d : Char} (h : d ∈ lowerChar c) : lowerChar d = [d] := by
  by_cases hdotted : c = dottedCapitalI
  · have hletter : lowerChar 'i' = ['i'] := by decide +kernel
    have hdot : lowerChar '\u0307' = ['\u0307'] := by decide +kernel
    rw [hdotted, lowerChar, if_pos rfl, List.mem_cons, List.mem_singleton] at h
    rcases h with rfl | rfl
    · exact hletter
    · exact hdot
  · rw [lowerChar_of_ne hdotted, List.mem_singleton] at h
    -- the lower case of `d` is looked up in the runs as well, as `d` is not the capital I with a dot
    have hcode : d.toNat = lowerCode c.toNat caseRuns := h ▸ toNat_ofNat_lowerCode c
    have hd : d ≠ dottedCapitalI := by
      rintro rfl
      exact hdotted (Char.toNat_inj.1 (eq_of_lowerCode_eq_dotted hcode.symm))
    rw [lowerChar_of_ne hd, hcode, lowerCode_lowerCode, ← hcode, Char.ofNat_toNat]

/-- Nothing is left to lower behind a lowered character. -/
theorem lowerFirst_lowerChar (c : Char) (rest : Text) :
    lowerFirst (lowerChar c ++ rest) = lowerChar c ++ rest := by
  cases hlower : lowerChar c with
  | nil =>
    have hlength := length_lowerChar c
    rw [hlower] at hlength
    split at hlength <;> cases hlength
  | cons d more =>
    have hd : lowerChar d = [d] := lowerChar_of_mem (c := c) (by simp [hlower])
    rw [List.cons_append, lowerFirst, hd, List.singleton_append]

/-- Lowering the first character twice is lowering it once. -/
theorem lowerFirst_lowerFirst (name : Text) : lowerFirst (lowerFirst name) = lowerFirst name := by
  cases name with
  | nil => rfl
  | cons c rest => exact lowerFirst_lowerChar c rest

/-! ## Words -/

/-- Whether the letters among the capitals of a run have letters as their lower case.  There is no need to look
at each of them where all lower-case code points are letters, and where no capital is one. -/
def CaseRun.keepsLetters (run : CaseRun) : Bool :=
  spanInRanges letterRanges run.target (run.target + (run.last - run.first)) ||
    areApart [(run.first, run.last)] letterRanges ||
    (List.range (run.last - run.first + 1)).all fun k =>
      !run.covers (run.first + k) || !inRanges letterRanges (run.first + k) ||
        inRanges letterRanges (run.target + k)

/-- The lower case of a letter of such a run is a letter. -/
theorem CaseRun.inRanges_of_keepsLetters {run : CaseRun} (hkeeps : run.keepsLetters = true) {n : Nat}
    (hcovers : run.covers n = true) (hletter : inRanges letterRanges n = true) :
    inRanges letterRanges (run.target + (n - run.first)) = true := by
  have hbounds : run.first ≤ n ∧ n ≤ run.last := by
    simp only [covers, Bool.and_eq_true, decide_eq_true_eq] at hcovers
    exact hcovers.1
  simp only [keepsLetters, Bool.or_eq_true] at hkeeps
  rcases hkeeps with (hspan | hapart) | heach
  · exact inRanges_of_spanInRanges hspan (by omega) (by omega)
  · have hcapital : inRanges [(run.first, run.last)] n = true := by
      rw [inRanges, if_neg (by omega), decide_eq_true hbounds.2, Bool.true_or]
    rw [not_inRanges_of_areApart hapart hcapital] at hletter
    cases hletter
  · have hplace := List.all_eq_true.1 heach (n - run.first) (List.mem_range.2 (by omega))
    rw [Nat.add_sub_cancel' hbounds.1, hcovers, hletter] at hplace
    simpa using hplace

/-- The lower case of a letter is a letter. -/
theorem inRanges_lowerCode {n : Nat} (h : inRanges letterRanges n = true) :
    inRanges letterRanges (lowerCode n caseRuns) = true := by
  have hkeeps : caseRuns.all CaseRun.keepsLetters = true := by decide +kernel
  rcases lowerCode_cases n caseRuns with hself | ⟨run, hrun, hcovers, hcode⟩
  · rw [hself]
    exact h
  · rw [hcode]
    exact CaseRun.inRanges_of_keepsLetters (List.all_eq_true.1 hkeeps run hrun) hcovers h

/-- The lower case of a character that begins words is a word. -/
theorem isWord_lowerChar {c : Char} (h : isWordStart c = true) : IsWord (lowerChar c) := by
  by_cases hdotted : c = dottedCapitalI
  · rw [hdotted]
    decide +kernel
  · rcases Bool.or_eq_true_iff.1 h with hletter | hline
    · have hlower : isLetter (Char.ofNat (lowerCode c.toNat caseRuns)) = true := by
        rw [isLetter, toNat_ofNat_lowerCode]
        exact inRanges_lowerCode hletter
      rw [lowerChar_of_ne hdotted]
      exact ⟨by simp [isWordStart, hlower], by simp⟩
    · obtain rfl : c = '_' := by simpa using hline
      decide +kernel

/-- A word goes on with anything that may continue words. -/
theorem isWord_append {word rest : Text} (hword : IsWord word) (hrest : ∀ c ∈ rest, isWordPart c = true) :
    IsWord (word ++ rest) := by
  cases word with
  | nil => exact hword.elim
  | cons c more => exact ⟨hword.1, List.forall_mem_append.2 ⟨hword.2, hrest⟩⟩

/-- A word with its first character in lower case is a word. -/
theorem isWord_lowerFirst {name : Text} (h : IsWord name) : IsWord (lowerFirst name) := by
  cases name with
  | nil => exact h
  | cons c rest => exact isWord_append (isWord_lowerChar h.1) h.2

/-! ## Names -/

/-- The lower case of the first character of a name stands before the others. -/
theorem lowerFirst_eq (name : Text) : lowerFirst name = name.head?.elim [] lowerChar ++ name.tail := by
  cases name <;> rfl

/-- Names of properties settle.  Lowering the first character of a name that is lowered already changes
nothing.  All behind the first character is kept as the end of the name, and the first character alone
decides what stands before it: its lower case, which is nothing for the empty name, two characters for the
capital I with a dot above and one for any other, and each of them is its own lower case.  A name that is a
word, so a letter or underscore with letters, marks, numerals and underscores behind it, is a word
afterwards. -/
theorem property_names_settle (name : Text) :
    lowerFirst (lowerFirst name) = lowerFirst name ∧
    (∃ lead : Text, lowerFirst name = lead ++ name.tail ∧
      (∀ other : Text, other.head? = name.head? → lowerFirst other = lead ++ other.tail) ∧
      lead.length = name.head?.elim 0 (fun c => if c = '\u0130' then 2 else 1) ∧
      ∀ d ∈ lead, lowerChar d = [d]) ∧
    (IsWord name → IsWord (lowerFirst name)) := by
  refine ⟨lowerFirst_lowerFirst name, ?_, isWord_lowerFirst⟩
  refine ⟨name.head?.elim [] lowerChar, lowerFirst_eq name, fun other hhead => ?_, ?_, ?_⟩
  · rw [lowerFirst_eq, hhead]
  · cases name with
    | nil => rfl
    | cons c rest => exact length_lowerChar c
  · cases name with
    | nil => simp
    | cons c rest => exact fun d hd => lowerChar_of_mem hd

/-- A name whose first character has a lower case of two characters. -/
def dottedName : Text :=
  ['\u0130', 'D']

/-- The capital I with a dot above is lowered to two characters, and the name is a word before and after that. -/
theorem dottedName_settles :
    lowerFirst dottedName = ['i', '\u0307', 'D'] ∧
      lowerFirst (lowerFirst dottedName) = lowerFirst dottedName ∧
      IsWord dottedName ∧ IsWord (lowerFirst dottedName) := by
  obtain ⟨hagain, -, hkeeps⟩ := property_names_settle dottedName
  have hword : IsWord dottedName := by decide +kernel
  exact ⟨rfl, hagain, hword, hkeeps hword⟩

end InterfaceGen.Text
