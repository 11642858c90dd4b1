import InterfaceGen.Text.Basic

/-!
# Ranges of code points

Properties of characters are given as lists of closed ranges of code points in ascending order.
-/

namespace InterfaceGen.Text

/-- Whether a number lies in one of the ranges; the search stops at the first range beyond it. -/
def inRanges : List (Nat × Nat) → Nat → Bool
  | [], _ => false
  | (low, high) :: rest, n => if n < low then false else n ≤ high || inRanges rest n

/-- A number found in a list of ranges lies in one of them. -/
theorem exists_range_of_inRanges {ranges : List (Nat × Nat)} {n : Nat} (h : inRanges ranges n = true) :
    ∃ range ∈ ranges, range.1 ≤ n ∧ n ≤ range.2 := by
  induction ranges with
  | nil => simp [inRanges] at h
  | cons range rest ih =>
    obtain ⟨low, high⟩ := range
    simp only [inRanges] at h
    split at h
    · cases h
    · next hlow =>
      rcases Bool.or_eq_true_iff.1 h with hhigh | hrest
      · exact ⟨(low, high), List.mem_cons_self, Nat.le_of_not_lt hlow, of_decide_eq_true hhigh⟩
      · obtain ⟨found, hmem, hbounds⟩ := ih hrest
        exact ⟨found, List.mem_cons_of_mem _ hmem, hbounds⟩

/-- Whether all numbers from `low` to `high` lie in one of the ranges; the search stops at the first range
beyond `low`.  Numbers are compared by `Nat.ble`, so that long lists are gone through quickly. -/
def spanInRanges : List (Nat × Nat) → Nat → Nat → Bool
  | [], _, _ => false
  | (first, last) :: rest, low, high =>
    Nat.ble first low && (Nat.ble high last || spanInRanges rest low high)

/-- Every number of a span that lies in one of the ranges is found in them. -/
theorem inRanges_of_spanInRanges {ranges : List (Nat × Nat)} {low high n : Nat}
    (h : spanInRanges ranges low high = true) (hlow : low ≤ n) (hhigh : n ≤ high) :
    inRanges ranges n = true := by
  induction ranges with
  | nil => cases h
  | cons range rest ih =>
    obtain ⟨first, last⟩ := range
    simp only [spanInRanges, Bool.and_eq_true, Bool.or_eq_true, Nat.ble_eq] at h
    have hnot : ¬ n < first := by omega
    rw [inRanges, if_neg hnot, Bool.or_eq_true, decide_eq_true_eq]
    exact h.2.imp (Nat.le_trans hhigh) ih

/-- Whether no range of one list meets a range of the other. -/
def areApart (ranges others : List (Nat × Nat)) : Bool :=
  ranges.all fun range => others.all fun other => range.2 < other.1 || other.2 < range.1

/-- No number lies in two lists of ranges that are apart. -/
theorem not_inRanges_of_areApart {ranges others : List (Nat × Nat)} {n : Nat}
    (hapart : areApart ranges others = true) (h : inRanges ranges n = true) :
    inRanges others n = false := by
  rw [Bool.eq_false_iff]
  intro hother
  obtain ⟨range, hrange, hlow, hhigh⟩ := exists_range_of_inRanges h
  obtain ⟨other, hmem, hlow', hhigh'⟩ := exists_range_of_inRanges hother
  have hmeet := List.all_eq_true.1 (List.all_eq_true.1 hapart range hrange) other hmem
  simp only [Bool.or_eq_true, decide_eq_true_eq] at hmeet
  omega

end InterfaceGen.Text
