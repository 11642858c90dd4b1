/-!
# Sorted maps

A finite map kept as its list of entries in ascending order of keys, each key once, so that two maps with
the same entries are equal and the entries are listed in the order of their keys.

Main results:

- Theorem `mem_keys_iff` and `nodup_keys`: the keys are what has a value, each once.
- Theorem `ofList_of_perm`: entries with different keys make the same map in any order.
- Theorem `ofList_entries`: a map is made of its own entries.
- Theorem `find?_insert_self` and `find?_insert_of_ne`: an insertion changes the value at its key and no
  other.
-/

namespace InterfaceGen

/-- A finite map as its entries in ascending order of keys. -/
structure SortedMap (κ : Type) (β : Type) [Ord κ] where
  entries : List (κ × β)
  sorted : entries.Pairwise (fun a b => compare a.1 b.1 = .lt)

namespace SortedMap

variable {κ β : Type} [Ord κ]

/-- The map without entries. -/
def empty : SortedMap κ β :=
  ⟨[], .nil⟩

instance [DecidableEq κ] [DecidableEq β] : DecidableEq (SortedMap κ β) := fun m n =>
  decidable_of_iff (m.entries = n.entries) ⟨fun h => by cases m; cases n; cases h; rfl, fun h => by rw [h]⟩

/-! ## Lookup -/

/-- The value at a key. -/
def find? [DecidableEq κ] (m : SortedMap κ β) (key : κ) : Option β :=
  (m.entries.find? (·.1 = key)).map (·.2)

/-- The keys in ascending order. -/
def keys (m : SortedMap κ β) : List κ :=
  m.entries.map (·.1)

/-- Whether a map has no entries. -/
def isEmpty (m : SortedMap κ β) : Bool :=
  m.entries.isEmpty

/-- Every key occurs once. -/
theorem nodup_keys [Std.ReflOrd κ] (m : SortedMap κ β) : m.keys.Nodup := by
  refine List.pairwise_map.2 (m.sorted.imp fun {a b} hlt heq => ?_)
  have hself : compare b.1 b.1 = .eq := Std.ReflCmp.compare_self
  rw [heq, hself] at hlt
  cases hlt

/-- The keys are what has a value. -/
theorem mem_keys_iff [DecidableEq κ] (m : SortedMap κ β) (key : κ) : key ∈ m.keys ↔ (m.find? key).isSome := by
  simp [keys, find?]

/-- A map has a value at a key if and only if it has the entry. -/
theorem find?_eq_some_iff [DecidableEq κ] [Std.ReflOrd κ] {m : SortedMap κ β} {key : κ} {value : β} :
    m.find? key = some value ↔ (key, value) ∈ m.entries := by
  unfold find?
  obtain ⟨entries, hsorted⟩ := m
  dsimp only
  induction entries with
  | nil => simp
  | cons entry rest ih =>
    obtain ⟨hentry, hrest⟩ := List.pairwise_cons.1 hsorted
    by_cases heq : entry.1 = key
    · subst heq
      have hbehind : (entry.1, value) ∉ rest := by
        intro hmem
        have hlt := hentry _ hmem
        rw [Std.compare_self] at hlt
        cases hlt
      simp [hbehind, Prod.ext_iff, eq_comm]
    · have hne : (key, value) ≠ entry := fun h => heq (congrArg Prod.fst h).symm
      simpa [heq, hne] using ih hrest

/-! ## Insertion -/

/-- Sorted entries with one more, in place of the one at its key if there is one. -/
def insertEntry (key : κ) (value : β) : List (κ × β) → List (κ × β)
  | [] => [(key, value)]
  | entry :: rest =>
    match compare key entry.1 with
    | .lt => (key, value) :: entry :: rest
    | .eq => (key, value) :: rest
    | .gt => entry :: insertEntry key value rest

/-- Insertion adds nothing but the new entry. -/
theorem mem_of_mem_insertEntry {key : κ} {value : β} {entries : List (κ × β)} {e : κ × β}
    (h : e ∈ insertEntry key value entries) : e = (key, value) ∨ e ∈ entries := by
  induction entries with
  | nil => simpa [insertEntry] using h
  | cons entry rest ih =>
    simp only [insertEntry] at h
    split at h <;> grind

/-- Insertion keeps entries sorted. -/
theorem pairwise_insertEntry [Std.TransOrd κ] {key : κ} {value : β} {entries : List (κ × β)}
    (h : entries.Pairwise (fun a b => compare a.1 b.1 = .lt)) :
    (insertEntry key value entries).Pairwise (fun a b => compare a.1 b.1 = .lt) := by
  induction entries with
  | nil => simp [insertEntry]
  | cons entry rest ih =>
    obtain ⟨hentry, hrest⟩ := List.pairwise_cons.1 h
    simp only [insertEntry]
    split
    · next hlt =>
      refine List.pairwise_cons.2 ⟨fun e he => ?_, h⟩
      rcases List.mem_cons.1 he with rfl | he
      · exact hlt
      · exact Std.TransCmp.lt_trans hlt (hentry e he)
    · next heq =>
      refine List.pairwise_cons.2 ⟨fun e he => ?_, hrest⟩
      exact Std.TransCmp.lt_of_eq_of_lt heq (hentry e he)
    · next hgt =>
      refine List.pairwise_cons.2 ⟨fun e he => ?_, ih hrest⟩
      rcases mem_of_mem_insertEntry he with rfl | he
      · exact Std.OrientedCmp.gt_iff_lt.1 hgt
      · exact hentry e he

/-- A map with a value set at a key. -/
def insert [Std.TransOrd κ] (m : SortedMap κ β) (key : κ) (value : β) : SortedMap κ β :=
  ⟨insertEntry key value m.entries, pairwise_insertEntry m.sorted⟩

/-- The map of a list of entries, where a later entry replaces an earlier one at its key. -/
def ofList [Std.TransOrd κ] (entries : List (κ × β)) : SortedMap κ β :=
  entries.foldl (fun m entry => m.insert entry.1 entry.2) empty

/-! ## Entries in any order -/

/-- An insertion at a new key adds an entry. -/
theorem perm_insertEntry {key : κ} {value : β} {entries : List (κ × β)}
    (h : ∀ entry ∈ entries, compare key entry.1 ≠ .eq) :
    (insertEntry key value entries).Perm ((key, value) :: entries) := by
  induction entries with
  | nil => exact .refl _
  | cons entry rest ih =>
    simp only [insertEntry]
    split
    · exact .refl _
    · next heq => exact absurd heq (h entry List.mem_cons_self)
    · next hgt =>
      have hrest := ih fun e he => h e (List.mem_cons_of_mem entry he)
      exact (hrest.cons entry).trans (.swap _ _ _)

/-- The map of entries with different keys has just these entries. -/
theorem perm_ofList [Std.TransOrd κ] [Std.LawfulEqOrd κ] {entries : List (κ × β)}
    (h : (entries.map (·.1)).Nodup) :
    (ofList entries).entries.Perm entries := by
  -- By induction on the entries: those behind the first are inserted into a map without their keys.
  suffices hinserted : ∀ m : SortedMap κ β, (∀ entry ∈ m.entries, entry.1 ∉ entries.map (·.1)) →
      (entries.foldl (fun m entry => m.insert entry.1 entry.2) m).entries.Perm (m.entries ++ entries) from
    hinserted empty (by simp [empty])
  intro m hnew
  induction entries generalizing m with
  | nil => simp
  | cons entry rest ih =>
    obtain ⟨hentry, hrest⟩ := List.nodup_cons.1 h
    have hinsert : (m.insert entry.1 entry.2).entries.Perm (entry :: m.entries) := by
      refine perm_insertEntry fun e he heq => hnew e he ?_
      rw [← Std.LawfulEqCmp.compare_eq_iff_eq.1 heq]
      exact List.mem_cons_self
    have hall := ih hrest (m.insert entry.1 entry.2) ?_
    · exact hall.trans ((hinsert.append_right rest).trans List.perm_middle.symm)
    · intro e he hmem
      rcases List.mem_cons.1 (hinsert.mem_iff.1 he) with rfl | he
      · exact hentry hmem
      · exact hnew e he (List.mem_cons_of_mem _ hmem)

/-- Maps with the same entries are equal, as these are sorted. -/
theorem eq_of_perm [Std.OrientedOrd κ] {m n : SortedMap κ β} (h : m.entries.Perm n.entries) : m = n := by
  have hentries : m.entries = n.entries := by
    refine h.eq_of_pairwise (fun a b _ _ hlt hgt => ?_) m.sorted n.sorted
    rw [Std.OrientedCmp.gt_of_lt hlt] at hgt
    cases hgt
  cases m
  cases n
  simpa using hentries

/-- Entries with different keys make the same map in any order. -/
theorem ofList_of_perm [Std.TransOrd κ] [Std.LawfulEqOrd κ] {entries entries' : List (κ × β)}
    (h : (entries.map (·.1)).Nodup)
    (hperm : entries.Perm entries') : ofList entries = ofList entries' := by
  have hnodup' : (entries'.map (·.1)).Nodup := (hperm.map _).nodup_iff.1 h
  exact eq_of_perm (((perm_ofList h).trans hperm).trans (perm_ofList hnodup').symm)

/-- A map is made of its own entries. -/
theorem ofList_entries [Std.TransOrd κ] [Std.LawfulEqOrd κ] (m : SortedMap κ β) : ofList m.entries = m :=
  eq_of_perm (perm_ofList m.nodup_keys)

/-! ## Lookup after insertion -/

variable [DecidableEq κ] [Std.TransOrd κ] [Std.LawfulEqOrd κ]

/-- An insertion sets the value at its key. -/
@[simp] theorem find?_insert_self (m : SortedMap κ β) (key : κ) (value : β) :
    (m.insert key value).find? key = some value := by
  simp only [find?, insert]
  induction m.entries with
  | nil => simp [insertEntry]
  | cons entry rest ih =>
    simp only [insertEntry]
    split
    · simp
    · simp
    · next hgt =>
      have hne : entry.1 ≠ key := by
        rintro rfl
        simp at hgt
      simpa [hne] using ih

/-- An insertion keeps the values at all other keys. -/
theorem find?_insert_of_ne (m : SortedMap κ β) {key other : κ} (value : β) (h : other ≠ key) :
    (m.insert key value).find? other = m.find? other := by
  simp only [find?, insert]
  induction m.entries with
  | nil => simp [insertEntry, h.symm]
  | cons entry rest ih =>
    simp only [insertEntry]
    split
    · simp [h.symm]
    · next heq =>
      have hkey : key = entry.1 := Std.LawfulEqCmp.compare_eq_iff_eq.1 heq
      simp [h.symm, ← hkey]
    · by_cases hother : entry.1 = other
      · simp [hother]
      · simpa [hother] using ih

end SortedMap

end InterfaceGen
