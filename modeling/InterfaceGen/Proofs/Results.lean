/-!
# Results and errors

When a computation of several steps succeeds, and what it gives then.

Main results:

- Theorems `bind_eq_ok_iff`, `map_eq_ok_iff` and `map_eq_error_iff`: the result of a step that follows
  another.
- Theorem `eq_ok_of_toOption`: a success that is found by its value.
- Theorems `mapError_ok` and `mapError_error`: what rewording errors comes to.
- Theorems `mapM_eq_ok` and `exists_of_mapM_eq_ok`: a list succeeds if and only if all of its elements do.
- Theorem `mapM_map_eq_some`: a list is read back if its elements are.
-/

namespace InterfaceGen

/-! ## Steps -/

/-- A step succeeds if and only if what goes before it does. -/
theorem bind_eq_ok_iff {α β ε : Type} {x : Except ε α} {f : α → Except ε β} {b : β} :
    x >>= f = .ok b ↔ ∃ a, x = .ok a ∧ f a = .ok b := by
  cases x with
  | error e => simp [bind, Except.bind]
  | ok a => simp [bind, Except.bind]

/-- The image of a result is a success if and only if the result is. -/
theorem map_eq_ok_iff {α β ε : Type} {f : α → β} {x : Except ε α} {b : β} :
    x.map f = .ok b ↔ ∃ a, x = .ok a ∧ f a = b := by
  cases x with
  | error e => simp [Except.map]
  | ok a => simp [Except.map]

/-- The image of a result is an error if and only if the result is. -/
theorem map_eq_error_iff {α β ε : Type} {f : α → β} {x : Except ε α} {e : ε} :
    x.map f = .error e ↔ x = .error e := by
  cases x with
  | error e' => simp [Except.map]
  | ok a => simp [Except.map]

/-- A computation that gives a value when its errors are dropped succeeds with it. -/
theorem eq_ok_of_toOption {α ε : Type} {x : Except ε α} {a : α} (h : x.toOption = some a) : x = .ok a := by
  cases x with
  | error e => cases h
  | ok b => exact congrArg Except.ok (Option.some.inj h)

/-- A result is kept when errors are reworded. -/
@[simp] theorem mapError_ok {α ε ε' : Type} (f : ε → ε') (a : α) :
    (Except.ok a : Except ε α).mapError f = .ok a := rfl

/-- An error is reworded. -/
@[simp] theorem mapError_error {α ε ε' : Type} (f : ε → ε') (e : ε) :
    (Except.error e : Except ε α).mapError f = .error (f e) := rfl

/-! ## Lists -/

/-- What succeeds on every element succeeds on a list. -/
theorem mapM_eq_ok {α β ε : Type} {f : α → Except ε β} {g : α → β} {as : List α}
    (h : ∀ a ∈ as, f a = .ok (g a)) : as.mapM f = .ok (as.map g) := by
  induction as with
  | nil => rfl
  | cons a rest ih =>
    rw [List.mapM_cons, h a List.mem_cons_self, ih fun c hc => h c (List.mem_cons_of_mem a hc)]
    rfl

/-- The images of the results of a list are the results of the images. -/
theorem mapM_map {α β γ ε : Type} (f : α → Except ε β) (g : β → γ) (as : List α) :
    (as.mapM fun a => (f a).map g) = (as.mapM f).map (List.map g) := by
  induction as with
  | nil => rfl
  | cons a rest ih =>
    rw [List.mapM_cons, List.mapM_cons, ih]
    cases f a with
    | error e => rfl
    | ok b => cases rest.mapM f <;> rfl

/-- What succeeds on a list succeeds on every element of it. -/
theorem exists_of_mapM_eq_ok {α β ε : Type} [Inhabited β] {f : α → Except ε β} {as : List α} {bs : List β}
    (h : as.mapM f = .ok bs) : ∃ g : α → β, (∀ a ∈ as, f a = .ok (g a)) ∧ bs = as.map g := by
  refine ⟨fun a => (f a).toOption.getD default, ?_⟩
  induction as generalizing bs with
  | nil =>
    obtain rfl := Except.ok.inj h
    simp
  | cons a rest ih =>
    rw [List.mapM_cons] at h
    obtain ⟨b, hfirst, hmore⟩ := bind_eq_ok_iff.1 h
    obtain ⟨more, hrest, hbs⟩ := bind_eq_ok_iff.1 hmore
    obtain rfl := Except.ok.inj hbs
    obtain ⟨hall, hmap⟩ := ih hrest
    constructor
    · intro c hc
      rcases List.mem_cons.1 hc with rfl | hc
      · simp [hfirst, Except.toOption]
      · exact hall c hc
    · rw [List.map_cons, ← hmap, hfirst]
      rfl

/-- A list is read back if its elements are. -/
theorem mapM_map_eq_some {α β : Type} {write : α → β} {read : β → Option α}
    (h : ∀ a, read (write a) = some a) (as : List α) : (as.map write).mapM read = some as := by
  induction as with
  | nil => rfl
  | cons a rest ih =>
    rw [List.map_cons, List.mapM_cons, h a, ih]
    rfl

end InterfaceGen
