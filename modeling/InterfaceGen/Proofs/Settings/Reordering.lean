import InterfaceGen.Proofs.Correspondence
import InterfaceGen.Proofs.Settings.RoundTrip
import InterfaceGen.Proofs.Settings.Vocabulary

/-!
# Settings in another order

The members of settings can be written in any order, and so can the further scalars and collections.  Scalars
with different spellings are the same map in any order, and of the collections only the names count, so that
settings which are written differently convert alike.

Main definitions:

- `SameSetting`, `SameSettings`: values that differ only in order and in repeated collections.
- `Settings.Alike`: settings that differ only in the order and number of their collections.

Main results:

- Theorem `rel_record?`: the fields of settings in another order correspond.
- Theorem `rel_ofJson?`: settings in another order are alike.
- Theorem `settings_decide_by_content`: what the vocabulary of settings says, and that order has no bearing.
-/

namespace InterfaceGen

open Text Json

/-! ## Values in another order -/

/-- Two values of the setting with this name say the same: further scalars may be in another order if each has
its own spelling, and further collections in any order and number.  All other values are the same. -/
inductive SameSetting : Text → Value → Value → Prop
  | same {key : Text} (v : Value) : SameSetting key v v
  | scalars {members members' : List (Option Text × Value)} (distinct : (members.filterMap (·.1)).Nodup)
      (order : members.Perm members') :
      SameSetting "scalarTypes".toList (.object members) (.object members')
  | collections {items items' : List Value} (content : ∀ item, item ∈ items ↔ item ∈ items') :
      SameSetting "collectionTypes".toList (.array items) (.array items')

/-- Two members say the same. -/
inductive SameMember : Option Text × Value → Option Text × Value → Prop
  | same (member : Option Text × Value) : SameMember member member
  | setting {key : Text} {v v' : Value} (h : SameSetting key v v') : SameMember (some key, v) (some key, v')

/-- Two lists of values for the settings with these names, in order, say the same. -/
inductive SameItems : List Text → List Value → List Value → Prop
  | nil (keys : List Text) : SameItems keys [] []
  | cons {key : Text} {keys : List Text} {v v' : Value} {items items' : List Value}
      (first : SameSetting key v v') (rest : SameItems keys items items') :
      SameItems (key :: keys) (v :: items) (v' :: items')
  | beyond (items : List Value) : SameItems [] items items

/-- Two values say the same as settings: they are the same but for the order of the members, of the further
scalars and of the further collections, which may be repeated. -/
inductive SameSettings : Value → Value → Prop
  | same (v : Value) : SameSettings v v
  | object {members between members' : List (Option Text × Value)}
      (content : List.Forall₂ SameMember members between) (order : between.Perm members') :
      SameSettings (.object members) (.object members')
  | array {items items' : List Value} (content : SameItems Settings.keys items items') :
      SameSettings (.array items) (.array items')

/-! ## Records -/

/-- The values of two lists of fields say the same. -/
inductive SameFields : List Text → List (Option Value) → List (Option Value) → Prop
  | nil : SameFields [] [] []
  | cons {key : Text} {keys : List Text} {field field' : Option Value} {fields fields' : List (Option Value)}
      (first : Option.Rel (SameSetting key) field field') (rest : SameFields keys fields fields') :
      SameFields (key :: keys) (field :: fields) (field' :: fields')

/-- A field says the same as itself. -/
theorem sameField_refl (key : Text) (field : Option Value) : Option.Rel (SameSetting key) field field := by
  cases field with
  | none => exact .none
  | some v => exact .some (.same v)

/-- Fields say the same as themselves. -/
theorem SameFields.refl {keys : List Text} {fields : List (Option Value)} (h : fields.length = keys.length) :
    SameFields keys fields fields := by
  induction keys generalizing fields with
  | nil =>
    obtain rfl := List.length_eq_zero_iff.1 h
    exact .nil
  | cons key rest ih =>
    obtain ⟨field, more, rfl⟩ := List.exists_cons_of_length_eq_add_one h
    exact .cons (sameField_refl key field) (ih (by simpa using h))

/-- The order of members has no bearing on which of them has a name. -/
theorem memberOnce?_of_perm {members members' : List (Option Text × Value)} (h : members.Perm members')
    (name : Text) : Value.memberOnce? members name = Value.memberOnce? members' name := by
  have hfilter := h.filter (·.1 == some name)
  unfold Value.memberOnce?
  generalize members.filter (·.1 == some name) = named at hfilter
  generalize members'.filter (·.1 == some name) = named' at hfilter
  cases named with
  | nil => rw [List.nil_perm.1 hfilter]
  | cons first rest =>
    cases rest with
    | nil => rw [List.singleton_perm.1 hfilter]
    | cons second more =>
      have hlength := hfilter.length_eq
      match named', hlength with
      | _ :: _ :: _, _ => rfl

/-- Members that say the same have the same names. -/
theorem SameMember.key_eq {member member' : Option Text × Value} (h : SameMember member member') :
    member.1 = member'.1 := by
  cases h <;> rfl

/-- The members of a name say the same. -/
theorem forall₂_filter {members members' : List (Option Text × Value)}
    (h : List.Forall₂ SameMember members members') (name : Text) :
    List.Forall₂ (fun member member' => member.1 = some name ∧ SameMember member member')
      (members.filter (·.1 == some name)) (members'.filter (·.1 == some name)) := by
  induction h with
  | nil => exact .nil
  | @cons member member' rest rest' hfirst _ ih =>
    rw [List.filter_cons, List.filter_cons, ← hfirst.key_eq]
    by_cases hname : member.1 = some name
    · rw [if_pos (by simp [hname]), if_pos (by simp [hname])]
      exact .cons ⟨hname, hfirst⟩ ih
    · rw [if_neg (by simpa using hname), if_neg (by simpa using hname)]
      exact ih

/-- The field of a name says the same. -/
theorem rel_memberOnce? {members members' : List (Option Text × Value)}
    (h : List.Forall₂ SameMember members members') (name : Text) :
    Option.Rel (Option.Rel (SameSetting name)) (Value.memberOnce? members name)
      (Value.memberOnce? members' name) := by
  have hfilter := forall₂_filter h name
  unfold Value.memberOnce?
  generalize members.filter (·.1 == some name) = named at hfilter ⊢
  generalize members'.filter (·.1 == some name) = named' at hfilter ⊢
  cases hfilter with
  | nil => exact .some .none
  | cons hfirst hrest =>
    cases hrest with
    | cons _ _ => exact .none
    | nil =>
      obtain ⟨hname, hsame⟩ := hfirst
      cases hsame with
      | same => exact .some (.some (.same _))
      | setting h =>
        obtain rfl := Option.some.inj hname
        exact .some (.some h)

/-- The fields of members in another order say the same. -/
theorem rel_mapM_memberOnce? {members members' : List (Option Text × Value)}
    (h : ∀ name, Option.Rel (Option.Rel (SameSetting name)) (Value.memberOnce? members name)
      (Value.memberOnce? members' name)) (names : List Text) :
    Option.Rel (SameFields names) (names.mapM (Value.memberOnce? members))
      (names.mapM (Value.memberOnce? members')) := by
  induction names with
  | nil => exact .some .nil
  | cons name rest ih =>
    rw [List.mapM_cons, List.mapM_cons]
    refine rel_bind (h name) fun field field' hfirst => ?_
    exact rel_bind ih fun fields fields' hrest => .some (.cons hfirst hrest)

/-- The fields of lists of values say the same, also those that are left off. -/
theorem SameItems.sameFields {names : List Text} {items items' : List Value}
    (h : SameItems names items items') :
    items'.length = items.length ∧ (items.length ≤ names.length →
      SameFields names (items.map some ++ List.replicate (names.length - items.length) none)
        (items'.map some ++ List.replicate (names.length - items'.length) none)) := by
  induction h with
  | nil names => exact ⟨rfl, fun _ => .refl (by simp)⟩
  | cons hfirst _ ih =>
    obtain ⟨hlength, hrest⟩ := ih
    refine ⟨by simp [hlength], fun hle => ?_⟩
    simp only [List.length_cons, Nat.add_le_add_iff_right] at hle
    simpa using SameFields.cons (.some hfirst) (hrest hle)
  | beyond items =>
    refine ⟨rfl, fun hle => ?_⟩
    obtain rfl := List.length_eq_zero_iff.1 (Nat.le_zero.1 hle)
    exact .nil

/-- Members that say the same have content in all names, or lack it in some, alike. -/
theorem all_isSome_of_same {members members' : List (Option Text × Value)}
    (h : List.Forall₂ SameMember members members') :
    members.all (·.1.isSome) = members'.all (·.1.isSome) := by
  induction h with
  | nil => rfl
  | cons hfirst _ ih => rw [List.all_cons, List.all_cons, hfirst.key_eq, ih]

/-- The fields of an object with its members in another order say the same. -/
theorem rel_record?_object {members between members' : List (Option Text × Value)}
    (hcontent : List.Forall₂ SameMember members between) (horder : between.Perm members') (names : List Text) :
    Option.Rel (SameFields names) ((Value.object members).record? names)
      ((Value.object members').record? names) := by
  have hfields : ∀ name, Option.Rel (Option.Rel (SameSetting name)) (Value.memberOnce? members name)
      (Value.memberOnce? members' name) := by
    intro name
    rw [← memberOnce?_of_perm horder]
    exact rel_memberOnce? hcontent name
  rw [Value.record?, Value.record?, all_isSome_of_same hcontent, horder.all_eq]
  split
  · exact rel_mapM_memberOnce? hfields names
  · exact .none

/-- The fields of an array say the same as its items do. -/
theorem rel_record?_array {items items' : List Value} {names : List Text} (h : SameItems names items items') :
    Option.Rel (SameFields names) ((Value.array items).record? names) ((Value.array items').record? names) := by
  obtain ⟨hlength, hfields⟩ := h.sameFields
  rw [Value.record?, Value.record?, hlength]
  by_cases hle : items.length ≤ names.length
  · rw [if_pos hle, if_pos hle, ← hlength]
    exact .some (hlength ▸ hfields hle)
  · rw [if_neg hle, if_neg hle]
    exact .none

/-- Items say the same as themselves. -/
theorem SameItems.refl (names : List Text) (items : List Value) : SameItems names items items := by
  induction names generalizing items with
  | nil => exact .beyond items
  | cons name rest ih =>
    cases items with
    | nil => exact .nil _
    | cons v more => exact .cons (.same v) (ih more)

/-- The fields of settings that say the same correspond. -/
theorem rel_record? {v v' : Value} (h : SameSettings v v') :
    Option.Rel (SameFields Settings.keys) (v.record? Settings.keys) (v'.record? Settings.keys) := by
  cases h with
  | object hcontent horder => exact rel_record?_object hcontent horder _
  | array hcontent => exact rel_record?_array hcontent
  | same v =>
    cases v with
    | object members =>
      exact rel_record?_object (List.forall₂_same.2 fun member _ => .same member) (.refl members) _
    | array items => exact rel_record?_array (.refl _ items)
    | null => exact .none
    | bool b => exact .none
    | number literal => exact .none
    | string content => exact .none

/-! ## Reading settings -/

/-- Two settings are alike: they are the same but for the order and number of their collections. -/
structure Settings.Alike (s s' : Settings) : Prop where
  others : s' = { s with collectionTypes := s'.collectionTypes }
  collections : ∀ name, name ∈ s.collectionTypes ↔ name ∈ s'.collectionTypes

/-- All settings but the further scalars and collections are the same if they say the same. -/
theorem eq_of_sameField {key : Text} (hscalars : key ≠ "scalarTypes".toList)
    (hcollections : key ≠ "collectionTypes".toList) {field field' : Option Value}
    (h : Option.Rel (SameSetting key) field field') : field = field' := by
  cases h with
  | none => rfl
  | some hsame =>
    cases hsame with
    | same v => rfl
    | scalars distinct order => exact absurd rfl hscalars
    | collections content => exact absurd rfl hcollections

/-- The spellings of the scalars that are read from members are the names of the members. -/
theorem keys_of_mapM {members : List (Option Text × Value)} {entries : List (Text × Text)}
    (h : members.mapM Settings.scalarOf? = some entries) : entries.map (·.1) = members.filterMap (·.1) := by
  induction members generalizing entries with
  | nil =>
    obtain rfl := Option.some.inj h
    rfl
  | cons member rest ih =>
    rw [List.mapM_cons] at h
    obtain ⟨entry, hentry, hmore⟩ := Option.bind_eq_some_iff.1 h
    obtain ⟨more, hrest, hentries⟩ := Option.bind_eq_some_iff.1 hmore
    obtain rfl := Option.some.inj hentries
    obtain ⟨key, hkey, htarget⟩ := Option.bind_eq_some_iff.1 hentry
    obtain ⟨target, -, hpair⟩ := Option.bind_eq_some_iff.1 htarget
    obtain rfl := Option.some.inj hpair
    rw [List.filterMap_cons_some hkey, List.map_cons, ih hrest]

/-- Members with spellings of their own are the same scalars in any order. -/
theorem scalars?_of_perm {members members' : List (Option Text × Value)}
    (hdistinct : (members.filterMap (·.1)).Nodup) (h : members.Perm members') :
    Settings.scalars? (.object members) = Settings.scalars? (.object members') := by
  have hentries := rel_mapM_of_perm Settings.scalarOf? h
  rw [Settings.scalars?_object, Settings.scalars?_object]
  generalize hfirst : members.mapM Settings.scalarOf? = first at hentries ⊢
  generalize members'.mapM Settings.scalarOf? = second at hentries ⊢
  cases hentries with
  | none => rfl
  | some hperm =>
    rw [← keys_of_mapM hfirst] at hdistinct
    exact congrArg some (SortedMap.ofList_of_perm hdistinct hperm)

/-- Further scalars that say the same are the same map. -/
theorem optional_scalars?_eq {field field' : Option Value} (default : SortedMap Text Text)
    (h : Option.Rel (SameSetting "scalarTypes".toList) field field') :
    optional default Settings.scalars? field = optional default Settings.scalars? field' := by
  cases h with
  | none => rfl
  | some hsame =>
    generalize hkey : "scalarTypes".toList = key at hsame
    cases hsame with
    | same v => rfl
    | scalars distinct order => exact scalars?_of_perm distinct order
    | collections content => exact absurd hkey (by decide)

/-- Further collections that say the same have the same names. -/
theorem rel_optional_collections? {field field' : Option Value} (default : List Text)
    (h : Option.Rel (SameSetting "collectionTypes".toList) field field') :
    Option.Rel (fun names names' : List Text => ∀ name, name ∈ names ↔ name ∈ names')
      (optional default Settings.collections? field) (optional default Settings.collections? field') := by
  have hself : ∀ names : Option (List Text),
      Option.Rel (fun names names' : List Text => ∀ name, name ∈ names ↔ name ∈ names') names names := by
    intro names
    exact rel_of_isSome Iff.rfl fun a b ha hb name => by rw [Option.some.inj (ha.symm.trans hb)]
  cases h with
  | none => exact hself _
  | some hsame =>
    generalize hkey : "collectionTypes".toList = key at hsame
    cases hsame with
    | same v => exact hself _
    | scalars distinct order => exact absurd hkey (by decide)
    | collections content => exact rel_mapM_of_mem Value.text? content

/-- Settings that say the same are alike, or neither can be read. -/
theorem rel_ofJson? {v v' : Value} (h : SameSettings v v') :
    Option.Rel Settings.Alike (Settings.ofJson? v) (Settings.ofJson? v') := by
  unfold Settings.ofJson?
  refine rel_bind (rel_record? h) fun fields fields' hfields => ?_
  unfold Settings.keys at hfields
  cases hfields with
  | cons hsource hfields =>
  cases hfields with
  | cons houtput hfields =>
  cases hfields with
  | cons hwidth hfields =>
  cases hfields with
  | cons hexported hfields =>
  cases hfields with
  | cons hstrict hfields =>
  cases hfields with
  | cons hscalars hfields =>
  cases hfields with
  | cons hcollections hfields =>
  cases hfields with
  | nil =>
  obtain rfl := eq_of_sameField (by decide) (by decide) hsource
  obtain rfl := eq_of_sameField (by decide) (by decide) houtput
  obtain rfl := eq_of_sameField (by decide) (by decide) hwidth
  obtain rfl := eq_of_sameField (by decide) (by decide) hexported
  obtain rfl := eq_of_sameField (by decide) (by decide) hstrict
  refine rel_bind (rel_refl _) fun sourceDir _ heq => heq ▸ ?_
  refine rel_bind (rel_refl _) fun outputDir _ heq => heq ▸ ?_
  refine rel_bind (rel_refl _) fun width _ heq => heq ▸ ?_
  refine rel_bind (rel_refl _) fun exported _ heq => heq ▸ ?_
  refine rel_bind (rel_refl _) fun isStrict _ heq => heq ▸ ?_
  rw [optional_scalars?_eq _ hscalars]
  refine rel_bind (rel_refl _) fun scalars _ heq => heq ▸ ?_
  exact rel_bind (rel_optional_collections? _ hcollections) fun names names' hnames => .some ⟨rfl, hnames⟩

/-! ## Conversions -/

/-- Settings that are alike have options that are alike. -/
theorem Settings.Alike.options {s s' : Settings} (h : s.Alike s') : s.options.Alike s'.options := by
  obtain ⟨hothers, hcollections⟩ := h
  have hscalars : s'.scalarTypes = s.scalarTypes := by rw [hothers]
  refine ⟨?_, ?_, ?_, fun name => ?_, fun name => ?_⟩
  · rw [hothers]
    rfl
  · rw [hothers]
    rfl
  · rw [hothers]
    rfl
  · rw [target?_options, target?_options, lastScalar?, lastScalar?, hscalars]
  · rw [Bool.eq_iff_iff, isCollection_options_iff, isCollection_options_iff, hcollections]

/-- What conversions with alike settings give is the same. -/
theorem map_eq_of_alike {β : Type} {x y : Option Settings} (h : Option.Rel Settings.Alike x y)
    (f : Options → β) (hf : ∀ o o' : Options, o.Alike o' → f o = f o') :
    x.map (fun s => f s.options) = y.map fun s => f s.options := by
  cases h with
  | none => rfl
  | some halike => exact congrArg some (hf _ _ halike.options)

/-- Settings decide by their content.  A name is looked up to the target type of the further scalar that spells
it, the last one by its bytes if several do, and in the standard vocabulary if none does; it is a collection if
it is a standard or a further one.  So texts of settings that differ only in the order of their members, of the
further scalars and of the further collections, which may be repeated, can both be read or both not, and convert
all sources and print all models alike. -/
theorem settings_decide_by_content :
    (∀ (s : Settings) (name : Text),
      (∀ key, s.Decides name key → ∃ target, s.scalarTypes.find? key = some target ∧
        s.options.vocabulary.target? name = some target) ∧
      ((∃ key ∈ s.scalarTypes.keys, lowercase key = lowercase name) → ∃ key, s.Decides name key) ∧
      ((∀ key ∈ s.scalarTypes.keys, lowercase key ≠ lowercase name) →
        s.options.vocabulary.target? name = Vocabulary.standard.target? name) ∧
      (s.options.vocabulary.isCollection name = true ↔
        Vocabulary.standard.isCollection name = true ∨ name ∈ s.collectionTypes)) ∧
    ∀ (t t' : Text) (v v' : Value), Value.parse? t = some v → Value.parse? t' = some v' → SameSettings v v' →
      (∀ source, (Settings.parse? t).map (fun s => convert s.options source) =
        (Settings.parse? t').map fun s => convert s.options source) ∧
      ∀ m : Model, (Settings.parse? t).map (fun s => m.interfaces s.options) =
        (Settings.parse? t').map fun s => m.interfaces s.options := by
  refine ⟨fun s name => ⟨fun key => Settings.target?_of_decides, Settings.exists_decides,
    Settings.target?_of_undecided, Settings.isCollection_options_iff⟩, ?_⟩
  intro t t' v v' ht ht' hsame
  have halike := rel_ofJson? hsame
  rw [Settings.parse?, Settings.parse?, ht, ht', Option.bind_some, Option.bind_some]
  exact ⟨fun source => map_eq_of_alike halike (convert · source) fun o o' h => convert_of_alike h source,
    fun m => map_eq_of_alike halike m.interfaces fun o o' h => interfaces_of_alike h m⟩

/-- Settings with two spellings of a scalar. -/
def mixedSettings : Value :=
  .object [(some "strict".toList, .bool true),
    (some "scalarTypes".toList, .object [(some "GUID".toList, .ofText "Guid".toList),
      (some "guid".toList, .ofText "string".toList)]),
    (some "collectionTypes".toList, .array [.ofText "Set".toList, .ofText "Bag".toList, .ofText "Set".toList])]

/-- The same settings in another order. -/
def otherMixedSettings : Value :=
  .object [(some "collectionTypes".toList, .array [.ofText "Bag".toList, .ofText "Set".toList]),
    (some "scalarTypes".toList, .object [(some "guid".toList, .ofText "string".toList),
      (some "GUID".toList, .ofText "Guid".toList)]),
    (some "strict".toList, .bool true)]

/-- The two settings say the same. -/
theorem sameSettings_mixedSettings : SameSettings mixedSettings otherMixedSettings := by
  refine .object (.cons (.same _) (.cons (.setting (.scalars (by decide) (.swap _ _ _)))
    (.cons (.setting (.collections ?_)) .nil))) (List.reverse_perm _).symm
  intro item
  simp only [List.mem_cons, List.not_mem_nil, or_false]
  grind

/-- Of two spellings of a scalar the one in lower case decides, and settings in another order, whose text is
another one, convert all sources alike. -/
theorem mixedSettings_decide :
    let scalars := [("GUID".toList, "Guid".toList), ("guid".toList, "string".toList)]
    let s : Settings := { scalarTypes := .ofList scalars }
    s.Decides "Guid".toList "guid".toList ∧
      (∃ target, s.scalarTypes.find? "guid".toList = some target ∧
        s.options.vocabulary.target? "Guid".toList = some target) ∧
      (Settings.parse? mixedSettings.pretty).isSome = true ∧ mixedSettings.pretty ≠ otherMixedSettings.pretty ∧
      ∀ source, (Settings.parse? mixedSettings.pretty).map (fun s => convert s.options source) =
        (Settings.parse? otherMixedSettings.pretty).map fun s => convert s.options source := by
  intro scalars s
  obtain ⟨hnames, htexts⟩ := settings_decide_by_content
  have hdecides : s.Decides "Guid".toList "guid".toList := ⟨by decide, by decide +kernel, by decide +kernel⟩
  have hbool : AreNumbers (Value.bool true).tokens := areNumbers_of_notMem (by simp [Value.tokens])
  have hfirst : Value.parse? (mixedSettings.pretty ++ []) = some mixedSettings :=
    Value.parse?_pretty
      (by simp [mixedSettings, areNumbers_object, areNumbers_array, areNumbers_ofText, hbool]) rfl
  have hsecond : Value.parse? (otherMixedSettings.pretty ++ []) = some otherMixedSettings :=
    Value.parse?_pretty
      (by simp [otherMixedSettings, areNumbers_object, areNumbers_array, areNumbers_ofText, hbool]) rfl
  rw [List.append_nil] at hfirst hsecond
  have hread : (Settings.parse? mixedSettings.pretty).isSome = true := by
    rw [Settings.parse?, hfirst]
    rfl
  exact ⟨hdecides, (hnames s _).1 _ hdecides, hread, by decide +kernel,
    (htexts _ _ _ _ hfirst hsecond sameSettings_mixedSettings).1⟩

end InterfaceGen
