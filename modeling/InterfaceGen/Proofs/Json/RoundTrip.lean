import InterfaceGen.Proofs.Json.Scanning

/-!
# Reading printed values

A printed value is read back as it was, with any gaps behind it.  Printing and reading meet in the tokens
of the value: the characters of the printed text are scanned into them, and they are read into the value
inside whatever containers are open.

Main definitions:

- `Spells`: the tokens that a text adds in front of another.
- `AreNumbers`: the numbers among some tokens are spelled as numbers.

Main results:

- Theorem `spells_prettyAt`: a printed value spells its tokens.
- Theorem `expectValue?_tokens`: the tokens of a value are read as the value.
- Theorem `parse?_pretty`: a printed value is read back.
-/

namespace InterfaceGen.Json

open Text

/-! ## Tokens of values -/

namespace Value

/-- The tokens of an item, a comma unless it is the last, and the tokens of the others. -/
theorem itemTokens_cons (item : Value) (items : List Value) :
    itemTokens (item :: items) =
      item.tokens ++ (if items.isEmpty then [] else [.comma]) ++ itemTokens items := by
  cases items with
  | nil => simp [itemTokens]
  | cons next more => simp [itemTokens]

/-- The tokens of a member, a comma unless it is the last, and the tokens of the others. -/
theorem memberTokens_cons (key : Option Text) (value : Value) (members : List (Option Text × Value)) :
    memberTokens ((key, value) :: members) =
      [.string key] ++ [.colon] ++ value.tokens ++ (if members.isEmpty then [] else [.comma]) ++
        memberTokens members := by
  cases members with
  | nil => simp [memberTokens]
  | cons next more => simp [memberTokens]

end Value

/-- The numbers among some tokens are spelled as numbers. -/
def AreNumbers (tokens : List Token) : Prop :=
  ∀ literal, .number literal ∈ tokens → isNumber literal = true

/-- The numbers among tokens are those among the first and those among the others. -/
theorem areNumbers_append {a b : List Token} : AreNumbers (a ++ b) ↔ AreNumbers a ∧ AreNumbers b := by
  simp only [AreNumbers, List.mem_append, or_imp, forall_and]

/-- Tokens among which there is no number are spelled as they should be. -/
theorem areNumbers_of_notMem {tokens : List Token} (h : ∀ literal, .number literal ∉ tokens) :
    AreNumbers tokens :=
  fun literal hmem => absurd hmem (h literal)

/-- A comma that is left out at the end is no number. -/
theorem areNumbers_comma (isLast : Bool) : AreNumbers (if isLast then [] else [.comma]) := by
  apply areNumbers_of_notMem
  cases isLast <;> simp

/-- The numbers of an array are those of its items. -/
theorem areNumbers_array (items : List Value) :
    AreNumbers (Value.array items).tokens ↔ ∀ item ∈ items, AreNumbers item.tokens := by
  have hopen : AreNumbers [.openBracket] := areNumbers_of_notMem (by simp)
  have hitems : AreNumbers (Value.itemTokens items) ↔ ∀ item ∈ items, AreNumbers item.tokens := by
    induction items with
    | nil => simp [AreNumbers, Value.itemTokens]
    | cons item items ih =>
      have hcomma := areNumbers_comma items.isEmpty
      rw [Value.itemTokens_cons, areNumbers_append, areNumbers_append, ih, List.forall_mem_cons]
      exact ⟨fun h => ⟨h.1.1, h.2⟩, fun h => ⟨⟨h.1, hcomma⟩, h.2⟩⟩
  rw [← hitems]
  exact areNumbers_append.trans (and_iff_right hopen)

/-- The numbers of an object are those of the values of its members. -/
theorem areNumbers_object (members : List (Option Text × Value)) :
    AreNumbers (Value.object members).tokens ↔ ∀ member ∈ members, AreNumbers member.2.tokens := by
  have hopen : AreNumbers [.openBrace] := areNumbers_of_notMem (by simp)
  have hmembers : AreNumbers (Value.memberTokens members) ↔
      ∀ member ∈ members, AreNumbers member.2.tokens := by
    induction members with
    | nil => simp [AreNumbers, Value.memberTokens]
    | cons member members ih =>
      have hcomma := areNumbers_comma members.isEmpty
      have hkey : AreNumbers ([.string member.1] ++ [.colon]) := areNumbers_of_notMem (by simp)
      rw [Value.memberTokens_cons, areNumbers_append, areNumbers_append, areNumbers_append, ih,
        List.forall_mem_cons]
      exact ⟨fun h => ⟨h.1.1.2, h.2⟩, fun h => ⟨⟨⟨hkey, h.1⟩, hcomma⟩, h.2⟩⟩
  rw [← hmembers]
  exact areNumbers_append.trans (and_iff_right hopen)

/-- There are no numbers in a string. -/
theorem areNumbers_ofText (t : Text) : AreNumbers (Value.ofText t).tokens :=
  areNumbers_of_notMem (by simp [Value.ofText, Value.tokens])

/-! ## From characters to tokens -/

/-- A text in front of another adds these tokens to those of the other. -/
def Spells (t : Text) (tokens : List Token) (rest : Text) : Prop :=
  tokenize? (t ++ rest) = (tokenize? rest).map (tokens ++ ·)

/-- Two texts after each other spell the tokens of both. -/
theorem Spells.append {t u rest : Text} {a b : List Token} (ht : Spells t a (u ++ rest))
    (hu : Spells u b rest) : Spells (t ++ u) (a ++ b) rest := by
  unfold Spells at ht hu ⊢
  rw [List.append_assoc, ht, hu, Option.map_map]
  congr 1
  funext more
  exact (List.append_assoc a b more).symm

/-- What is read as one token spells this token. -/
theorem spells_of_readToken? {t rest : Text} {token : Token}
    (h : readToken? (t ++ rest) = some (token, rest)) : Spells t [token] rest :=
  tokenize?_of_readToken? h

/-- A sign spells its token. -/
theorem spells_sign {c : Char} {token : Token} (h : signToken? c = some token) (rest : Text) :
    Spells [c] [token] rest :=
  spells_of_readToken? (readToken?_sign h rest)

/-- Gaps spell nothing. -/
theorem spells_gaps {gaps : Text} (h : gaps.all isGap = true) (rest : Text) : Spells gaps [] rest := by
  unfold Spells
  simp only [List.nil_append, Option.map_id']
  induction gaps with
  | nil => rfl
  | cons c more ih =>
    obtain ⟨hc, hmore⟩ := Bool.and_eq_true_iff.1 (List.all_cons ▸ h)
    rw [List.cons_append, tokenize?_gap hc, ih hmore]

/-- A line break with its indentation spells nothing. -/
theorem spells_newline (depth : Nat) (rest : Text) : Spells (newline depth) [] rest := by
  refine spells_gaps ?_ rest
  rw [newline, List.all_cons, List.all_replicate]
  simp [isGap]

/-- What comes on a new line spells what it spells elsewhere. -/
theorem Spells.on_newline {t rest : Text} {tokens : List Token} (h : Spells t tokens rest) (depth : Nat) :
    Spells (newline depth ++ t) tokens rest :=
  (spells_newline depth _).append h

/-- A comma that is left out at the end spells a token that is left out at the end. -/
theorem spells_comma (isLast : Bool) (rest : Text) :
    Spells (if isLast then [] else [',']) (if isLast then [] else [.comma]) rest := by
  cases isLast with
  | false => exact spells_sign rfl rest
  | true => exact spells_gaps rfl rest

/-- What follows an item of an array ends it. -/
theorem endsValue_prettyItems (items : List Value) (depth : Nat) (rest : Text) :
    EndsValue ((if items.isEmpty then [] else [',']) ++ (Value.prettyItems depth items ++ rest)) := by
  cases items with
  | nil => exact endsValue_gap (by decide) _
  | cons item items => exact endsValue_comma _

/-- What follows a member of an object ends it. -/
theorem endsValue_prettyMembers (members : List (Option Text × Value)) (depth : Nat) (rest : Text) :
    EndsValue ((if members.isEmpty then [] else [',']) ++ (Value.prettyMembers depth members ++ rest)) := by
  cases members with
  | nil => exact endsValue_gap (by decide) _
  | cons member members => exact endsValue_comma _

mutual

/-- A printed value spells its tokens. -/
theorem spells_prettyAt (v : Value) (depth : Nat) (rest : Text) (hnumbers : AreNumbers v.tokens)
    (hend : EndsValue rest) : Spells (v.prettyAt depth) v.tokens rest := by
  cases v with
  | null => exact spells_of_readToken? (readToken?_word rfl hend)
  | bool b =>
    cases b with
    | false => exact spells_of_readToken? (readToken?_word rfl hend)
    | true => exact spells_of_readToken? (readToken?_word rfl hend)
  | number literal =>
    have hnumber : isNumber literal = true := hnumbers literal (List.mem_singleton.2 rfl)
    exact spells_of_readToken? (readToken?_number hnumber hend)
  | string content => exact spells_of_readToken? (readToken?_quoteContent content rest)
  | array items =>
    have hopen : ∀ more, Spells ['['] [.openBracket] more := spells_sign rfl
    cases items with
    | nil => exact (hopen _).append (spells_sign rfl rest)
    | cons item items =>
      have hitems := (areNumbers_array (item :: items)).1 hnumbers
      exact (hopen _).append (spells_prettyItems (item :: items) depth rest hitems)
  | object members =>
    have hopen : ∀ more, Spells ['{'] [.openBrace] more := spells_sign rfl
    cases members with
    | nil => exact (hopen _).append (spells_sign rfl rest)
    | cons member members =>
      have hmembers := (areNumbers_object (member :: members)).1 hnumbers
      exact (hopen _).append (spells_prettyMembers (member :: members) depth rest hmembers)

/-- The printed items of an array spell their tokens. -/
theorem spells_prettyItems (items : List Value) (depth : Nat) (rest : Text)
    (hnumbers : ∀ item ∈ items, AreNumbers item.tokens) :
    Spells (Value.prettyItems depth items) (Value.itemTokens items) rest := by
  cases items with
  | nil => exact (spells_sign rfl rest).on_newline depth
  | cons item items =>
    obtain ⟨hitem, hitems⟩ := List.forall_mem_cons.1 hnumbers
    have hfirst := (spells_prettyAt item (depth + 1) _ hitem
      (endsValue_prettyItems items depth rest)).on_newline (depth + 1)
    have hrest := spells_prettyItems items depth rest hitems
    rw [Value.prettyItems, Value.itemTokens_cons]
    exact (hfirst.append (spells_comma items.isEmpty _)).append hrest

/-- The printed members of an object spell their tokens. -/
theorem spells_prettyMembers (members : List (Option Text × Value)) (depth : Nat) (rest : Text)
    (hnumbers : ∀ member ∈ members, AreNumbers member.2.tokens) :
    Spells (Value.prettyMembers depth members) (Value.memberTokens members) rest := by
  cases members with
  | nil => exact (spells_sign rfl rest).on_newline depth
  | cons member members =>
    cases member with
    | mk key value =>
      obtain ⟨hvalue, hmembers⟩ := List.forall_mem_cons.1 hnumbers
      have hkey : ∀ more, Spells (newline (depth + 1) ++ quoteContent key) [.string key] more :=
        fun more => (spells_of_readToken? (readToken?_quoteContent key more)).on_newline (depth + 1)
      have hcolon : ∀ more, Spells [':', ' '] [.colon] more :=
        fun more => (spells_sign rfl _).append (spells_gaps (by decide) more)
      have hfirst := ((hkey _).append (hcolon _)).append (spells_prettyAt value (depth + 1) _ hvalue
        (endsValue_prettyMembers members depth rest))
      have hrest := spells_prettyMembers members depth rest hmembers
      rw [Value.prettyMembers, Value.memberTokens_cons]
      exact (hfirst.append (spells_comma members.isEmpty _)).append hrest

end

/-! ## From tokens to values -/

/-- An opening bracket opens an array, unless the closing bracket follows. -/
theorem expectValue?_openBracket {rest : List Token} (stack : List Frame)
    (h : rest.head? ≠ some .closeBracket) :
    expectValue? stack (.openBracket :: rest) = expectValue? (.array [] :: stack) rest := by
  rw [expectValue?]
  rintro more rfl
  exact h rfl

/-- A comma in an array is followed by the next item, unless a member of an object follows. -/
theorem afterValue?_comma {read : List Value} {outer : List Frame} (value : Value) {rest : List Token}
    (h : ∀ key more, rest ≠ .string key :: .colon :: more) :
    afterValue? (.array read :: outer) value (.comma :: rest) =
      expectValue? (.array (value :: read) :: outer) rest := by
  rw [afterValue?]
  exact h

/-- The tokens of items do not begin with a closing bracket. -/
theorem head?_itemTokens (item : Value) (items : List Value) (rest : List Token) :
    (Value.itemTokens (item :: items) ++ rest).head? ≠ some .closeBracket := by
  rw [Value.itemTokens_cons]
  cases item <;> simp [Value.tokens]

/-- The tokens of items do not begin like those of members, as no colon follows a string. -/
theorem itemTokens_ne_member (item : Value) (items : List Value) (rest : List Token) (key : Option Text)
    (more : List Token) : Value.itemTokens (item :: items) ++ rest ≠ .string key :: .colon :: more := by
  cases item <;> cases items <;> simp [Value.itemTokens, Value.tokens]

mutual

/-- The tokens of a value are read as the value, inside any open containers. -/
theorem expectValue?_tokens (v : Value) (stack : List Frame) (rest : List Token) :
    expectValue? stack (v.tokens ++ rest) = afterValue? stack v rest := by
  cases v with
  | null => simp [Value.tokens, expectValue?]
  | bool b => simp [Value.tokens, expectValue?]
  | number literal => simp [Value.tokens, expectValue?]
  | string content => simp [Value.tokens, expectValue?]
  | array items =>
    cases items with
    | nil => simp [Value.tokens, Value.itemTokens, expectValue?]
    | cons item items =>
      have hrest := afterValue?_itemTokens items item [] stack rest
      rw [← expectValue?_tokens item, ← List.append_assoc, ← List.append_assoc,
        ← Value.itemTokens_cons] at hrest
      exact (expectValue?_openBracket stack (head?_itemTokens item items rest)).trans hrest
  | object members =>
    cases members with
    | nil => simp [Value.tokens, Value.memberTokens, expectValue?]
    | cons member members =>
      cases member with
      | mk key value =>
        have hrest := afterValue?_memberTokens members key value [] stack rest
        rw [← expectValue?_tokens value] at hrest
        rw [Value.tokens, Value.memberTokens_cons]
        simpa [expectValue?] using hrest

/-- After an item of an array, the tokens of the others are read up to the end of the array. -/
theorem afterValue?_itemTokens (items : List Value) (value : Value) (read : List Value)
    (outer : List Frame) (rest : List Token) :
    afterValue? (.array read :: outer) value
        ((if items.isEmpty then [] else [.comma]) ++ (Value.itemTokens items ++ rest)) =
      afterValue? outer (.array (read.reverse ++ value :: items)) rest := by
  cases items with
  | nil => simp [Value.itemTokens, afterValue?]
  | cons item items =>
    have hrest := afterValue?_itemTokens items item (value :: read) outer rest
    rw [← expectValue?_tokens item, ← List.append_assoc, ← List.append_assoc, ← Value.itemTokens_cons,
      List.reverse_cons, List.append_assoc] at hrest
    exact (afterValue?_comma value (itemTokens_ne_member item items rest)).trans hrest

/-- After a member of an object, the tokens of the others are read up to the end of the object. -/
theorem afterValue?_memberTokens (members : List (Option Text × Value)) (key : Option Text) (value : Value)
    (read : List (Option Text × Value)) (outer : List Frame) (rest : List Token) :
    afterValue? (.object read key :: outer) value
        ((if members.isEmpty then [] else [.comma]) ++ (Value.memberTokens members ++ rest)) =
      afterValue? outer (.object (read.reverse ++ (key, value) :: members)) rest := by
  cases members with
  | nil => simp [Value.memberTokens, afterValue?]
  | cons member members =>
    cases member with
    | mk nextKey next =>
      have hrest := afterValue?_memberTokens members nextKey next ((key, value) :: read) outer rest
      rw [← expectValue?_tokens next] at hrest
      rw [Value.memberTokens_cons]
      simpa [afterValue?] using hrest

end

/-! ## Reading what was printed -/

namespace Value

/-- The tokens of a value are read as the value. -/
theorem ofTokens?_tokens (v : Value) : ofTokens? v.tokens = some v := by
  have h := expectValue?_tokens v [] []
  rw [List.append_nil] at h
  exact h

/-- A printed value is read back, with any gaps behind it. -/
theorem parse?_pretty {v : Value} (h : AreNumbers v.tokens) {gaps : Text} (hgaps : gaps.all isGap = true) :
    parse? (v.pretty ++ gaps) = some v := by
  have hend : EndsValue gaps := by
    cases gaps with
    | nil => exact endsValue_nil
    | cons c more => exact endsValue_gap (Bool.and_eq_true_iff.1 (List.all_cons ▸ hgaps)).1 more
  have hvalue : tokenize? (v.pretty ++ gaps) = _ := spells_prettyAt v 0 gaps h hend
  have hrest : tokenize? (gaps ++ []) = _ := spells_gaps hgaps []
  rw [List.append_nil, tokenize?, Option.map_some, List.nil_append] at hrest
  rw [hrest, Option.map_some, List.append_nil] at hvalue
  rw [parse?, hvalue, Option.bind_some, ofTokens?_tokens]

end Value

end InterfaceGen.Json
