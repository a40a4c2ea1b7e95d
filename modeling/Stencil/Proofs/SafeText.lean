import Stencil.Evaluation

/-!
# The safe texts in a value

A safe text is written as it is, so that it matters where safe texts come from. Properties, items,
methods and operators make none: each that their results hold stands in one of the values that they
are applied to.
-/

namespace Stencil

namespace Value

/-- A text stands in a value, at any depth, as a safe one. -/
inductive HasSafe : Value → String → Prop where
  /-- The value is the safe text. -/
  | text (s : String) : HasSafe (.text s true) s
  /-- An item of a sequence holds the safe text. -/
  | seq {v : Value} {items : List Value} {s : String} (hv : v ∈ items) (h : HasSafe v s) :
      HasSafe (.seq items) s
  /-- An entry of a map holds the safe text. -/
  | map {e : String × Value} {names : List String} {rows : Rows names} {s : String}
      (he : e ∈ rows.entries) (h : HasSafe e.2 s) : HasSafe (.map rows) s

/-- Whether all safe texts that stand in a value are as described. -/
structure SafeTexts (P : String → Prop) (v : Value) : Prop where
  /-- Each safe text is as described. -/
  of_hasSafe : ∀ s, v.HasSafe s → P s

variable {P : String → Prop}

/-! ### The shapes of values -/

/-- A text holds a safe text if it is one. -/
@[simp] theorem safeTexts_text {s : String} {safe : Bool} :
    SafeTexts P (.text s safe) ↔ (safe = true → P s) := by
  constructor
  · rintro h rfl
    exact h.of_hasSafe s (.text s)
  · refine fun h ↦ ⟨fun s hs ↦ ?_⟩
    cases hs
    exact h rfl

/-- A sequence holds the safe texts of its items. -/
@[simp] theorem safeTexts_seq {items : List Value} :
    SafeTexts P (.seq items) ↔ ∀ v ∈ items, v.SafeTexts P := by
  constructor
  · exact fun h v hv ↦ ⟨fun s hs ↦ h.of_hasSafe s (.seq hv hs)⟩
  · refine fun h ↦ ⟨fun s hs ↦ ?_⟩
    cases hs with
    | seq hv hs => exact (h _ hv).of_hasSafe s hs

/-- A map holds the safe texts of its entries. -/
@[simp] theorem safeTexts_map {names : List String} {rows : Rows names} :
    SafeTexts P (.map rows) ↔ ∀ e ∈ rows.entries, e.2.SafeTexts P := by
  constructor
  · exact fun h e he ↦ ⟨fun s hs ↦ h.of_hasSafe s (.map he hs)⟩
  · refine fun h ↦ ⟨fun s hs ↦ ?_⟩
    cases hs with
    | map he hs => exact (h _ he).of_hasSafe s hs

/-- The map of a table holds the safe texts of its entries. -/
@[simp] theorem safeTexts_ofTable {table : Table Value} :
    SafeTexts P (.ofTable table) ↔ ∀ e ∈ table.entries, e.2.SafeTexts P := by
  rw [ofTable, safeTexts_map, Rows.entries_ofList]

/-- The missing value has no safe texts. -/
@[simp] theorem safeTexts_undefined : SafeTexts P .undefined := by
  refine ⟨fun s hs ↦ ?_⟩
  cases hs

/-- The empty value has no safe texts. -/
@[simp] theorem safeTexts_null : SafeTexts P .null := by
  refine ⟨fun s hs ↦ ?_⟩
  cases hs

/-- Truth values have no safe texts. -/
@[simp] theorem safeTexts_bool {b : Bool} : SafeTexts P (.bool b) := by
  refine ⟨fun s hs ↦ ?_⟩
  cases hs

/-- Integers have no safe texts. -/
@[simp] theorem safeTexts_int {n : Int64} : SafeTexts P (.int n) := by
  refine ⟨fun s hs ↦ ?_⟩
  cases hs

/-- Floating-point numbers have no safe texts. -/
@[simp] theorem safeTexts_float {x : Float} : SafeTexts P (.float x) := by
  refine ⟨fun s hs ↦ ?_⟩
  cases hs

/-- Regular expressions have no safe texts. -/
@[simp] theorem safeTexts_regex {r : Regex} : SafeTexts P (.regex r) := by
  refine ⟨fun s hs ↦ ?_⟩
  cases hs

/-- A plain text is not safe. -/
@[simp] theorem safeTexts_plain {s : String} : SafeTexts P (.plain s) := by
  refine ⟨fun s hs ↦ ?_⟩
  cases hs

/-- A text that is made of characters is not safe. -/
@[simp] theorem safeTexts_ofChars {s : List Char} : SafeTexts P (.ofChars s) := by
  refine ⟨fun s hs ↦ ?_⟩
  cases hs

/-- A text of one character is not safe. -/
@[simp] theorem safeTexts_ofChar {c : Char} : SafeTexts P (.ofChar c) := by
  refine ⟨fun s hs ↦ ?_⟩
  cases hs

/-- Natural numbers have no safe texts. -/
@[simp] theorem safeTexts_ofNat {n : Nat} : SafeTexts P (.ofNat n) := by
  rw [ofNat]
  cases Number.int64? n <;> simp

/-- Positions have no safe texts. -/
@[simp] theorem safeTexts_ofIndex? {i : Option Nat} : SafeTexts P (ofIndex? i) := by
  cases i <;> simp [ofIndex?]

/-- Numbers have no safe texts. -/
@[simp] theorem safeTexts_ofNumber {x : Float} : SafeTexts P (ofNumber x) := by
  rw [ofNumber]
  split <;> simp

/-- What is there or else undefined holds what it holds if it is there. -/
theorem safeTexts_getD {o : Option Value} (h : ∀ v, o = some v → v.SafeTexts P) :
    (o.getD .undefined).SafeTexts P := by
  cases o with
  | none => exact safeTexts_undefined
  | some v => exact h v rfl

/-! ### Parts of values -/

/-- An entry that is looked up holds no other safe texts than the table. -/
theorem safeTexts_get? {name : String} {entries : List (String × Value)} {v : Value}
    (h : ∀ e ∈ entries, e.2.SafeTexts P) (hv : Entries.get? name entries = some v) :
    v.SafeTexts P := h _ (Entries.mem_of_get? hv)

/-- A table holds no other safe texts after a write than before and in the value. -/
theorem safeTexts_insert {name : String} {v : Value} {entries : List (String × Value)}
    (h : ∀ e ∈ entries, e.2.SafeTexts P) (hv : v.SafeTexts P) :
    ∀ e ∈ Entries.insert name v entries, e.2.SafeTexts P := by
  intro e he
  rcases Entries.mem_insert he with rfl | he
  · exact hv
  · exact h e he

private theorem safeTexts_at? {v w : Value} {i : Nat} (h : v.SafeTexts P)
    (hw : v.at? i = some w) : w.SafeTexts P := by
  cases v with
  | seq items => exact safeTexts_seq.mp h w (List.mem_of_getElem? hw)
  | text s safe =>
    rw [at?, Option.map_eq_some_iff] at hw
    obtain ⟨c, -, rfl⟩ := hw
    exact safeTexts_ofChar
  | _ => cases hw

private theorem safeTexts_position {v w : Value} {name : String} (h : v.SafeTexts P)
    (hw : (Number.readPosition? name.toList).bind v.at? = some w) : w.SafeTexts P := by
  obtain ⟨i, -, hi⟩ := Option.bind_eq_some_iff.mp hw
  exact safeTexts_at? h hi

private theorem safeTexts_property? {v w : Value} {name : String} (h : v.SafeTexts P)
    (hw : v.property? name = some w) : w.SafeTexts P := by
  rw [property?.eq_def] at hw
  split at hw
  · exact safeTexts_get? (safeTexts_map.mp h) hw
  · split at hw
    · cases hw
      exact safeTexts_ofNat
    · exact safeTexts_position h hw
  · split at hw
    · cases hw
      exact safeTexts_ofNat
    · exact safeTexts_position h hw
  · split at hw <;> cases hw
    · exact safeTexts_plain
    · exact safeTexts_plain
    · exact safeTexts_bool
  · cases hw

/-- A property holds no other safe texts than the value. -/
theorem SafeTexts.property {v w : Value} {name : String} (h : v.SafeTexts P)
    (hw : v.property name = .ok w) : w.SafeTexts P := by
  rw [Value.property] at hw
  split at hw
  · cases hw
  · cases hw
    exact safeTexts_getD fun w hw ↦ safeTexts_property? h hw

/-- An item holds no other safe texts than the value. -/
theorem SafeTexts.item {v key w : Value} (h : v.SafeTexts P) (hw : v.item key = .ok w) :
    w.SafeTexts P := by
  unfold Value.item at hw
  split at hw
  · cases hw
  · cases hw
    apply safeTexts_getD
    intro w hw
    split at hw
    · split at hw
      · cases hw
      · exact safeTexts_at? h hw
    · split at hw
      · cases hw
      · exact safeTexts_at? h hw
    · exact safeTexts_property? h hw
    · exact safeTexts_property? h hw

/-- The value at the end of a path holds no other safe texts than the one at its start. -/
theorem SafeTexts.path {v : Value} {names : List String} (h : v.SafeTexts P) :
    (v.path names).SafeTexts P := by
  induction names generalizing v with
  | nil => exact h
  | cons name names ih =>
    rw [Value.path]
    split
    · exact safeTexts_undefined
    · exact ih (safeTexts_getD fun w hw ↦ safeTexts_property? h hw)

/-- The keys and values that a loop runs over hold no other safe texts than the value. -/
theorem SafeTexts.iterationPairs {v : Value} (h : v.SafeTexts P) :
    ∀ pair ∈ v.iterationPairs, pair.1.SafeTexts P ∧ pair.2.SafeTexts P := by
  intro pair hpair
  cases v with
  | seq items =>
    obtain ⟨⟨item, i⟩, hitem, rfl⟩ := List.mem_map.mp hpair
    exact ⟨safeTexts_ofNat, safeTexts_seq.mp h item (List.fst_mem_of_mem_zipIdx hitem)⟩
  | text s safe =>
    obtain ⟨⟨c, i⟩, -, rfl⟩ := List.mem_map.mp hpair
    exact ⟨safeTexts_ofNat, safeTexts_ofChar⟩
  | map entries =>
    obtain ⟨⟨key, w⟩, he, rfl⟩ := List.mem_map.mp hpair
    exact ⟨safeTexts_plain, safeTexts_map.mp h _ he⟩
  | _ => cases hpair

/-! ### Arguments -/

/-- A converted argument holds no other safe texts than the argument. -/
theorem safeTexts_convert {k : ArgKind} {v : Option Value} {x : k.Carrier}
    (h : ∀ w, v = some w → w.SafeTexts P) (hx : k.convert v = .ok x) :
    (k.toValue x).SafeTexts P := by
  induction k with
  | value =>
    cases hx
    exact safeTexts_getD h
  | list =>
    change ArgKind.toItems v = .ok x at hx
    unfold ArgKind.toItems at hx
    split at hx
    · cases hx
    · cases hx
      exact h _ rfl
    · cases hx
      apply safeTexts_seq.mpr
      intro w hw
      obtain ⟨c, -, rfl⟩ := List.mem_map.mp hw
      exact safeTexts_ofChar
    · cases hx
  | optional k ih =>
    rw [ArgKind.convert] at hx
    split at hx
    · cases hx
      exact safeTexts_null
    · cases hk : k.convert v with
      | error e =>
        rw [hk] at hx
        cases hx
      | ok y =>
        rw [hk] at hx
        cases hx
        exact ih hk
  | text => exact safeTexts_plain
  | flag => exact safeTexts_bool
  | float => exact safeTexts_float
  | integer => exact safeTexts_int
  | size => exact safeTexts_ofNat

private theorem safeTexts_convertEach {ks : List ArgKind} {vs : List Value} {xs : Arguments ks}
    (h : ∀ v ∈ vs, v.SafeTexts P) (hxs : Arguments.convertEach ks vs = .ok xs) :
    ∀ v ∈ xs.toValues ks, v.SafeTexts P := by
  induction ks generalizing vs with
  | nil => simp [Arguments.toValues]
  | cons k ks ih =>
    rw [Arguments.convertEach] at hxs
    split at hxs
    · cases hxs
    · next x hx =>
      split at hxs
      · cases hxs
      · next xs' hxs' =>
        cases hxs
        rw [Arguments.toValues, List.forall_mem_cons]
        constructor
        · apply safeTexts_convert _ hx
          intro w hw
          exact h w (List.mem_of_head? hw)
        · apply ih _ hxs'
          intro w hw
          exact h w (List.mem_of_mem_tail hw)

/-- Converted arguments hold no other safe texts than the arguments. -/
theorem safeTexts_ofValues {ks : List ArgKind} {vs : List Value} {xs : Arguments ks}
    (h : ∀ v ∈ vs, v.SafeTexts P) (hxs : Arguments.ofValues ks vs = .ok xs) :
    ∀ v ∈ xs.toValues ks, v.SafeTexts P := by
  rw [Arguments.ofValues] at hxs
  split at hxs
  · cases hxs
  · next xs' hxs' =>
    split at hxs
    · cases hxs
    · cases hxs
      exact safeTexts_convertEach h hxs'

/-! ### Methods -/

private theorem safeTexts_ofChars_map {parts : List (List Char)} :
    SafeTexts P (.seq (parts.map .ofChars)) := by
  rw [safeTexts_seq]
  intro v hv
  obtain ⟨part, -, rfl⟩ := List.mem_map.mp hv
  exact safeTexts_ofChars

private theorem safeTexts_callText {v w : Value} {s : List Char} {name : String}
    {args : List Value} (hw : v.callText s name args = .ok w) : w.SafeTexts P := by
  unfold callText at hw
  split at hw
  case h_4 =>
    obtain ⟨x, -, hx⟩ := exists_of_bind_eq_ok hw
    cases hx
    exact safeTexts_ofChars_map
  case h_13 => cases hw
  all_goals
    obtain ⟨x, -, hx⟩ := exists_of_bind_eq_ok hw
    cases hx
    simp

private theorem safeTexts_slice {items : List Value} {start stop : Option Int64}
    (h : ∀ v ∈ items, v.SafeTexts P) : ∀ v ∈ slice items start stop, v.SafeTexts P := by
  intro v hv
  exact h v (List.mem_of_mem_drop (List.mem_of_mem_take hv))

private theorem safeTexts_concat {args : List Value} (h : ∀ v ∈ args, v.SafeTexts P) :
    ∀ v ∈ args.flatMap fun arg ↦ (arg.asItems?).getD [arg], v.SafeTexts P := by
  intro v hv
  obtain ⟨arg, harg, hv⟩ := List.mem_flatMap.mp hv
  have hsafe := h arg harg
  cases arg with
  | seq items => exact safeTexts_seq.mp hsafe v hv
  | _ =>
    rw [List.mem_singleton.mp hv]
    exact hsafe

private theorem safeTexts_callSeq {v w : Value} {items : List Value} {name : String}
    {args : List Value} (h : ∀ v ∈ items, v.SafeTexts P) (hargs : ∀ v ∈ args, v.SafeTexts P)
    (hw : v.callSeq items name args = .ok w) : w.SafeTexts P := by
  unfold callSeq at hw
  split at hw
  case h_4 =>
    obtain ⟨x, -, hx⟩ := exists_of_bind_eq_ok hw
    cases hx
    exact safeTexts_seq.mpr (safeTexts_slice h)
  case h_5 =>
    cases hw
    rw [safeTexts_seq, List.forall_mem_append]
    exact ⟨h, safeTexts_concat hargs⟩
  case h_6 => cases hw
  all_goals
    obtain ⟨x, -, hx⟩ := exists_of_bind_eq_ok hw
    cases hx
    simp

private theorem safeTexts_callRegex {v w : Value} {r : Regex} {name : String} {args : List Value}
    (hw : v.callRegex r name args = .ok w) : w.SafeTexts P := by
  unfold callRegex at hw
  split at hw
  · obtain ⟨x, -, hx⟩ := exists_of_bind_eq_ok hw
    cases hx
    exact safeTexts_bool
  · cases hw

/-- The result of a method holds no other safe texts than the value and the arguments. -/
theorem SafeTexts.callMethod {v w : Value} {name : String} {args : List Value}
    (h : v.SafeTexts P) (hargs : ∀ v ∈ args, v.SafeTexts P)
    (hw : v.callMethod name args = .ok w) : w.SafeTexts P := by
  unfold Value.callMethod at hw
  split at hw
  · cases hw
  · split at hw
    · split at hw <;> cases hw
      exact safeTexts_ofChars
    · split at hw
      · exact safeTexts_callText hw
      · exact safeTexts_callSeq (safeTexts_seq.mp h) hargs hw
      · exact safeTexts_callRegex hw
      · cases hw

/-! ### Operators -/

private theorem safeTexts_numbers {operator : String} {f : Float × Float → Float} {a b w : Value}
    (hw : (numbers operator a b).map (fun p ↦ Value.float (f p)) = .ok w) : w.SafeTexts P := by
  cases hn : numbers operator a b with
  | error e =>
    rw [hn] at hw
    cases hw
  | ok p =>
    rw [hn] at hw
    cases hw
    exact safeTexts_float

private theorem safeTexts_arithmetic {operator : String} {exact : Int64 → Int64 → Option Int64}
    {approximate : Float → Float → Float} {a b w : Value}
    (hw : arithmetic operator exact approximate a b = .ok w) : w.SafeTexts P := by
  unfold arithmetic at hw
  split at hw
  · split at hw
    · cases hw
      exact safeTexts_int
    · exact safeTexts_numbers hw
  · exact safeTexts_numbers hw

/-- The result of an operator in front of its operand holds no safe text. -/
theorem safeTexts_unary {op : UnaryOp} {v w : Value} (hw : op.apply v = .ok w) :
    w.SafeTexts P := by
  cases op with
  | not =>
    cases hw
    exact safeTexts_bool
  | negate =>
    change v.negate = .ok w at hw
    unfold negate at hw
    split at hw
    · split at hw <;> cases hw
      · exact safeTexts_int
      · exact safeTexts_float
    · cases hw
      exact safeTexts_float
    · split at hw <;> cases hw
      exact safeTexts_ofNumber
  | number =>
    change v.toNumeric = .ok w at hw
    unfold toNumeric at hw
    split at hw
    · cases hw
      exact safeTexts_int
    · cases hw
      exact safeTexts_float
    · split at hw <;> cases hw
      exact safeTexts_ofNumber

/-- The result of an operator between its operands holds no other safe texts than these. -/
theorem safeTexts_binary {op : BinaryOp} {a b w : Value} (ha : a.SafeTexts P) (hb : b.SafeTexts P)
    (hw : op.apply a b = .ok w) : w.SafeTexts P := by
  cases op with
  | and =>
    cases hw
    split
    · exact hb
    · exact ha
  | or =>
    cases hw
    split
    · exact ha
    · exact hb
  | add =>
    change Value.add a b = .ok w at hw
    unfold Value.add at hw
    split at hw
    · cases hw
      exact safeTexts_ofChars
    · exact safeTexts_arithmetic hw
  | sub => exact safeTexts_arithmetic hw
  | mul => exact safeTexts_arithmetic hw
  | div => exact safeTexts_numbers hw
  | rem => exact safeTexts_arithmetic hw
  | _ =>
    cases hw
    exact safeTexts_bool

end Value

end Stencil
