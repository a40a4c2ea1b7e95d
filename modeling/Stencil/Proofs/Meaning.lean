import Stencil.Value.Conversion

/-!
# What data stands for

What data is converted to can be said without a counter. Values stand for themselves, and a
conversion is going on wherever data asks. A value that stands in data is found at its place in what
the data stands for, if it is neither part of a key nor replaced by a later entry of the same name.
Main statement: `Stands.inside?_of_meaning`.
-/

namespace Stencil

/-! ### Data without a counter -/

namespace Datum

mutual

/-- What data stands for: values stand for themselves, and a conversion is going on. -/
def meaning : Datum → Except Error Value
  | .unit => .ok .null
  | .bool b => .ok (.bool b)
  | .integer n => .ok (.ofInt n)
  | .single x => .ok (.float x.toFloat)
  | .double x => .ok (.float x)
  | .char c => .ok (.ofChar c)
  | .text s => .ok (.plain s)
  | .bytes bs => .ok (.seq (bs.map fun b ↦ .ofNat b.toNat))
  | .wrapped d => d.meaning
  | .tag name => .ok (.plain name)
  | .tagged name d => do return .single name (← d.meaning)
  | .seq items => do return .seq (← itemMeanings items)
  | .taggedSeq name items => do return .single name (.seq (← itemMeanings items))
  | .map entries => do return .ofTable (← entryMeanings .empty entries)
  | .record fields => do return .ofTable (← fieldMeanings .empty fields)
  | .taggedRecord name fields => do return .single name (.ofTable (← fieldMeanings .empty fields))
  | .value v => .ok v
  | .elsewhere _ d => d.meaning
  | .converted d => d.meaning.mapError fun e ↦ .custom e.message
  | .keyless _ => .error (.custom "map value without key")
  | .converting => .ok (.bool true)
  | .failing detail => .error (.custom detail)

/-- What the items of a sequence stand for, or the first failure. -/
def itemMeanings : List Datum → Except Error (List Value)
  | [] => .ok []
  | d :: ds => do return (← d.meaning) :: (← itemMeanings ds)

/-- The table with what the entries of a map stand for, or the first failure. -/
def entryMeanings (table : Table Value) :
    List (Datum × Datum) → Except Error (Table Value)
  | [] => .ok table
  | (key, d) :: es => do
    let key ← key.meaning
    let name ← key.keyName
    let v ← d.meaning
    entryMeanings (table.insert name v) es

/-- The table with what the fields of a record stand for, or the first failure. -/
def fieldMeanings (table : Table Value) :
    List (String × Datum) → Except Error (Table Value)
  | [] => .ok table
  | (name, d) :: fs => do
    let v ← d.meaning
    fieldMeanings (table.insert name v) fs

end

end Datum

/-! ### Places -/

/-- A step down into a value. -/
inductive Inward where
  /-- To the item at a position of a sequence. -/
  | item (i : Nat)
  /-- To the entry of a map with a name. -/
  | entry (name : String)

namespace Value

/-- The value at the end of the steps down, where there is one. -/
def inside? : Value → List Inward → Option Value
  | v, [] => some v
  | .seq items, .item i :: down => items[i]?.bind (inside? · down)
  | .map rows, .entry name :: down => (Entries.get? name rows.entries).bind (inside? · down)
  | _, _ :: _ => none

/-- From the map of a table the step to a name leads to the value that stands there. -/
@[simp] theorem inside?_ofTable (table : Table Value) (name : String) (down : List Inward) :
    (ofTable table).inside? (.entry name :: down) =
      (Entries.get? name table.entries).bind (inside? · down) := by
  rw [ofTable, inside?, Rows.entries_ofList]

/-- From a map of one entry the step to its name leads to its value. -/
theorem inside?_single (name : String) (v : Value) (down : List Inward) :
    (single name v).inside? (.entry name :: down) = v.inside? down := by
  simp [single, Table.empty, Entries.insert, Entries.get?]

end Value

namespace Datum

/-- The name that the key of a map entry stands for. -/
def nameOf (key : Datum) : Except Error String := do (← key.meaning).keyName

/-- Where a value stands inside data, as the steps down to its place. Of two map entries with one
name the later one counts. -/
inductive Stands (v : Value) : Datum → List Inward → Prop where
  | here : Stands v (.value v) []
  | wrapped {d down} : Stands v d down → Stands v (.wrapped d) down
  | elsewhere {d down} (w : Value) : Stands v d down → Stands v (.elsewhere w d) down
  | converted {d down} : Stands v d down → Stands v (.converted d) down
  | tagged {d down} (name : String) :
    Stands v d down → Stands v (.tagged name d) (.entry name :: down)
  | seq {d down} (before after : List Datum) :
    Stands v d down → Stands v (.seq (before ++ d :: after)) (.item before.length :: down)
  | map {d down name} (before : List (Datum × Datum)) (key : Datum) (after : List (Datum × Datum)) :
    key.nameOf = .ok name → (∀ e ∈ after, e.1.nameOf ≠ .ok name) →
    Stands v d down → Stands v (.map (before ++ (key, d) :: after)) (.entry name :: down)
  | record {fields down} :
    Stands v (.map (fields.map fun f ↦ (.text f.1, f.2))) down → Stands v (.record fields) down
  | taggedSeq {items down} (name : String) :
    Stands v (.seq items) down → Stands v (.taggedSeq name items) (.entry name :: down)
  | taggedRecord {fields down} (name : String) :
    Stands v (.record fields) down → Stands v (.taggedRecord name fields) (.entry name :: down)

private theorem getElem?_itemMeanings {before after : List Datum} {d : Datum} {ws : List Value}
    (h : itemMeanings (before ++ d :: after) = .ok ws) :
    ∃ w, d.meaning = .ok w ∧ ws[before.length]? = some w := by
  induction before generalizing ws with
  | nil =>
    rw [List.nil_append, itemMeanings] at h
    obtain ⟨w, hw, h⟩ := exists_of_bind_eq_ok h
    obtain ⟨rest, -, h⟩ := exists_of_bind_eq_ok h
    cases h
    exact ⟨w, hw, rfl⟩
  | cons d' before ih =>
    rw [List.cons_append, itemMeanings] at h
    obtain ⟨w', -, h⟩ := exists_of_bind_eq_ok h
    obtain ⟨rest, hrest, h⟩ := exists_of_bind_eq_ok h
    cases h
    exact ih hrest

private theorem entryMeanings_cons (table : Table Value) (key d : Datum)
    (es : List (Datum × Datum)) :
    entryMeanings table ((key, d) :: es) = (do
      let name ← key.nameOf
      let v ← d.meaning
      entryMeanings (table.insert name v) es) := by
  rw [entryMeanings, nameOf, bind_assoc]

private theorem entryMeanings_append (table : Table Value)
    (before after : List (Datum × Datum)) :
    entryMeanings table (before ++ after) =
      entryMeanings table before >>= fun between ↦ entryMeanings between after := by
  induction before generalizing table with
  | nil => rfl
  | cons e before ih =>
    rw [List.cons_append, entryMeanings_cons, entryMeanings_cons]
    simp only [ih, bind_assoc]

/-- The fields of a record are the entries of a map under texts. -/
theorem fieldMeanings_eq (table : Table Value) (fields : List (String × Datum)) :
    fieldMeanings table fields = entryMeanings table (fields.map fun f ↦ (.text f.1, f.2)) := by
  induction fields generalizing table with
  | nil => rfl
  | cons f fields ih =>
    rw [List.map_cons, entryMeanings_cons, fieldMeanings]
    simp only [ih]
    rfl

private theorem get?_entryMeanings_of_ne {name : String} {es : List (Datum × Datum)}
    {table out : Table Value} (hne : ∀ e ∈ es, e.1.nameOf ≠ .ok name)
    (h : entryMeanings table es = .ok out) :
    Entries.get? name out.entries = Entries.get? name table.entries := by
  induction es generalizing table with
  | nil =>
    cases h
    rfl
  | cons e es ih =>
    rw [entryMeanings_cons] at h
    obtain ⟨name', hname, h⟩ := exists_of_bind_eq_ok h
    obtain ⟨v, -, h⟩ := exists_of_bind_eq_ok h
    have hother : name ≠ name' := by
      rintro rfl
      exact hne e List.mem_cons_self hname
    rw [ih (fun e' he' ↦ hne e' (List.mem_cons_of_mem e he')) h, Table.entries_insert,
      Entries.get?_insert, if_neg hother]

private theorem get?_entryMeanings {name : String} {before after : List (Datum × Datum)}
    {key d : Datum} {out : Table Value} (hkey : key.nameOf = .ok name)
    (hne : ∀ e ∈ after, e.1.nameOf ≠ .ok name)
    (h : entryMeanings .empty (before ++ (key, d) :: after) = .ok out) :
    ∃ w, d.meaning = .ok w ∧ Entries.get? name out.entries = some w := by
  rw [entryMeanings_append] at h
  obtain ⟨table, -, h⟩ := exists_of_bind_eq_ok h
  rw [entryMeanings_cons] at h
  obtain ⟨name', hname, h⟩ := exists_of_bind_eq_ok h
  obtain ⟨w, hw, h⟩ := exists_of_bind_eq_ok h
  cases hkey.symm.trans hname
  refine ⟨w, hw, ?_⟩
  rw [get?_entryMeanings_of_ne hne h, Table.entries_insert, Entries.get?_insert, if_pos rfl]

/-- A value is found, as it is, at its place in what the data around it stands for. -/
theorem Stands.inside?_of_meaning {v w : Value} {down : List Inward} {d : Datum}
    (h : Stands v d down) (hw : d.meaning = .ok w) : w.inside? down = some v := by
  induction h generalizing w with
  | here =>
    rw [meaning] at hw
    cases hw
    rfl
  | wrapped _ ih =>
    rw [meaning] at hw
    exact ih hw
  | elsewhere _ _ ih =>
    rw [meaning] at hw
    exact ih hw
  | @converted d _ _ ih =>
    rw [meaning] at hw
    cases hd : d.meaning with
    | error e => rw [hd] at hw; cases hw
    | ok w' =>
      rw [hd] at hw
      cases hw
      exact ih hd
  | tagged name _ ih =>
    rw [meaning] at hw
    obtain ⟨w', hw', hw⟩ := exists_of_bind_eq_ok hw
    cases hw
    rw [Value.inside?_single]
    exact ih hw'
  | seq before after _ ih =>
    rw [meaning] at hw
    obtain ⟨ws, hws, hw⟩ := exists_of_bind_eq_ok hw
    cases hw
    obtain ⟨w', hw', hget⟩ := getElem?_itemMeanings hws
    simpa [Value.inside?, hget] using ih hw'
  | map before key after hkey hne _ ih =>
    rw [meaning] at hw
    obtain ⟨table, htable, hw⟩ := exists_of_bind_eq_ok hw
    cases hw
    obtain ⟨w', hw', hget⟩ := get?_entryMeanings hkey hne htable
    simpa [hget] using ih hw'
  | record _ ih =>
    rw [meaning, fieldMeanings_eq, ← meaning] at hw
    exact ih hw
  | taggedSeq name _ ih =>
    rw [meaning] at hw
    obtain ⟨ws, hws, hw⟩ := exists_of_bind_eq_ok hw
    cases hw
    rw [Value.inside?_single]
    exact @ih (.seq ws) (by rw [meaning, hws]; rfl)
  | taggedRecord name _ ih =>
    rw [meaning] at hw
    obtain ⟨table, htable, hw⟩ := exists_of_bind_eq_ok hw
    cases hw
    rw [Value.inside?_single]
    exact @ih (.ofTable table) (by rw [meaning, htable]; rfl)

end Datum

/-! ### Parts -/

namespace Datum

/-- The parts of data, itself among them. -/
inductive Part (p : Datum) : Datum → Prop where
  | self : Part p p
  | wrapped {d : Datum} : Part p d → Part p (.wrapped d)
  | elsewhere {v : Value} {d : Datum} : Part p d → Part p (.elsewhere v d)
  | converted {d : Datum} : Part p d → Part p (.converted d)
  | keyless {d : Datum} : Part p d → Part p (.keyless d)
  | tagged {name : String} {d : Datum} : Part p d → Part p (.tagged name d)
  | seq {d : Datum} {items : List Datum} : d ∈ items → Part p d → Part p (.seq items)
  | taggedSeq {name : String} {d : Datum} {items : List Datum} :
    d ∈ items → Part p d → Part p (.taggedSeq name items)
  | key {e : Datum × Datum} {entries : List (Datum × Datum)} :
    e ∈ entries → Part p e.1 → Part p (.map entries)
  | entry {e : Datum × Datum} {entries : List (Datum × Datum)} :
    e ∈ entries → Part p e.2 → Part p (.map entries)
  | record {f : String × Datum} {fields : List (String × Datum)} :
    f ∈ fields → Part p f.2 → Part p (.record fields)
  | taggedRecord {name : String} {f : String × Datum} {fields : List (String × Datum)} :
    f ∈ fields → Part p f.2 → Part p (.taggedRecord name fields)

/-- Whether all values in data are given to the serializer of the conversion. -/
def IsSettled (d : Datum) : Prop := ∀ v p, ¬Part (.elsewhere v p) d

end Datum

end Stencil
