/-!
# Entries in order of insertion

A table from names to values keeps its entries in the order in which their names came first.
Writing to a name that is there replaces the value and leaves the entry where it stands, so that no
name comes twice in a table that is only written to. `Table` carries the proof of that.
-/

namespace Stencil.Entries

variable {α : Type}

/-- Writes a value to a name. -/
def insert (name : String) (value : α) : List (String × α) → List (String × α)
  | [] => [(name, value)]
  | e :: es => if e.1 = name then (name, value) :: es else e :: insert name value es

/-- The value of a name. -/
def get? (name : String) : List (String × α) → Option α
  | [] => none
  | e :: es => if e.1 = name then some e.2 else get? name es

/-- The table of the given entries, written from first to last. -/
def ofList (es : List (String × α)) : List (String × α) :=
  es.foldl (fun table e ↦ insert e.1 e.2 table) []

/-- Writes a value to a name in a table that is kept in the order of the names instead. -/
def insertOrdered (name : String) (value : α) : List (String × α) → List (String × α)
  | [] => [(name, value)]
  | e :: es =>
    if e.1 = name then (name, value) :: es
    else if name < e.1 then (name, value) :: e :: es
    else e :: insertOrdered name value es

/-! ### What a write changes -/

/-- Writing to a table in the order of the names adds no other entry. -/
theorem mem_insertOrdered {name : String} {value : α} {es : List (String × α)} {e : String × α}
    (h : e ∈ insertOrdered name value es) : e = (name, value) ∨ e ∈ es := by
  induction es with
  | nil => exact .inl (List.mem_singleton.mp h)
  | cons e' es ih =>
    rw [insertOrdered] at h
    split at h
    · exact (List.mem_cons.mp h).imp_right (List.mem_cons_of_mem e')
    · split at h
      · exact List.mem_cons.mp h
      · rcases List.mem_cons.mp h with rfl | h
        · exact .inr List.mem_cons_self
        · exact (ih h).imp_right (List.mem_cons_of_mem e')

/-- A name that was written is looked up with its new value, and any other name as before. -/
theorem get?_insert (name key : String) (value : α) (es : List (String × α)) :
    get? name (insert key value es) = if name = key then some value else get? name es := by
  induction es with
  | nil => simp [insert, get?, eq_comm]
  | cons e es ih =>
    by_cases h : e.1 = key
    · by_cases hn : name = key <;> simp_all [insert, get?, eq_comm]
    · by_cases he : e.1 = name
      · have hn : ¬name = key := fun hn ↦ h (he.trans hn)
        simp [insert, get?, he, hn]
      · simp [insert, get?, h, he, ih]

/-- A name that is not written keeps its value. -/
theorem get?_foldl_insert {name : String} {es : List (String × α)} (h : name ∉ es.map (·.1))
    (table : List (String × α)) :
    get? name (es.foldl (fun table e ↦ insert e.1 e.2 table) table) = get? name table := by
  induction es generalizing table with
  | nil => rfl
  | cons e es ih =>
    rw [List.map_cons, List.mem_cons, not_or] at h
    rw [List.foldl_cons, ih h.2, get?_insert, if_neg h.1]

/-- Of the entries with one name the last one counts. -/
theorem get?_ofList {name : String} {value : α} {before after : List (String × α)}
    (h : name ∉ after.map (·.1)) :
    get? name (ofList (before ++ (name, value) :: after)) = some value := by
  rw [ofList, List.foldl_append, List.foldl_cons, get?_foldl_insert h, get?_insert, if_pos rfl]

/-- In the order of the names as well, a name that was written is looked up with its new value, and
any other name as before. -/
theorem get?_insertOrdered (name key : String) (value : α) (es : List (String × α)) :
    get? name (insertOrdered key value es) = if name = key then some value else get? name es := by
  induction es with
  | nil => simp [insertOrdered, get?, eq_comm]
  | cons e es ih =>
    rw [insertOrdered]
    split
    · next h => by_cases hn : name = key <;> simp_all [get?, eq_comm]
    · next h =>
      split
      · by_cases hn : name = key <;> simp [get?, hn, eq_comm]
      · by_cases he : e.1 = name
        · have hn : ¬name = key := fun hn ↦ h (he.trans hn)
          simp [get?, he, hn]
        · simp [get?, he, ih]

/-- Writing adds no other entry. -/
theorem mem_insert {name : String} {value : α} {es : List (String × α)} {e : String × α}
    (h : e ∈ insert name value es) : e = (name, value) ∨ e ∈ es := by
  induction es with
  | nil => exact .inl (List.mem_singleton.mp h)
  | cons e' es ih =>
    rw [insert] at h
    split at h
    · exact (List.mem_cons.mp h).imp_right (List.mem_cons_of_mem e')
    · rcases List.mem_cons.mp h with rfl | h
      · exact .inr List.mem_cons_self
      · exact (ih h).imp_right (List.mem_cons_of_mem e')

/-- What a name is looked up with is one of the entries. -/
theorem mem_of_get? {name : String} {value : α} {es : List (String × α)}
    (h : get? name es = some value) : (name, value) ∈ es := by
  induction es with
  | nil => cases h
  | cons e es ih =>
    rw [get?] at h
    split at h
    · next he =>
      cases h
      rw [← he]
      exact List.mem_cons_self
    · exact List.mem_cons_of_mem _ (ih h)

/-- A name whose entries are left out has no value. -/
theorem get?_filter_ne (name : String) (es : List (String × α)) :
    get? name (es.filter fun e ↦ e.1 != name) = none := by
  induction es with
  | nil => rfl
  | cons e es ih =>
    by_cases h : e.1 = name
    · simp [h, ih]
    · simp [h, get?, ih]

/-- Leaving out the entries of one name leaves the values of the others alone. -/
theorem get?_filter_ne_of_ne {name key : String} (h : name ≠ key) (es : List (String × α)) :
    get? name (es.filter fun e ↦ e.1 != key) = get? name es := by
  induction es with
  | nil => rfl
  | cons e es ih =>
    by_cases he : e.1 = key
    · have hne : ¬e.1 = name := fun hn ↦ h (hn.symm.trans he)
      simp [he, get?, ih, Ne.symm h]
    · simp [he, get?, ih]

/-- Leaving out the entries of a name that has no value leaves out none. -/
theorem filter_ne_of_get?_eq_none {name : String} {es : List (String × α)}
    (h : get? name es = none) : (es.filter fun e ↦ e.1 != name) = es := by
  induction es with
  | nil => rfl
  | cons e es ih =>
    by_cases he : e.1 = name
    · simp [get?, he] at h
    · rw [get?, if_neg he] at h
      simp [he, ih h]

/-- Writing adds a new name at the end and keeps the names otherwise. -/
theorem map_fst_insert (key : String) (value : α) (es : List (String × α)) :
    (insert key value es).map (·.1) =
      if key ∈ es.map (·.1) then es.map (·.1) else es.map (·.1) ++ [key] := by
  induction es with
  | nil => rfl
  | cons e es ih =>
    by_cases h : e.1 = key
    · simp [insert, h]
    · by_cases hm : key ∈ es.map (·.1) <;> simp [insert, h, ih, hm, Ne.symm h]

/-- Writing to a new name adds an entry at the end. -/
theorem insert_of_notMem {name : String} {es : List (String × α)} (value : α)
    (h : name ∉ es.map (·.1)) : insert name value es = es ++ [(name, value)] := by
  induction es with
  | nil => rfl
  | cons e es ih =>
    rw [List.map_cons, List.mem_cons, not_or] at h
    rw [insert, if_neg (Ne.symm h.1), ih h.2, List.cons_append]

/-- Writing keeps the names of a table distinct. -/
theorem nodup_map_fst_insert (key : String) (value : α) {es : List (String × α)}
    (h : (es.map (·.1)).Nodup) : ((insert key value es).map (·.1)).Nodup := by
  rw [map_fst_insert]
  split
  · exact h
  · next hk => exact List.nodup_append.mpr ⟨h, by simp, by grind⟩

/-- A name has a value exactly if it is one of the names of the table. -/
theorem isSome_get? (name : String) (es : List (String × α)) :
    (get? name es).isSome ↔ name ∈ es.map (·.1) := by
  induction es with
  | nil => simp [get?]
  | cons e es ih =>
    by_cases h : e.1 = name
    · simp [get?, h]
    · simp only [get?, h, ↓reduceIte, ih, List.map_cons, List.mem_cons]
      exact ⟨Or.inr, fun hm ↦ hm.resolve_left (Ne.symm h)⟩

end Stencil.Entries

namespace Stencil

/-! ### Tables -/

/-- Entries with distinct names, in the order in which the names came first. -/
structure Table (α : Type) where
  /-- The entries. -/
  entries : List (String × α)
  /-- No name comes twice. -/
  distinct : (entries.map (·.1)).Nodup

namespace Table

variable {α : Type}

/-- The table without entries. -/
def empty : Table α := ⟨[], List.nodup_nil⟩

/-- Writes a value to a name. -/
def insert (name : String) (value : α) (table : Table α) : Table α :=
  ⟨Entries.insert name value table.entries, Entries.nodup_map_fst_insert name value table.distinct⟩

/-- Writes entries to a table, from first to last. -/
def insertAll (table : Table α) (es : List (String × α)) : Table α :=
  es.foldl (fun table e ↦ table.insert e.1 e.2) table

/-- The table of the given entries, written from first to last. -/
def ofList (es : List (String × α)) : Table α := empty.insertAll es

/-- Tables with the same entries are the same. -/
@[ext]
theorem ext {s t : Table α} (h : s.entries = t.entries) : s = t := by
  cases s
  cases t
  cases h
  rfl

/-- The empty table has no entries. -/
@[simp] theorem entries_empty : (empty : Table α).entries = [] := rfl

/-- The entries behind a write. -/
@[simp] theorem entries_insert (name : String) (value : α) (table : Table α) :
    (table.insert name value).entries = Entries.insert name value table.entries := rfl

/-- The entries behind writing some to a table. -/
theorem entries_insertAll (table : Table α) (es : List (String × α)) :
    (table.insertAll es).entries =
      es.foldl (fun entries e ↦ Entries.insert e.1 e.2 entries) table.entries := by
  induction es generalizing table with
  | nil => rfl
  | cons e es ih => exact ih (table.insert e.1 e.2)

/-- The entries of a table of given ones. -/
@[simp] theorem entries_ofList (es : List (String × α)) :
    (ofList es).entries = Entries.ofList es := entries_insertAll empty es

end Table

end Stencil
