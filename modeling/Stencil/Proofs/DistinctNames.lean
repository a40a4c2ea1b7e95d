import Mathlib.Data.List.Perm.Subperm
import Stencil.Value.Basic

/-!
# Distinct names

In a table with distinct names the entries are what its names are looked up with, in whatever order
they stand, and a table of as many entries that has all of its names has no other ones. Every map in
a value is such a table. Main statement: `hasDistinctNames`.
-/

namespace Stencil

namespace Entries

variable {α β : Type}

/-- In a table with distinct names each entry is what its name is looked up with. -/
theorem get?_eq_some_iff {es : List (String × α)} (hes : (es.map (·.1)).Nodup) {name : String}
    {value : α} : get? name es = some value ↔ (name, value) ∈ es := by
  induction es with
  | nil => simp [get?]
  | cons e es ih =>
    rw [List.map_cons, List.nodup_cons] at hes
    rw [get?, List.mem_cons]
    by_cases he : e.1 = name
    · have hnot : (name, value) ∉ es := fun h ↦ hes.1 (he ▸ List.mem_map_of_mem h)
      simp [he, hnot, Prod.ext_iff, eq_comm]
    · have hne : (name, value) ≠ e := fun h ↦ he (congrArg Prod.fst h).symm
      simp [he, hne, ih hes.2]

/-- A table that has all names of another one and no more entries has only its names. -/
theorem names_iff_of_subset {es : List (String × α)} {fs : List (String × β)}
    (hes : (es.map (·.1)).Nodup) (hsub : es.map (·.1) ⊆ fs.map (·.1))
    (hlength : fs.length ≤ es.length) (name : String) :
    name ∈ es.map (·.1) ↔ name ∈ fs.map (·.1) := by
  have hperm := (hes.subperm hsub).perm_of_length_le (by simpa using hlength)
  exact hperm.mem_iff

/-- Two tables with distinct names that have the same ones have as many entries. -/
theorem length_eq_of_names_iff {es : List (String × α)} {fs : List (String × β)}
    (hes : (es.map (·.1)).Nodup) (hfs : (fs.map (·.1)).Nodup)
    (h : ∀ name, name ∈ es.map (·.1) ↔ name ∈ fs.map (·.1)) : es.length = fs.length := by
  have hperm := (List.perm_ext_iff_of_nodup hes hfs).mpr h
  simpa using hperm.length_eq

end Entries

namespace Value

/-- A value stands in a value: it is that value, or stands in one of its items or entries. -/
inductive StandsIn (v : Value) : Value → Prop where
  /-- A value stands in itself. -/
  | self : StandsIn v v
  /-- What stands in an item stands in the sequence. -/
  | seq {w : Value} {items : List Value} (hw : w ∈ items) (h : StandsIn v w) :
      StandsIn v (.seq items)
  /-- What stands in the value of an entry stands in the map. -/
  | map {e : String × Value} {names : List String} {rows : Rows names} (he : e ∈ rows.entries)
      (h : StandsIn v e.2) : StandsIn v (.map rows)

/-- Whether no map in a value has a name twice. -/
structure HasDistinctNames (v : Value) : Prop where
  /-- The names of each map are distinct. -/
  nodup : ∀ (names : List String) (rows : Rows names), StandsIn (.map rows) v →
    (rows.entries.map (·.1)).Nodup

/-- No map in a value has a name twice, as none is made with one. -/
theorem hasDistinctNames (v : Value) : v.HasDistinctNames :=
  ⟨fun _ rows _ ↦ rows.nodup_map_fst_entries⟩

end Value

end Stencil
