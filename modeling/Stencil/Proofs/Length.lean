import Stencil.Environment
import Stencil.Value.Lookup

/-!
# The length of values

The two filters for lengths and the property `length` name one number for texts and sequences. A
map has no property but its entries: the filters count them, and the property is the entry of that
name, or undefined. Main statement: `lengths_agree`.
-/

namespace Stencil.Value

/-! ### The ways to a property -/

/-- The name `name` leads from the value `v` to `r`, on each way of reading a property: as the last
name of a path, by itself, and as a text between brackets. -/
structure Reads (v : Value) (name : String) (r : Value) : Prop where
  /-- A path that goes on from `v`. -/
  path : ∀ (w : Value) (names : List String), w.path names = v → w.path (names ++ [name]) = r
  /-- The property of a value. -/
  property : v.property name = .ok r
  /-- The item under a text, which may be a safe one. -/
  item : ∀ safe, v.item (.text name safe) = .ok r

@[simp] private theorem path_undefined (names : List String) :
    Value.undefined.path names = .undefined := by
  cases names <;> rfl

/-- A path goes on from where its first part leads. -/
theorem path_append (v : Value) (names more : List String) :
    v.path (names ++ more) = (v.path names).path more := by
  induction names generalizing v with
  | nil => rfl
  | cons name names ih =>
    simp only [List.cons_append, path]
    split
    · exact (path_undefined more).symm
    · exact ih _

/-- All ways of reading lead to the same property, where the value is there. -/
theorem reads_property? {v : Value} (h : v.isMissing = false) (name : String) :
    v.Reads name ((v.property? name).getD .undefined) where
  path w names hw := by simp [path_append, hw, path, h]
  property := by simp [property, h]
  item safe := by cases v <;> first | rfl | cases h

/-! ### Lengths -/

/-- A natural number is an integer if it fits 64 bits. -/
theorem ofNat_eq_int {n : Nat} (h : (n : Int) ≤ Int64.maxValue.toInt) :
    Value.ofNat n = .int (Int64.ofNat n) := by
  have hfits : Int64.minValue.toInt ≤ (n : Int) ∧ (n : Int) ≤ Int64.maxValue.toInt := by
    refine ⟨?_, h⟩
    rw [Int64.toInt_minValue]
    omega
  rw [ofNat, Number.int64?, if_pos hfits, Int64.ofInt_eq_ofNat]

private theorem isMissing_of_length? {v : Value} {n : Nat} (h : v.length? = some n) :
    v.isMissing = false := by
  cases v <;> first | rfl | cases h

private theorem property?_length {v : Value} {n : Nat} (h : v.length? = some n)
    (hmap : v.kind ≠ .map) : v.property? "length" = some (.ofNat n) := by
  cases v with
  | text s safe => cases h; rfl
  | seq items => cases h; rfl
  | map rows => exact absurd rfl hmap
  | _ => cases h

private theorem filter?_length {name : String} (h : name ∈ ["length", "count"]) :
    Environment.new.filter? name = some (.ofMap .value Filter.length) := by
  simp only [List.mem_cons, List.not_mem_nil, or_false] at h
  rcases h with rfl | rfl <;> rfl

private theorem length_apply {v : Value} {n : Nat} (view : FilterView) (h : v.length? = some n) :
    Filter.ofMap .value Filter.length view [v] = .ok (.ofNat n) := by
  simp only [Filter.ofMap, Filter.of, ArgKind.convert, Arguments.ofValues]
  change Filter.length v = _
  rw [Filter.length, h]

/-- Both filters for lengths give the number of characters, items or entries of a value, an integer
if it fits 64 bits. The property `length` leads to the same number where the value is no map; in a
map it leads to the entry of that name, or is undefined. -/
theorem lengths_agree {v : Value} {n : Nat} (h : v.length? = some n) :
    (∀ name ∈ ["length", "count"], ∃ f, Environment.new.filter? name = some f ∧
      ∀ view, f view [v] = .ok (.ofNat n)) ∧
    ((n : Int) ≤ Int64.maxValue.toInt → Value.ofNat n = .int (Int64.ofNat n)) ∧
    (v.kind ≠ .map → v.Reads "length" (.ofNat n)) ∧
    ∀ (names : List String) (rows : Rows names), v = .map rows →
      v.Reads "length" ((Entries.get? "length" rows.entries).getD .undefined) := by
  have hreads := reads_property? (isMissing_of_length? h) "length"
  refine ⟨fun name hname ↦ ⟨_, filter?_length hname, fun view ↦ length_apply view h⟩,
    ofNat_eq_int, fun hmap ↦ ?_, ?_⟩
  · simpa [property?_length h hmap] using hreads
  · rintro names rows rfl
    exact hreads

/-- A text of four characters, of which one takes two bytes. -/
theorem lengths_agree_accent :
    (Value.plain "élan").length? = some 4 ∧ (Value.plain "élan").kind ≠ .map ∧
      (Value.plain "élan").Reads "length" (.ofNat 4) := by
  have h : (Value.plain "élan").length? = some 4 := rfl
  have hmap : (Value.plain "élan").kind ≠ .map := by decide
  exact ⟨h, hmap, (lengths_agree h).2.2.1 hmap⟩

/-- The map with the one key `a` has no property `length`, although the filters count one entry. -/
theorem lengths_differ_map :
    (Value.single "a" (.int 1)).length? = some 1 ∧
      Entries.get? "length" [("a", Value.int 1)] = none ∧
      (Value.single "a" (.int 1)).property "length" = .ok .undefined ∧
      ¬ (Value.single "a" (.int 1)).Reads "length" (.ofNat 1) := by
  refine ⟨rfl, rfl, rfl, fun h ↦ ?_⟩
  cases h.property

end Stencil.Value
