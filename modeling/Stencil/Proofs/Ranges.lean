import Mathlib.Algebra.Order.Ring.Int
import Stencil.Value.Method

/-!
# Ranges of texts and sequences

Two methods take a range out of a text or a sequence. One counts negative positions from the end,
the other one takes them for the start and its positions in either order. All positions end up in
range, also where they are computed in words of 64 bits. Main statement: `slice_substring_ranges`.
-/

namespace Stencil.Value

/-! ### Positions -/

/-- The position in something of length `n` that is nearest to `i`. -/
def nearestPosition (i : Int) (n : Nat) : Nat := (max 0 (min i n)).toNat

/-- The position that `i` stands for in something of length `n`, which is counted from the end if
it is negative. -/
def countedPosition (i : Int) (n : Nat) : Nat := nearestPosition (if i < 0 then n + i else i) n

/-- The position in words of 64 bits, of which the length has no sign. -/
def relativeWord (i : Int64) (n : UInt64) : UInt64 :=
  if i < 0 then (max (n.toInt64 + i) 0).toUInt64 else min i.toUInt64 n

private theorem lt_zero_iff (i : Int64) : i < 0 ↔ i.toInt < 0 := Int64.lt_iff_toInt_lt

private theorem relativeIndex_eq (i : Int64) (n : Nat) :
    relativeIndex i n = countedPosition i.toInt n := by
  rw [relativeIndex, countedPosition, nearestPosition]
  simp only [lt_zero_iff]
  split <;> omega

private theorem clampedIndex_eq (i : Int64) (n : Nat) :
    clampedIndex i n = nearestPosition i.toInt n := by
  rw [clampedIndex, nearestPosition]
  omega

private theorem toInt_toInt64 {n : UInt64} (h : n.toNat < 2 ^ 63) : n.toInt64.toInt = n.toNat := by
  have hlt : 2 * n.toBitVec.toNat < 2 ^ 64 := by
    change 2 * n.toNat < _
    omega
  exact BitVec.toInt_eq_toNat_of_lt hlt

private theorem toNat_toUInt64 {i : Int64} (h : ¬i < 0) : i.toUInt64.toNat = i.toInt.toNat :=
  Int64.toNat_toUInt64_of_le (Int64.not_lt.mp h)

/-- An index that is added to a length does not leave 64 bits. -/
theorem toInt_add_of_lt {i : Int64} {n : UInt64} (hi : i < 0) (h : n.toNat < 2 ^ 63) :
    (n.toInt64 + i).toInt = n.toNat + i.toInt := by
  have hlower := i.le_toInt
  rw [lt_zero_iff] at hi
  rw [Int64.toInt_add, toInt_toInt64 h, Int.bmod_eq_of_le]
  all_goals omega

/-- The position is the same in words, for the length of anything that is in memory. -/
theorem toNat_relativeWord (i : Int64) {n : UInt64} (h : n.toNat < 2 ^ 63) :
    (relativeWord i n).toNat = countedPosition i.toInt n.toNat := by
  rw [relativeWord, countedPosition, nearestPosition]
  by_cases hi : i < 0
  · have hsum := toInt_add_of_lt hi h
    have hmax : max (n.toInt64 + i) 0 = if n.toInt64 + i ≤ 0 then 0 else n.toInt64 + i := rfl
    have hneg : i.toInt < 0 := (lt_zero_iff i).mp hi
    rw [if_pos hi, if_pos hneg, hmax]
    split
    · next hle =>
      have hle : (n.toInt64 + i).toInt ≤ 0 := Int64.le_iff_toInt_le.mp hle
      change 0 = _
      omega
    · next hgt =>
      have hgt : ¬(n.toInt64 + i).toInt ≤ 0 := fun h ↦ hgt (Int64.le_iff_toInt_le.mpr h)
      have hnonneg : ¬n.toInt64 + i < 0 := by
        rw [lt_zero_iff]
        omega
      rw [toNat_toUInt64 hnonneg]
      omega
  · have hmin : min i.toUInt64 n = if i.toUInt64 ≤ n then i.toUInt64 else n := rfl
    have hnonneg : ¬i.toInt < 0 := mt (lt_zero_iff i).mpr hi
    rw [if_neg hi, if_neg hnonneg, hmin]
    simp only [UInt64.le_iff_toNat_le, toNat_toUInt64 hi]
    split
    · rw [toNat_toUInt64 hi]
      omega
    · omega

/-! ### Ranges -/

/-- Where a range begins, of which the first position may count from the end. -/
def rangeStart (start : Int64) (n : Nat) : Nat := countedPosition start.toInt n

/-- Where a range ends: not in front of where it begins, and at the very end if that is not
given. -/
def rangeStop (start : Int64) (stop : Option Int64) (n : Nat) : Nat :=
  max (rangeStart start n) ((stop.map fun i ↦ countedPosition i.toInt n).getD n)

private theorem nearestPosition_le (i : Int) (n : Nat) : nearestPosition i n ≤ n := by
  rw [nearestPosition]
  omega

private theorem nearestPosition_le_nearestPosition {i j : Int} (h : i ≤ j) (n : Nat) :
    nearestPosition i n ≤ nearestPosition j n := by
  rw [nearestPosition, nearestPosition]
  omega

/-- A range lies between the start and the end. -/
theorem range_le (start : Int64) (stop : Option Int64) (n : Nat) :
    rangeStart start n ≤ rangeStop start stop n ∧ rangeStop start stop n ≤ n := by
  have hstart : rangeStart start n ≤ n := nearestPosition_le _ _
  refine ⟨Nat.le_max_left _ _, Nat.max_le.mpr ⟨hstart, ?_⟩⟩
  cases stop with
  | none => exact Nat.le_refl n
  | some stop => exact nearestPosition_le _ _

section

variable {α : Type} (items : List α)

private theorem slice_eq (start : Int64) (stop : Option Int64) : slice items (some start) stop =
    items.extract (rangeStart start items.length) (rangeStop start stop items.length) := by
  have hstop : (stop.map fun i ↦ relativeIndex i items.length) =
      stop.map fun i ↦ countedPosition i.toInt items.length :=
    Option.map_congr fun i _ ↦ relativeIndex_eq i _
  rw [slice, List.extract_eq_take_drop, rangeStop, rangeStart, hstop, Option.getD_some,
    relativeIndex_eq]
  congr 1
  omega

private theorem rangeStart_zero (n : Nat) : rangeStart 0 n = 0 := by
  rw [rangeStart, countedPosition, nearestPosition, Int64.toInt_zero, if_neg (Int.lt_irrefl 0)]
  omega

private theorem slice_append_slice (k : Int64) :
    slice items (some 0) (some k) ++ slice items (some k) none = items := by
  have hle : rangeStart k items.length ≤ items.length := nearestPosition_le _ _
  have hfront : rangeStop 0 (some k) items.length = rangeStart k items.length := by
    rw [rangeStop, rangeStart_zero, Nat.zero_max]
    rfl
  have hback : rangeStop k none items.length = items.length := Nat.max_eq_right hle
  have hrest : (items.drop (rangeStart k items.length)).length ≤
      items.length - rangeStart k items.length := Nat.le_of_eq List.length_drop
  rw [slice_eq, slice_eq, rangeStart_zero, hfront, hback, List.extract_eq_take_drop,
    List.extract_eq_take_drop, List.drop_zero, Nat.sub_zero, List.take_of_length_le hrest,
    List.take_append_drop]

/-- Where the other kind of range ends or begins, at the very end if that is not given. -/
def rangeLimit (stop : Option Int64) (n : Nat) : Nat :=
  (stop.map fun i ↦ nearestPosition i.toInt n).getD n

private theorem rangeLimit_le (stop : Option Int64) (n : Nat) : rangeLimit stop n ≤ n := by
  cases stop with
  | none => exact Nat.le_refl n
  | some stop => exact nearestPosition_le _ _

private theorem substring_eq (s : List Char) (start : Int64) (stop : Option Int64) :
    substring s start stop =
      s.extract (min (nearestPosition start.toInt s.length) (rangeLimit stop s.length))
        (max (nearestPosition start.toInt s.length) (rangeLimit stop s.length)) := by
  have hstop : (stop.map fun i ↦ clampedIndex i s.length) =
      stop.map fun i ↦ nearestPosition i.toInt s.length :=
    Option.map_congr fun i _ ↦ clampedIndex_eq i _
  rw [substring, hstop, clampedIndex_eq, ← rangeLimit, List.extract_eq_take_drop]

private theorem substring_comm (s : List Char) (i j : Int64) :
    substring s i (some j) = substring s j (some i) := by
  rw [substring_eq, substring_eq]
  change s.extract (min _ (nearestPosition j.toInt _)) (max _ (nearestPosition j.toInt _)) =
    s.extract (min _ (nearestPosition i.toInt _)) (max _ (nearestPosition i.toInt _))
  rw [Nat.min_comm, Nat.max_comm]

private theorem countedPosition_of_nonneg {i : Int} (h : 0 ≤ i) (n : Nat) :
    countedPosition i n = nearestPosition i n := by
  rw [countedPosition, if_neg (Int.not_lt.mpr h)]

private theorem substring_eq_slice (s : List Char) {start : Int64} {stop : Option Int64}
    (hstart : 0 ≤ start) (hstop : ∀ j ∈ stop, start ≤ j) :
    substring s start stop = slice s (some start) stop := by
  have hstart : 0 ≤ start.toInt := Int64.le_iff_toInt_le.mp hstart
  have hfirst : rangeStart start s.length = nearestPosition start.toInt s.length :=
    countedPosition_of_nonneg hstart _
  have hlast : (stop.map fun i ↦ countedPosition i.toInt s.length).getD s.length =
        rangeLimit stop s.length ∧
      nearestPosition start.toInt s.length ≤ rangeLimit stop s.length := by
    cases stop with
    | none => exact ⟨rfl, nearestPosition_le _ _⟩
    | some j =>
      have hle : start.toInt ≤ j.toInt := Int64.le_iff_toInt_le.mp (hstop j rfl)
      exact ⟨countedPosition_of_nonneg (Int.le_trans hstart hle) _,
        nearestPosition_le_nearestPosition hle _⟩
  rw [substring_eq, slice_eq, rangeStop, hfirst, hlast.1, Nat.min_eq_left hlast.2]

end

/-! ### Methods -/

/-- The arguments for a range. -/
def rangeArguments (start : Int64) (stop : Option Int64) : List Value :=
  .int start :: (stop.map .int).toList

/-- The method of `x` that takes a range out of `items`, of which `make` makes a value. -/
structure Slices {α : Type} (x : Value) (items : List α) (make : List α → Value) : Prop where
  /-- The items of the range are taken. -/
  range : ∀ start stop, x.callMethod "slice" (rangeArguments start stop) =
    .ok (make (items.extract (rangeStart start items.length)
      (rangeStop start stop items.length)))
  /-- A position divides the items into those in front of it and those from there on. -/
  divided : ∀ k, ∃ front back, x.callMethod "slice" [.int 0, .int k] = .ok (make front) ∧
    x.callMethod "slice" [.int k] = .ok (make back) ∧ front ++ back = items

private theorem callMethod_slice (s : String) (safe : Bool) (start : Int64)
    (stop : Option Int64) :
    (Value.text s safe).callMethod "slice" (rangeArguments start stop) =
      .ok (.ofChars (slice s.toList (some start) stop)) := by
  cases stop <;> rfl

private theorem slices_text (s : String) (safe : Bool) :
    (Value.text s safe).Slices s.toList .ofChars where
  range start stop := by rw [callMethod_slice, slice_eq]
  divided k := ⟨_, _, rfl, rfl, slice_append_slice s.toList k⟩

private theorem slices_seq (items : List Value) : (Value.seq items).Slices items .seq where
  range start stop := by
    rw [← slice_eq]
    cases stop <;> rfl
  divided k := ⟨_, _, rfl, rfl, slice_append_slice items k⟩

/-- The method of a text `x` that takes a range out of its characters between two positions. -/
structure Substrings (x : Value) (s : List Char) : Prop where
  /-- The characters between the positions are taken, whichever comes first. -/
  range : ∀ start stop,
    let a := nearestPosition start.toInt s.length
    let b := rangeLimit stop s.length
    x.callMethod "substring" (rangeArguments start stop) =
      .ok (.ofChars (s.extract (min a b) (max a b))) ∧ max a b ≤ s.length
  /-- The positions may be given in either order. -/
  symmetric : ∀ i j, x.callMethod "substring" [.int i, .int j] =
    x.callMethod "substring" [.int j, .int i]
  /-- Positions in order that are not negative give the same range in both ways. -/
  slice : ∀ start stop, 0 ≤ start → (∀ j ∈ stop, start ≤ j) →
    x.callMethod "substring" (rangeArguments start stop) =
      x.callMethod "slice" (rangeArguments start stop)

private theorem callMethod_substring (s : String) (safe : Bool) (start : Int64)
    (stop : Option Int64) :
    (Value.text s safe).callMethod "substring" (rangeArguments start stop) =
      .ok (.ofChars (substring s.toList start stop)) := by
  cases stop <;> rfl

private theorem substrings_text (s : String) (safe : Bool) :
    (Value.text s safe).Substrings s.toList where
  range start stop := by
    rw [callMethod_substring, substring_eq]
    exact ⟨rfl, Nat.max_le.mpr ⟨nearestPosition_le _ _, rangeLimit_le _ _⟩⟩
  symmetric i j := by
    have hij := callMethod_substring s safe i (some j)
    have hji := callMethod_substring s safe j (some i)
    rw [substring_comm] at hij
    exact hij.trans hji.symm
  slice start stop hstart hstop := by
    rw [callMethod_substring, callMethod_slice, substring_eq_slice _ hstart hstop]

/-- A range of a text or a sequence begins and ends within it, also where its positions are computed
in words of 64 bits. It consists of the items in between, and the range up to a position and the
range from there on are everything. The other way to take a range out of a text takes its positions
in either order, and takes the same range if they are in order and none of them is negative. -/
theorem slice_substring_ranges :
    (∀ start stop n, rangeStart start n ≤ rangeStop start stop n ∧ rangeStop start stop n ≤ n) ∧
      (∀ (i : Int64) (n : UInt64), n.toNat < 2 ^ 63 →
        (relativeWord i n).toNat = countedPosition i.toInt n.toNat ∧
          (i < 0 → (n.toInt64 + i).toInt = n.toNat + i.toInt)) ∧
      (∀ s safe, (Value.text s safe).Slices s.toList .ofChars) ∧
      (∀ items, (Value.seq items).Slices items .seq) ∧
      ∀ s safe, (Value.text s safe).Substrings s.toList :=
  ⟨range_le, fun i _ hn ↦ ⟨toNat_relativeWord i hn, fun hi ↦ toInt_add_of_lt hi hn⟩,
    slices_text, slices_seq, substrings_text⟩

/-- The last three characters of a text, and its first four ones with the positions given the other
way round. -/
theorem slice_substring_ranges_reversed :
    (relativeWord (-3) 5).toNat = 2 ∧ (UInt64.toInt64 5 + -3).toInt = 2 ∧
      (Value.text "hello" false).callMethod "slice" [.int (-3)] = .ok (.text "llo" false) ∧
      (Value.text "hello" false).callMethod "substring" [.int 4, .int (-3)] =
        .ok (.text "hell" false) ∧
      (Value.text "hello" false).callMethod "substring" [.int 1, .int 9] =
        (Value.text "hello" false).callMethod "slice" [.int 1, .int 9] := by
  obtain ⟨-, hword, htext, -, hsub⟩ := slice_substring_ranges
  refine ⟨?_, ?_, ?_, ?_, ?_⟩
  · exact (hword (-3) 5 (by decide)).1
  · exact (hword (-3) 5 (by decide)).2 (by decide)
  · exact (htext "hello" false).range (-3) none
  · exact ((hsub "hello" false).symmetric 4 (-3)).trans ((hsub "hello" false).range (-3) (some 4)).1
  · exact (hsub "hello" false).slice 1 (some 9) (by decide) (by simp)

end Stencil.Value
