import Mathlib.Algebra.Group.Nat.Defs
import Mathlib.Data.Set.Operations
import Mathlib.Order.Bounds.Defs
import Stencil.Proofs.DistinctNames
import Stencil.Proofs.Length
import Stencil.Proofs.Occurrences

/-!
# Positions

A loop over a value, the item under a key and the methods of texts count the same items and
characters. A loop meets as many pairs as the value is long, no key twice, and under each key the
item that is read with it. The character at a position of a text is the same in whatever way it is
read, and the position where a text is found is the first one from which the rest begins with it.
Main statement: `positions_agree`.
-/

namespace Stencil.Value

/-! ### Positions as keys -/

private theorem ofNat_of_lt {i : Nat} (h : i < 2 ^ 63) : Value.ofNat i = .int (Int64.ofNat i) := by
  apply ofNat_eq_int
  rw [Int64.toInt_maxValue]
  omega

private theorem toInt_ofNat_of_lt {i : Nat} (h : i < 2 ^ 63) : (Int64.ofNat i).toInt = i :=
  Int64.toInt_ofNat_of_lt h

private theorem not_ofNat_lt_zero {i : Nat} (h : i < 2 ^ 63) : ¬Int64.ofNat i < 0 := by
  rw [Int64.lt_iff_toInt_lt, toInt_ofNat_of_lt h, Int64.toInt_zero]
  omega

private theorem ofNat_ne {i j : Nat} (hi : i < 2 ^ 63) (hj : j < 2 ^ 63) (h : i ≠ j) :
    Value.ofNat i ≠ .ofNat j ∧ (Value.ofNat i == .ofNat j) = false := by
  have hne : Int64.ofNat i ≠ Int64.ofNat j := by
    intro heq
    have htoInt := congrArg Int64.toInt heq
    rw [toInt_ofNat_of_lt hi, toInt_ofNat_of_lt hj] at htoInt
    omega
  rw [ofNat_of_lt hi, ofNat_of_lt hj]
  refine ⟨fun heq ↦ hne (Value.int.inj heq), ?_⟩
  rw [int_beq_int]
  exact beq_eq_false_iff_ne.mpr hne

private theorem item_ofNat {v x : Value} {i : Nat} (hi : i < 2 ^ 63) (h : v.at? i = some x) :
    v.item (.ofNat i) = .ok x := by
  have hfound : (if Int64.ofNat i < 0 then none else v.at? (Int64.ofNat i).toInt.toNat) =
      some x := by
    rw [if_neg (not_ofNat_lt_zero hi), toInt_ofNat_of_lt hi, Int.toNat_natCast, h]
  rw [ofNat_of_lt hi]
  cases v with
  | seq items => exact congrArg (fun found ↦ Except.ok (found.getD .undefined)) hfound
  | text s safe => exact congrArg (fun found ↦ Except.ok (found.getD .undefined)) hfound
  | _ => cases h

/-! ### Pairs -/

/-- The pairs that a loop over a value runs over count its items, characters or entries. -/
structure Iterates (v : Value) (n : Nat) : Prop where
  /-- There are as many pairs as the value is long. -/
  length : v.iterationPairs.length = n
  /-- No two pairs have the same key, or keys that are equal. -/
  distinct : v.iterationPairs.Pairwise fun p q ↦ p.1 ≠ q.1 ∧ (p.1 == q.1) = false
  /-- Each key leads to what it is paired with. -/
  item : ∀ p ∈ v.iterationPairs, v.item p.1 = .ok p.2

private theorem pairwise_zipIdx {α : Type} (make : α → Value) {items : List α}
    (h : items.length < 2 ^ 63) :
    (items.zipIdx.map fun (x, i) ↦ (Value.ofNat i, make x)).Pairwise
      fun p q ↦ p.1 ≠ q.1 ∧ (p.1 == q.1) = false := by
  rw [List.pairwise_map, List.pairwise_iff_getElem]
  intro i j hi hj hij
  simp only [List.length_zipIdx] at hi hj
  simp only [List.getElem_zipIdx, Nat.zero_add]
  exact ofNat_ne (Nat.lt_trans hi h) (Nat.lt_trans hj h) (Nat.ne_of_lt hij)

private theorem item_of_mem_zipIdx {α : Type} {v : Value} (make : α → Value) {items : List α}
    (h : items.length < 2 ^ 63) (hat : ∀ i x, items[i]? = some x → v.at? i = some (make x)) :
    ∀ p ∈ items.zipIdx.map fun (x, i) ↦ (Value.ofNat i, make x), v.item p.1 = .ok p.2 := by
  intro p hp
  obtain ⟨⟨x, i⟩, hmem, rfl⟩ := List.mem_map.mp hp
  rw [List.mem_zipIdx_iff_getElem?] at hmem
  have hi : i < items.length := (List.getElem?_eq_some_iff.mp hmem).1
  exact item_ofNat (Nat.lt_trans hi h) (hat i x hmem)

private theorem iterates {v : Value} {n : Nat} (hv : v.length? = some n) (hn : n < 2 ^ 63) :
    v.Iterates n := by
  cases v with
  | seq items =>
    cases hv
    refine ⟨by simp [iterationPairs], pairwise_zipIdx id hn, ?_⟩
    exact item_of_mem_zipIdx id hn fun _ _ h ↦ h
  | text s safe =>
    cases hv
    refine ⟨by simp [iterationPairs], pairwise_zipIdx ofChar hn, ?_⟩
    exact item_of_mem_zipIdx ofChar hn fun _ _ h ↦ by rw [at?, h, Option.map_some]
  | map rows =>
    cases hv
    have hnames := rows.nodup_map_fst_entries
    refine ⟨by simp [iterationPairs, Rows.map], ?_, fun p hp ↦ ?_⟩
    · rw [iterationPairs, Rows.map, List.pairwise_map]
      refine (List.pairwise_map.mp hnames).imp fun {e e'} hne ↦ ?_
      refine ⟨fun heq ↦ hne (Value.text.inj heq).1, ?_⟩
      exact (text_beq_text ..).trans (beq_eq_false_iff_ne.mpr hne)
    · obtain ⟨e, he, rfl⟩ := List.mem_map.mp hp
      have hget := (Entries.get?_eq_some_iff hnames).mpr he
      change Except.ok ((Entries.get? e.1 rows.entries).getD .undefined) = _
      rw [hget]
      rfl
  | _ => cases hv

/-! ### Characters -/

/-- The character `c` stands at position `i` of the text `x`, in whatever way it is read. -/
structure ReadsChar (x : Value) (i : Nat) (c : Char) : Prop where
  /-- A loop pairs it with the position. -/
  pair : x.iterationPairs[i]? = some (.ofNat i, .ofChar c)
  /-- It is the item under the position. -/
  item : x.item (.ofNat i) = .ok (.ofChar c)
  /-- It is the character that is asked for by the position. -/
  charAt : x.callMethod "charAt" [.ofNat i] = .ok (.ofChar c)
  /-- It is the range from the position up to the next one. -/
  slice : x.callMethod "slice" [.ofNat i, .ofNat (i + 1)] = .ok (.ofChar c)
  /-- It is the item under the position once the text is split by the empty one. -/
  split : ∃ parts, x.callMethod "split" [.plain ""] = .ok parts ∧
    parts.item (.ofNat i) = .ok (.ofChar c)

private theorem relativeIndex_ofNat {i : Nat} (hi : i < 2 ^ 63) (n : Nat) :
    relativeIndex (Int64.ofNat i) n = min i n := by
  rw [relativeIndex, if_neg (not_ofNat_lt_zero hi), toInt_ofNat_of_lt hi, Int.toNat_natCast]

private theorem toSize_ofNat {i : Nat} (hi : i < 2 ^ 63) :
    ArgKind.toSize (some (.ofNat i)) = .ok i := by
  rw [ofNat_of_lt hi, ArgKind.toSize, ArgKind.toInteger]
  simp only [not_ofNat_lt_zero hi, ↓reduceIte, toInt_ofNat_of_lt hi, Int.toNat_natCast]

private theorem charAt_eq (s : String) (safe : Bool) {i : Nat} (hi : i < 2 ^ 63) :
    (Value.text s safe).callMethod "charAt" [.ofNat i] = .ok (.ofChars s.toList[i]?.toList) := by
  have hmissing : (Value.ofNat i).isMissing = false := by rw [ofNat_of_lt hi]; rfl
  have hsize : (ArgKind.optional .size).convert (some (Value.ofNat i)) = .ok (some i) := by
    simp [ArgKind.convert, hmissing, toSize_ofNat hi, Except.map]
  have harguments : Arguments.ofValues [.optional .size] [Value.ofNat i] = .ok (some i, ()) := by
    simp [Arguments.ofValues, Arguments.convertEach, hsize]
  change (Arguments.ofValues [.optional .size] [Value.ofNat i]).bind _ = _
  rw [harguments]
  rfl

private theorem slice_succ {items : List Char} {i : Nat} {c : Char}
    (hn : items.length < 2 ^ 63) (hc : items[i]? = some c) :
    Value.slice items (some (Int64.ofNat i)) (some (Int64.ofNat (i + 1))) = [c] := by
  obtain ⟨hi, rfl⟩ := List.getElem?_eq_some_iff.mp hc
  have hstart : relativeIndex (Int64.ofNat i) items.length = i := by
    rw [relativeIndex_ofNat (by omega)]
    omega
  have hstop : relativeIndex (Int64.ofNat (i + 1)) items.length = i + 1 := by
    rw [relativeIndex_ofNat (by omega)]
    omega
  rw [Value.slice, Option.getD_some, Option.map_some, Option.getD_some, hstart, hstop,
    Nat.add_sub_cancel_left, List.drop_eq_getElem_cons hi]
  rfl

private theorem readsChar {s : String} (safe : Bool) {i : Nat} {c : Char}
    (hn : s.toList.length < 2 ^ 63) (hc : s.toList[i]? = some c) :
    (Value.text s safe).ReadsChar i c := by
  have hlt : i < s.toList.length := (List.getElem?_eq_some_iff.mp hc).1
  have hi : i < 2 ^ 63 := Nat.lt_trans hlt hn
  have hslice : (Value.text s safe).callMethod "slice" [.ofNat i, .ofNat (i + 1)] = .ok (.ofChars
      (Value.slice s.toList (some (Int64.ofNat i)) (some (Int64.ofNat (i + 1))))) := by
    rw [ofNat_of_lt hi, ofNat_of_lt (by omega)]
    rfl
  have hsplit : (Value.text s safe).callMethod "split" [.plain ""] =
      .ok (.seq ((s.toList.map ([·])).map .ofChars)) := rfl
  constructor
  · simp [iterationPairs, List.getElem?_zipIdx, hc]
  · exact item_ofNat hi (by rw [at?, hc, Option.map_some])
  · rw [charAt_eq s safe hi, hc]
    rfl
  · rw [hslice, slice_succ hn hc]
    rfl
  · refine ⟨_, hsplit, item_ofNat hi ?_⟩
    rw [at?, List.getElem?_map, List.getElem?_map, hc]
    rfl

/-! ### Finding a text -/

/-- The rest of the text `x` from the position `i` on begins with the text `t`. -/
def StartsAt (x t : Value) (i : Nat) : Prop :=
  ∃ rest, x.callMethod "slice" [.ofNat i] = .ok rest ∧
    rest.callMethod "startsWith" [t] = .ok (.bool true)

/-- The text `t` is found in the text `x` where the rest of `x` first begins with it. -/
inductive Finds (x t : Value) : Prop where
  /-- It is found at the least of the positions from which the rest begins with it. -/
  | found {i : Nat} (least : IsLeast {j | x.StartsAt t j} i)
      (hindex : x.callMethod "indexOf" [t] = .ok (.ofNat i))
      (hincludes : x.callMethod "includes" [t] = .ok (.bool true))
  /-- It is not found at all. -/
  | missing (hnot : ∀ j, ¬x.StartsAt t j)
      (hindex : x.callMethod "indexOf" [t] = .ok (.int (-1)))
      (hincludes : x.callMethod "includes" [t] = .ok (.bool false))

private theorem slice_none_suffix (items : List Char) (start : Option Int64) :
    Value.slice items start none <:+ items := by
  have hlength : (items.drop (relativeIndex (start.getD 0) items.length)).length ≤
      items.length - relativeIndex (start.getD 0) items.length := Nat.le_of_eq List.length_drop
  rw [Value.slice, Option.map_none, Option.getD_none, List.take_of_length_le hlength]
  exact List.drop_suffix _ _

private theorem slice_ofNat_none {items : List Char} {i : Nat} (hi : i < 2 ^ 63) :
    Value.slice items (some (Int64.ofNat i)) none = items.drop i := by
  have hlength : (items.drop (min i items.length)).length ≤
      items.length - min i items.length := Nat.le_of_eq List.length_drop
  rw [Value.slice, Option.map_none, Option.getD_none, Option.getD_some, relativeIndex_ofNat hi,
    List.take_of_length_le hlength]
  rcases Nat.le_total i items.length with h | h
  · rw [Nat.min_eq_left h]
  · rw [Nat.min_eq_right h, List.drop_length, List.drop_eq_nil_of_le h]

private theorem startsWith_ofChars (s : List Char) (t : String) (mark : Bool) :
    (Value.ofChars s).callMethod "startsWith" [.text t mark] =
      .ok (.bool (t.toList.isPrefixOf s)) := by
  change Except.ok (Value.bool ((Value.text t mark).display.toList.isPrefixOf
    (String.ofList s).toList)) = _
  rw [String.toList_ofList, display_text]

private theorem exists_slice {s : String} {safe : Bool} {v rest : Value}
    (h : (Value.text s safe).callMethod "slice" [v] = .ok rest) :
    ∃ start, rest = .ofChars (Value.slice s.toList start none) := by
  change (Arguments.ofValues [.optional .integer, .optional .integer] [v]).bind _ = _ at h
  rw [Arguments.ofValues, Arguments.convertEach, List.head?_cons] at h
  cases hstart : (ArgKind.optional .integer).convert (some v) with
  | error e =>
    rw [hstart] at h
    cases h
  | ok start =>
    rw [hstart] at h
    exact ⟨start, (Except.ok.inj h).symm⟩

section

variable {s t : String} {safe mark : Bool} {i : Nat}

private theorem infix_of_startsAt (h : (Value.text s safe).StartsAt (.text t mark) i) :
    t.toList <:+: s.toList := by
  obtain ⟨rest, hslice, hstarts⟩ := h
  obtain ⟨start, rfl⟩ := exists_slice hslice
  rw [startsWith_ofChars] at hstarts
  have hprefix : t.toList <+: Value.slice s.toList start none :=
    List.isPrefixOf_iff_prefix.mp (Value.bool.inj (Except.ok.inj hstarts))
  exact hprefix.isInfix.trans (slice_none_suffix _ _).isInfix

private theorem startsAt_iff (hi : i < 2 ^ 63) :
    (Value.text s safe).StartsAt (.text t mark) i ↔ t.toList <+: s.toList.drop i := by
  have hslice : (Value.text s safe).callMethod "slice" [.ofNat i] =
      .ok (.ofChars (s.toList.drop i)) := by
    rw [ofNat_of_lt hi]
    change Except.ok (Value.ofChars (Value.slice s.toList (some _) none)) = _
    rw [slice_ofNat_none hi]
  rw [StartsAt, ← List.isPrefixOf_iff_prefix]
  constructor
  · rintro ⟨rest, hrest, hstarts⟩
    rw [hslice] at hrest
    cases hrest
    rw [startsWith_ofChars] at hstarts
    exact Value.bool.inj (Except.ok.inj hstarts)
  · intro hprefix
    refine ⟨_, hslice, ?_⟩
    rw [startsWith_ofChars, hprefix]

private theorem callMethod_includes (s t : String) (safe mark : Bool) :
    (Value.text s safe).callMethod "includes" [.text t mark] =
      .ok (.bool (Text.includes t.toList s.toList)) := by
  change Except.ok (Value.bool (Text.includes (Value.text t mark).display.toList _)) = _
  rw [display_text]

private theorem ofNat_ne_neg_one (i : Nat) : Value.ofNat i ≠ .int (-1) := by
  by_cases hi : i < 2 ^ 63
  · intro h
    rw [ofNat_of_lt hi] at h
    have htoInt := congrArg Int64.toInt (Value.int.inj h)
    rw [toInt_ofNat_of_lt hi] at htoInt
    have hneg : (-1 : Int64).toInt = -1 := rfl
    omega
  · have hnone : Number.int64? i = none := by
      rw [Number.int64?, if_neg]
      rw [Int64.toInt_maxValue]
      omega
    rw [ofNat, hnone]
    exact Value.noConfusion

private theorem finds (hn : s.toList.length < 2 ^ 63) :
    (Value.text s safe).Finds (.text t mark) := by
  have hindex := callMethod_indexOf s t safe mark
  have hincludes := callMethod_includes s t safe mark
  rw [Text.includes] at hincludes
  rcases Text.indexOf?_cases t.toList s.toList with
    ⟨hnone, hnot⟩ | ⟨front, back, hsome, hoccurs⟩
  · rw [hnone] at hindex hincludes
    exact .missing (fun j hj ↦ hnot (infix_of_startsAt hj)) hindex hincludes
  · rw [hsome] at hindex hincludes
    have hlength : front.length ≤ s.toList.length := by
      rw [hoccurs.eq]
      simp only [List.length_append]
      omega
    refine .found ⟨?_, fun j hj ↦ ?_⟩ hindex hincludes
    · rw [Set.mem_ofPred_eq, startsAt_iff (by omega), hoccurs.eq, List.append_assoc,
        List.drop_left]
      exact List.prefix_append _ _
    · by_contra hlt
      rw [Set.mem_ofPred_eq, startsAt_iff (by omega)] at hj
      obtain ⟨back', hback'⟩ := hj
      have hsplit : s.toList = s.toList.take j ++ t.toList ++ back' := by
        rw [List.append_assoc, hback', List.take_append_drop]
      have hle := hoccurs.first _ _ hsplit
      rw [List.length_take] at hle
      omega

end

/-! ### All ways together -/

/-- A loop over a text, a sequence or a map meets as many pairs as the value is long, no key twice,
and each key leads to what it is paired with. Every character of a text is the one that a loop, the
item under its position, the two methods that take characters out of a text, and splitting it give.
A text is found in another one at the first position from which the rest begins with it, and not at
all exactly if it is not included. Lengths are those of what is in memory. -/
theorem positions_agree :
    (∀ (v : Value) (n : Nat), v.length? = some n → n < 2 ^ 63 → v.Iterates n) ∧
    (∀ (s : String) (safe : Bool) (i : Nat) (c : Char), s.toList.length < 2 ^ 63 →
      s.toList[i]? = some c → (Value.text s safe).ReadsChar i c) ∧
    ∀ (s t : String) (safe mark : Bool), s.toList.length < 2 ^ 63 →
      (Value.text s safe).Finds (.text t mark) ∧
        ((Value.text s safe).callMethod "indexOf" [.text t mark] = .ok (.int (-1)) ↔
          (Value.text s safe).callMethod "includes" [.text t mark] = .ok (.bool false)) := by
  refine ⟨fun v n ↦ iterates, fun s safe i c ↦ readsChar safe, fun s t safe mark hn ↦ ?_⟩
  have hfinds : (Value.text s safe).Finds (.text t mark) := finds hn
  refine ⟨hfinds, ?_⟩
  cases hfinds with
  | missing hnot hindex hincludes => simp [hindex, hincludes]
  | found least hindex hincludes => simp [hindex, hincludes, ofNat_ne_neg_one]

/-- A loop over a map, the last character of a text of which one takes two bytes, and the empty text
at the start of another one. -/
theorem positions_agree_accent :
    (∃ n, (Value.ofTable (.ofList [("a", .null), ("b", .int 1)])).length? = some n ∧ n < 2 ^ 63 ∧
      (Value.ofTable (.ofList [("a", .null), ("b", .int 1)])).Iterates n) ∧
    "né".toList.length < 2 ^ 63 ∧ "né".toList[1]? = some 'é' ∧
      (Value.plain "né").ReadsChar 1 'é' ∧ (Value.plain "né").Finds (.plain "") := by
  have hn : "né".toList.length < 2 ^ 63 := by decide
  obtain ⟨hiterates, hreads, hfinds⟩ := positions_agree
  exact ⟨⟨2, rfl, by decide, hiterates _ 2 rfl (by decide)⟩, hn, rfl,
    hreads "né" false 1 'é' hn rfl, (hfinds "né" "" false false hn).1⟩

end Stencil.Value
