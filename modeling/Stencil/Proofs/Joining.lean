import Stencil.Proofs.Occurrences

/-!
# Joined sequences

The filter that joins the items of a sequence, the method that joins them and the text of the
sequence are all what one loop writes: a separator in front of every item but the first, and the
text of the item unless it is missing. Items that are sequences are written by the same loop.
Main statement: `joins_agree`.
-/

namespace Stencil

namespace Value

/-- What the text of an item adds to the text of a sequence. -/
def slotChars (v : Value) : List Char := if v.isMissing then [] else v.display.toList

/-- What is written when the item at a position follows: a separator, unless it is the first one,
and its text. -/
def writeItem (sep written : List Char) (item : Value × Nat) : List Char :=
  written ++ (if 0 < item.2 then sep else []) ++ item.1.slotChars

/-- What a loop over the items and their positions writes. -/
def writeItems (sep : List Char) (items : List Value) : List Char :=
  items.zipIdx.foldl (writeItem sep) []

/-- The texts of the items are those that the loop writes. -/
theorem slotTexts_eq_map (items : List Value) : slotTexts items = items.map slotChars := by
  induction items with
  | nil => rfl
  | cons v items ih => rw [slotTexts, ih, List.map_cons, slotChars, display, String.toList_ofList]

section

variable {sep : List Char}

private theorem intercalate_cons (text : List Char) (texts : List (List Char)) :
    List.intercalate sep (text :: texts) = text ++ texts.flatMap (sep ++ ·) := by
  induction texts generalizing text with
  | nil => rw [List.intercalate_singleton, List.flatMap_nil, List.append_nil]
  | cons text' texts ih =>
    rw [List.intercalate_cons_cons, ih, List.flatMap_cons]
    simp only [List.append_assoc]

private theorem intercalate_append {front back : List (List Char)} (hfront : front ≠ [])
    (hback : back ≠ []) : List.intercalate sep (front ++ back) =
      List.intercalate sep front ++ sep ++ List.intercalate sep back := by
  obtain ⟨text, front, rfl⟩ := List.exists_cons_of_ne_nil hfront
  obtain ⟨text', back, rfl⟩ := List.exists_cons_of_ne_nil hback
  rw [List.cons_append, intercalate_cons, intercalate_cons, intercalate_cons, List.flatMap_append,
    List.flatMap_cons]
  simp only [List.append_assoc]

private theorem foldl_writeItem (items : List Value) (written : List Char) (i : Nat) :
    (items.zipIdx (i + 1)).foldl (writeItem sep) written =
      written ++ (items.map slotChars).flatMap (sep ++ ·) := by
  induction items generalizing written i with
  | nil => simp
  | cons item items ih =>
    rw [List.zipIdx_cons, List.foldl_cons, ih, writeItem, if_pos i.succ_pos, List.map_cons,
      List.flatMap_cons]
    simp only [List.append_assoc]

/-- The texts of the items with separators between them are what the loop writes. -/
theorem intercalate_slotTexts (sep : List Char) (items : List Value) :
    List.intercalate sep (slotTexts items) = writeItems sep items := by
  cases items with
  | nil => rfl
  | cons item items =>
    rw [slotTexts_eq_map, List.map_cons, intercalate_cons, writeItems, List.zipIdx_cons,
      List.foldl_cons, foldl_writeItem, writeItem, if_neg (Nat.lt_irrefl 0)]
    rfl

private theorem writeItems_append {front back : List Value} (hfront : front ≠ [])
    (hback : back ≠ []) :
    writeItems sep (front ++ back) = writeItems sep front ++ sep ++ writeItems sep back := by
  have hfront' : slotTexts front ≠ [] := by simpa [slotTexts_eq_map] using hfront
  have hback' : slotTexts back ≠ [] := by simpa [slotTexts_eq_map] using hback
  have happend : slotTexts (front ++ back) = slotTexts front ++ slotTexts back := by
    simp only [slotTexts_eq_map, List.map_append]
  rw [← intercalate_slotTexts, happend, intercalate_append hfront' hback', intercalate_slotTexts,
    intercalate_slotTexts]

end

/-! ### The filter, the methods and the text -/

private theorem callMethod_join_eq (items : List Value) (sep : String) (mark : Bool) :
    (Value.seq items).callMethod "join" [.text sep mark] =
      .ok (.ofChars (writeItems sep.toList items)) := by
  rw [callMethod_join, intercalate_slotTexts]

private theorem exists_filter_join :
    ∃ f, Environment.new.filter? "join" = some f ∧
      ∀ view items sep mark, f view [.seq items, .text sep mark] =
        .ok (.ofChars (writeItems sep.toList items)) := by
  refine ⟨_, rfl, fun view items sep mark ↦ ?_⟩
  change Filter.join (.seq items) (Value.text sep mark).display.toList = _
  rw [display_text, Filter.join, intercalate_slotTexts]

private theorem toList_display_seq (items : List Value) :
    (Value.seq items).display.toList = writeItems [','] items := by
  change (String.ofList (List.intercalate [','] (slotTexts items))).toList = _
  rw [String.toList_ofList, intercalate_slotTexts]

/-- The filter and the method that join a sequence do the same with every separator. They give what
a loop over the items writes, in which missing items leave their places empty. The method without a
separator and the method that gives the text of a value both give the text of the sequence, which
the same loop writes with commas. Two sequences that both have items are joined, one behind the
other, to what the first one is joined to, the separator and what the second one is joined to. -/
theorem joins_agree :
    (∃ f, Environment.new.filter? "join" = some f ∧
      ∀ view items sep mark, f view [.seq items, .text sep mark] =
        (Value.seq items).callMethod "join" [.text sep mark]) ∧
    (∀ items sep mark, (Value.seq items).callMethod "join" [.text sep mark] =
      .ok (.ofChars (writeItems sep.toList items))) ∧
    (∀ items, (Value.seq items).callMethod "join" [] = .ok (.plain (Value.seq items).display) ∧
      (Value.seq items).callMethod "toString" [] = .ok (.plain (Value.seq items).display) ∧
      (Value.seq items).display.toList = writeItems [','] items) ∧
    ∀ front back sep mark, front ≠ [] → back ≠ [] → ∃ t t' : String,
      (Value.seq front).callMethod "join" [.text sep mark] = .ok (.plain t) ∧
        (Value.seq back).callMethod "join" [.text sep mark] = .ok (.plain t') ∧
        (Value.seq (front ++ back)).callMethod "join" [.text sep mark] =
          .ok (.plain (t ++ sep ++ t')) := by
  obtain ⟨f, hf, happly⟩ := exists_filter_join
  refine ⟨⟨f, hf, fun view items sep mark ↦ ?_⟩, callMethod_join_eq,
    fun items ↦ ⟨rfl, rfl, toList_display_seq items⟩,
    fun front back sep mark hfront hback ↦ ⟨_, _, callMethod_join_eq .., callMethod_join_eq .., ?_⟩⟩
  · rw [happly, callMethod_join_eq]
  · rw [callMethod_join_eq, writeItems_append hfront hback, ofChars, String.ofList_append,
      String.ofList_append, String.ofList_toList]

/-- Missing items, empty texts and nested sequences, joined with a separator of two characters. -/
theorem joins_agree_nested :
    let front : List Value := [.null, .plain ""]
    let back : List Value := [.seq [.bool true, .undefined, .seq [.plain "a", .plain "b"]], .null]
    front ≠ [] ∧ back ≠ [] ∧ ∃ t t' : String,
      (Value.seq front).callMethod "join" [.plain "; "] = .ok (.plain t) ∧
        (Value.seq back).callMethod "join" [.plain "; "] = .ok (.plain t') ∧
        (Value.seq (front ++ back)).callMethod "join" [.plain "; "] =
          .ok (.plain (t ++ "; " ++ t')) := by
  intro front back
  have hfront : front ≠ [] := List.cons_ne_nil _ _
  have hback : back ≠ [] := List.cons_ne_nil _ _
  exact ⟨hfront, hback, joins_agree.2.2.2 front back "; " false hfront hback⟩

end Value

end Stencil
