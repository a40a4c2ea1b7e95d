import Stencil.Environment
import Stencil.Value.Method

/-!
# Occurrences in texts

A text is searched from left to right, and occurrences that are found never overlap. Four operations
rest on this: cutting a text at all occurrences of another one, joining the parts, replacing all
occurrences, and finding or replacing the first one. Each is told in terms of first occurrences
alone, so that they fit together. Main statement: `split_join_replace`.
-/

namespace Stencil

namespace Text

/-! ### First occurrences -/

/-- `what` occurs first in `s` between `front` and `back`. -/
structure OccursBetween (what s front back : List Char) : Prop where
  /-- The text is put together from the three. -/
  eq : s = front ++ what ++ back
  /-- No occurrence begins further to the left. -/
  first : ∀ front' back', s = front' ++ what ++ back' → front.length ≤ front'.length

/-- The parts of `s` between the occurrences of `sep`: what stands in front of the first one, and
then the parts of what stands behind it. -/
inductive Cut (sep : List Char) : List Char → List (List Char) → Prop where
  /-- Without an occurrence there is one part. -/
  | last {s : List Char} (h : ¬sep <:+: s) : Cut sep s [s]
  /-- The first occurrence ends a part. -/
  | next {s front back : List Char} {parts : List (List Char)} (h : OccursBetween sep s front back)
      (hback : Cut sep back parts) : Cut sep s (front :: parts)

/-- `t` is `s` with the occurrences of `old` replaced by `new`: the first one, and then those in
what stands behind it. -/
inductive Replaced (old new : List Char) : List Char → List Char → Prop where
  /-- Without an occurrence nothing is replaced. -/
  | last {s : List Char} (h : ¬old <:+: s) : Replaced old new s s
  /-- The first occurrence is replaced. -/
  | next {s front back t : List Char} (h : OccursBetween old s front back)
      (hback : Replaced old new back t) : Replaced old new s (front ++ new ++ t)

section

variable {sep s front back : List Char} {parts : List (List Char)} {c : Char}

private theorem occursBetween_nil (h : s = sep ++ back) : OccursBetween sep s [] back :=
  ⟨h, fun _ _ _ ↦ Nat.zero_le _⟩

private theorem OccursBetween.cons (h : OccursBetween sep s front back) (hc : ¬sep <+: c :: s) :
    OccursBetween sep (c :: s) (c :: front) back := by
  refine ⟨congrArg (c :: ·) h.eq, fun front' back' heq ↦ ?_⟩
  cases front' with
  | nil => exact absurd ⟨back', heq.symm⟩ hc
  | cons d front' =>
    rw [List.length_cons, List.length_cons]
    exact Nat.succ_le_succ (h.first front' back' (List.cons.inj heq).2)

/-- What is searched for does not occur in front of its first occurrence. -/
theorem OccursBetween.not_infix (h : OccursBetween sep s front back) (hsep : sep ≠ []) :
    ¬sep <:+: front := by
  rintro ⟨front', middle, rfl⟩
  have heq : s = front' ++ sep ++ (middle ++ sep ++ back) := by
    rw [h.eq]
    simp only [List.append_assoc]
  have hle := h.first _ _ heq
  have hpos := List.length_pos_iff.mpr hsep
  simp only [List.length_append] at hle
  omega

private theorem not_infix_cons (hc : ¬sep <+: c :: s) (h : ¬sep <:+: s) : ¬sep <:+: c :: s := by
  rw [List.infix_cons_iff]
  exact fun hor ↦ hor.elim hc h

/-- Searching finds the first occurrence, unless there is none. -/
theorem indexOf?_cases (sep s : List Char) :
    (indexOf? sep s = none ∧ ¬sep <:+: s) ∨
      ∃ front back, indexOf? sep s = some front.length ∧ OccursBetween sep s front back := by
  fun_induction indexOf? sep s with
  | case1 hempty =>
    rw [List.isEmpty_iff] at hempty
    subst hempty
    exact .inr ⟨[], [], rfl, occursBetween_nil rfl⟩
  | case2 hempty =>
    refine .inl ⟨rfl, fun h ↦ hempty ?_⟩
    rw [List.infix_nil.mp h]
    rfl
  | case3 c cs hprefix =>
    obtain ⟨back, hback⟩ := List.isPrefixOf_iff_prefix.mp hprefix
    exact .inr ⟨[], back, rfl, occursBetween_nil hback.symm⟩
  | case4 c cs hprefix ih =>
    rw [List.isPrefixOf_iff_prefix] at hprefix
    rcases ih with ⟨hnone, hnot⟩ | ⟨front, back, hsome, hoccurs⟩
    · exact .inl ⟨by rw [hnone]; rfl, not_infix_cons hprefix hnot⟩
    · exact .inr ⟨c :: front, back, by rw [hsome]; rfl, hoccurs.cons hprefix⟩

/-- The first occurrence is replaced, unless there is none. -/
theorem replaceFirst_cases (old new s : List Char) :
    (indexOf? old s = none ∧ ¬old <:+: s ∧ replaceFirst old new s = s) ∨
      ∃ front back, indexOf? old s = some front.length ∧ OccursBetween old s front back ∧
        replaceFirst old new s = front ++ new ++ back := by
  rcases indexOf?_cases old s with ⟨hnone, hnot⟩ | ⟨front, back, hsome, hoccurs⟩
  · exact .inl ⟨hnone, hnot, by rw [replaceFirst, hnone]⟩
  · refine .inr ⟨front, back, hsome, hoccurs, ?_⟩
    have hfront : s.take front.length = front := by
      rw [hoccurs.eq, List.append_assoc, List.take_left]
    have hback : s.drop (front.length + old.length) = back := by
      rw [hoccurs.eq, ← List.length_append, List.drop_left]
    rw [replaceFirst, hsome]
    simp only [hfront, hback]

/-! ### Parts -/

/-- There is at least one part. -/
theorem Cut.ne_nil (h : Cut sep s parts) : parts ≠ [] := by
  cases h <;> exact List.cons_ne_nil _ _

private theorem Cut.consHead (h : Cut sep s parts) (hc : ¬sep <+: c :: s) :
    Cut sep (c :: s) (consHead c parts) := by
  cases h with
  | last h => exact .last (not_infix_cons hc h)
  | next h hback => exact .next (h.cons hc) hback

-- A text is cut at its occurrences, where the first `skip` characters are passed over. The
-- induction follows the walk over the text.
private theorem cut_piecesFrom (hsep : sep ≠ []) (skip : Nat) (s : List Char) :
    Cut sep (s.drop skip) (piecesFrom sep skip s) := by
  fun_induction piecesFrom sep skip s with
  | case1 skip =>
    rw [List.drop_nil]
    exact .last fun h ↦ hsep (List.infix_nil.mp h)
  | case2 skip c cs ih => exact ih
  | case3 c cs hprefix ih =>
    obtain ⟨back, hback⟩ := List.isPrefixOf_iff_prefix.mp hprefix
    have hdrop : cs.drop (sep.length - 1) = back :=
      calc cs.drop (sep.length - 1)
        _ = (c :: cs).drop (sep.length - 1 + 1) := rfl
        _ = (sep ++ back).drop sep.length := by
          rw [Nat.sub_add_cancel (List.length_pos_iff.mpr hsep), hback]
        _ = back := List.drop_left
    rw [hdrop] at ih
    exact .next (occursBetween_nil hback.symm) ih
  | case4 c cs hprefix ih => exact ih.consHead (mt List.isPrefixOf_iff_prefix.mpr hprefix)

/-- The parts of a text are those between its occurrences. -/
theorem cut_pieces (hsep : sep ≠ []) (s : List Char) : Cut sep s (pieces sep s) := by
  rw [pieces, if_neg (by simpa using hsep)]
  exact cut_piecesFrom hsep 0 s

/-- The parts and what stands between them are the whole text. -/
theorem Cut.intercalate (h : Cut sep s parts) : List.intercalate sep parts = s := by
  induction h with
  | last h => exact List.intercalate_singleton
  | next h hback ih => rw [List.intercalate_cons_of_ne_nil hback.ne_nil, ih, h.eq]

/-- No part holds what a text is cut at. -/
theorem Cut.not_infix (h : Cut sep s parts) (hsep : sep ≠ []) : ∀ part ∈ parts, ¬sep <:+: part := by
  induction h with
  | last h => simpa using h
  | next h hback ih => exact List.forall_mem_cons.mpr ⟨h.not_infix hsep, ih⟩

/-- Another text between the parts stands in place of the occurrences. -/
theorem Cut.replaced (h : Cut sep s parts) (new : List Char) :
    Replaced sep new s (List.intercalate new parts) := by
  induction h with
  | last h => rw [List.intercalate_singleton]; exact .last h
  | next h hback ih =>
    rw [List.intercalate_cons_of_ne_nil hback.ne_nil]
    exact .next h ih

end

end Text

namespace Value

/-! ### The operations -/

open Text (Cut Replaced OccursBetween)

section

variable (s sep old new : String) (safe mark mark' : Bool)

/-- The text of a text is itself. -/
theorem display_text : (Value.text s mark).display = s := String.ofList_toList

private theorem callMethod_split : (Value.text s safe).callMethod "split" [.text sep mark] =
    .ok (.seq ((splitAt sep.toList s.toList).map .ofChars)) := rfl

/-- The method joins the texts of the items. -/
theorem callMethod_join (items : List Value) :
    (Value.seq items).callMethod "join" [.text sep mark] =
      .ok (.ofChars (List.intercalate sep.toList (slotTexts items))) := by
  change Except.ok (Value.ofChars (List.intercalate (Value.text sep mark).display.toList _)) = _
  rw [display_text]

/-- The method gives the position of the first occurrence. -/
theorem callMethod_indexOf : (Value.text s safe).callMethod "indexOf" [.text sep mark] =
    .ok (ofIndex? (Text.indexOf? sep.toList s.toList)) := by
  change Except.ok (ofIndex? (Text.indexOf? (Value.text sep mark).display.toList _)) = _
  rw [display_text]

private theorem callMethod_replace :
    (Value.text s safe).callMethod "replace" [.text old mark, .text new mark'] =
      .ok (.ofChars (Text.replaceFirst old.toList new.toList s.toList)) := by
  change Except.ok (Value.ofChars
    (Text.replaceFirst old.toList (Value.text new mark').display.toList s.toList)) = _
  rw [display_text]

private theorem replace_apply (view : FilterView) :
    Filter.replace view [.text s safe, .text old mark, .text new mark'] =
      .ok (.ofChars (Text.replaceAll old.toList new.toList s.toList)) := by
  change Except.ok (Value.ofChars (Text.replaceAll (Value.text old mark).display.toList
    (Value.text new mark').display.toList (Value.text s safe).display.toList)) = _
  rw [display_text, display_text, display_text]

end

private theorem slotTexts_map_ofChars (parts : List (List Char)) :
    slotTexts (parts.map .ofChars) = parts := by
  induction parts with
  | nil => rfl
  | cons part parts ih =>
    have hchars : (Value.ofChars part).chars = part := String.toList_ofList
    have hmissing : (Value.ofChars part).isMissing = false := rfl
    rw [List.map_cons, slotTexts, hmissing, if_neg Bool.false_ne_true, hchars, ih]

-- The parts that a text is cut into and what stands between them are the whole text; also the
-- characters that the empty text stands between.
private theorem intercalate_splitAt (sep s : List Char) :
    List.intercalate sep (splitAt sep s) = s := by
  by_cases hsep : sep = []
  · subst hsep
    rw [splitAt, if_pos List.isEmpty_nil]
    induction s with
    | nil => rfl
    | cons c s ih =>
      cases s with
      | nil => rfl
      | cons d s => exact List.intercalate_cons_cons.trans (congrArg (c :: ·) ih)
  · rw [splitAt, if_neg (mt List.isEmpty_iff.mp hsep)]
    exact (Text.cut_pieces hsep s).intercalate

private theorem cut_splitAt {sep : String} (hsep : sep ≠ "") (s : List Char) :
    Cut sep.toList s (splitAt sep.toList s) := by
  have hne : sep.toList ≠ [] := mt String.toList_eq_nil_iff.mp hsep
  rw [splitAt, if_neg (mt List.isEmpty_iff.mp hne)]
  exact Text.cut_pieces hne s

private theorem filter?_replace : Environment.new.filter? "replace" = some Filter.replace := rfl

/-- A text that is split by another one is joined by it to the same text. Unless it is split by the
empty text, the parts are those between the occurrences that are found from left to right, and none
of them holds another occurrence. The filter that replaces all of these occurrences gives what the
parts are joined to by the replacement. The method that replaces one occurrence replaces the one
whose position is found, that is the first one, and nothing if the position is -1, that is if there
is none. -/
theorem split_join_replace :
    (∀ (s sep : String) (safe mark : Bool), ∃ parts : List (List Char),
      (Value.text s safe).callMethod "split" [.text sep mark] =
          .ok (.seq (parts.map .ofChars)) ∧
        (Value.seq (parts.map .ofChars)).callMethod "join" [.text sep mark] = .ok (.plain s) ∧
        (sep ≠ "" → Cut sep.toList s.toList parts ∧ ∀ part ∈ parts, ¬sep.toList <:+: part)) ∧
    (∀ (s old new : String) (safe mark mark' : Bool), old ≠ "" →
      ∃ f parts t, Environment.new.filter? "replace" = some f ∧
        (∀ view, f view [.text s safe, .text old mark, .text new mark'] = .ok (.plain t)) ∧
        (Value.text s safe).callMethod "split" [.text old mark] = .ok parts ∧
        parts.callMethod "join" [.text new mark'] = .ok (.plain t) ∧
        Replaced old.toList new.toList s.toList t.toList) ∧
    ∀ (s old new : String) (safe mark mark' : Bool),
      let found := (Value.text s safe).callMethod "indexOf" [.text old mark]
      let replaced := (Value.text s safe).callMethod "replace" [.text old mark, .text new mark']
      (found = .ok (.int (-1)) ∧ ¬old.toList <:+: s.toList ∧ replaced = .ok (.plain s)) ∨
        ∃ front back, found = .ok (.ofNat front.length) ∧
          OccursBetween old.toList s.toList front back ∧
          replaced = .ok (.ofChars (front ++ new.toList ++ back)) := by
  refine ⟨fun s sep safe mark ↦ ?_, fun s old new safe mark mark' hold ↦ ?_,
    fun s old new safe mark mark' ↦ ?_⟩
  · refine ⟨splitAt sep.toList s.toList, callMethod_split .., ?_, fun hsep ↦ ?_⟩
    · rw [callMethod_join, slotTexts_map_ofChars, intercalate_splitAt, ofChars,
        String.ofList_toList]
    · have hcut := cut_splitAt hsep s.toList
      exact ⟨hcut, hcut.not_infix (mt String.toList_eq_nil_iff.mp hsep)⟩
  · have hne : old.toList ≠ [] := mt String.toList_eq_nil_iff.mp hold
    refine ⟨_, _, String.ofList (Text.replaceAll old.toList new.toList s.toList), filter?_replace,
      fun view ↦ replace_apply .., callMethod_split .., ?_, ?_⟩
    · rw [callMethod_join, slotTexts_map_ofChars, splitAt, if_neg (mt List.isEmpty_iff.mp hne)]
      rfl
    · rw [String.toList_ofList]
      exact (Text.cut_pieces hne s.toList).replaced new.toList
  · intro found replaced
    have hfound : found = _ := callMethod_indexOf ..
    have hreplaced : replaced = _ := callMethod_replace ..
    rcases Text.replaceFirst_cases old.toList new.toList s.toList with
      ⟨hnone, hnot, hreplace⟩ | ⟨front, back, hsome, hoccurs, hreplace⟩
    · rw [hnone] at hfound
      rw [hreplace, ofChars, String.ofList_toList] at hreplaced
      exact .inl ⟨hfound, hnot, hreplaced⟩
    · rw [hsome] at hfound
      refine .inr ⟨front, back, hfound, hoccurs, ?_⟩
      rw [hreplaced, hreplace]

/-- An occurrence that overlaps the first one is neither a separator nor replaced. -/
theorem split_join_replace_overlapping :
    "aa" ≠ "" ∧
      (∃ parts : List (List Char),
        (Value.plain "aaab").callMethod "split" [.plain "aa"] = .ok (.seq (parts.map .ofChars)) ∧
          (Value.seq (parts.map .ofChars)).callMethod "join" [.plain "aa"] = .ok (.plain "aaab") ∧
          ∀ part ∈ parts, ¬['a', 'a'] <:+: part) ∧
      ∃ f parts t, Environment.new.filter? "replace" = some f ∧
        (∀ view, f view [.plain "aaab", .plain "aa", .plain "aaa"] = .ok (.plain t)) ∧
        (Value.plain "aaab").callMethod "split" [.plain "aa"] = .ok parts ∧
        parts.callMethod "join" [.plain "aaa"] = .ok (.plain t) := by
  have hne : "aa" ≠ "" := by decide
  obtain ⟨parts, hsplit, hjoin, hparts⟩ := split_join_replace.1 "aaab" "aa" false false
  obtain ⟨f, cut, t, hf, happly, hcut, hjoined, -⟩ :=
    split_join_replace.2.1 "aaab" "aa" "aaa" false false false hne
  exact ⟨hne, ⟨parts, hsplit, hjoin, (hparts hne).2⟩, f, cut, t, hf, happly, hcut, hjoined⟩

end Value

end Stencil
