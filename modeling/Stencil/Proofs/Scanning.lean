import Mathlib.Data.List.Forall2
import Stencil.Expr.Scanner

/-!
# Scanning sources

What each step of a scan does to the fragments: words, strings and regular expressions are added to
them, operators are added or make the last one longer, and a path may become the key of a map when a
colon is scanned.
-/

namespace Stencil

/-- The fragment of one operator character. -/
def Fragment.ofOperator (c : Char) : Fragment := ⟨[c], .operator⟩

/-- Words are of three kinds only. -/
theorem classify_ne {kind : FragmentKind}
    (h : kind ≠ .literal ∧ kind ≠ .path ∧ kind ≠ .other) (word : List Char) :
    classify word ≠ kind := by
  unfold classify
  split
  · exact h.1.symm
  · split
    · exact h.2.1.symm
    · exact h.2.2.symm

/-! ### Paths that become keys -/

/-- A fragment stays as it is, or it is a path and becomes the key of a map. -/
structure Fragment.Becomes (f g : Fragment) : Prop where
  /-- The text stays. -/
  text : g.text = f.text
  /-- The kind stays, or it was that of a path. -/
  kind : g.kind = f.kind ∨ f.kind = .path ∧ g.kind = .objectKey

namespace Fragment

/-- A fragment may stay what it is. -/
theorem Becomes.refl (f : Fragment) : f.Becomes f := ⟨rfl, .inl rfl⟩

/-- What a fragment has become may become something else. -/
theorem Becomes.trans {f g h : Fragment} (hfg : f.Becomes g) (hgh : g.Becomes h) : f.Becomes h := by
  refine ⟨hgh.text.trans hfg.text, ?_⟩
  rcases hfg.kind with hg | ⟨hf, hg⟩
  · rw [← hg]
    exact hgh.kind
  · rcases hgh.kind with hh | ⟨hpath, -⟩
    · exact .inr ⟨hf, hh.trans hg⟩
    · rw [hg] at hpath
      cases hpath

/-- No fragment becomes an operator, and none that is one becomes anything else. -/
theorem Becomes.kind_eq_operator {f g : Fragment} (h : f.Becomes g) :
    g.kind = .operator ↔ f.kind = .operator := by
  rcases h.kind with hg | ⟨hf, hg⟩
  · rw [hg]
  · simp [hf, hg]

/-- A word becomes no operator. -/
theorem Becomes.kind_ne_operator {word : List Char} {f : Fragment}
    (h : Becomes ⟨word, classify word⟩ f) : f.kind ≠ .operator := fun hkind ↦
  classify_ne (by decide) word (h.kind_eq_operator.mp hkind)

/-- The fragment as the key of a map, if it is a path. -/
def asKey (f : Fragment) : Fragment := if f.kind == .path then { f with kind := .objectKey } else f

/-- A fragment may become a key. -/
theorem becomes_asKey (f : Fragment) : f.Becomes f.asKey := by
  unfold asKey
  split
  · next hpath => exact ⟨rfl, .inr ⟨by simpa using hpath, rfl⟩⟩
  · exact .refl f

/-- The paths among the fragments may have become keys. -/
abbrev Marked : List Fragment → List Fragment → Prop := List.Forall₂ Becomes

/-- Fragments may stay unmarked. -/
theorem Marked.refl (fs : List Fragment) : Marked fs fs := List.forall₂_same.mpr fun f _ ↦ .refl f

/-- What stays where a path becomes a key holds of marked fragments. -/
theorem Marked.forall_mem {P : Fragment → Prop} (hP : ∀ f g, Becomes f g → P f → P g)
    {fs gs : List Fragment} (h : Marked fs gs) (hfs : ∀ f ∈ fs, P f) : ∀ g ∈ gs, P g := by
  induction h with
  | nil => exact hfs
  | cons hf _ ih =>
    obtain ⟨hfirst, hfs⟩ := List.forall_mem_cons.mp hfs
    exact List.forall_mem_cons.mpr ⟨hP _ _ hf hfirst, ih hfs⟩

/-- What makes no difference between paths and keys is the same of marked fragments. -/
theorem Marked.map_eq {α : Type} {φ : Fragment → α} (hφ : ∀ f g, Becomes f g → φ g = φ f)
    {fs gs : List Fragment} (h : Marked fs gs) : gs.map φ = fs.map φ := by
  induction h with
  | nil => rfl
  | cons hf _ ih => rw [List.map_cons, List.map_cons, hφ _ _ hf, ih]

end Fragment

open Fragment (Marked)

namespace Scanner

/-! ### Fragments that are added -/

variable {s : Scanner}

/-- A word is added behind the fragments. -/
@[simp] theorem toList_pushWord (s : Scanner) (text : List Char) (kind : FragmentKind) :
    (s.pushWord text kind).fragments.toList = s.fragments.toList ++ [⟨text, kind⟩] :=
  Array.toList_push

/-- An operator is added behind the fragments. -/
@[simp] theorem toList_appendOperator (s : Scanner) (op : List Char) :
    (s.appendOperator op).fragments.toList = s.fragments.toList ++ [⟨op, .operator⟩] :=
  Array.toList_push

/-- Marking a key leaves the pending word. -/
@[simp] theorem pending_markKey (s : Scanner) : s.markKey.pending = s.pending := by
  unfold markKey
  split <;> rfl

/-- Marking a key leaves the mode. -/
@[simp] theorem mode_markKey (s : Scanner) : s.markKey.mode = s.mode := by
  unfold markKey
  split <;> rfl

/-- The last word is marked. -/
theorem toList_markKey (s : Scanner) :
    s.markKey.fragments.toList =
      s.lastWord.elim s.fragments.toList fun i ↦ s.fragments.toList.modify i Fragment.asKey := by
  unfold markKey
  cases s.lastWord with
  | none => rfl
  | some i => exact Array.toList_modify

/-- A fragment that is marked was a path or stays as it is. -/
theorem marked_markKey (s : Scanner) : Marked s.fragments.toList s.markKey.fragments.toList := by
  rw [toList_markKey]
  cases s.lastWord with
  | none => exact .refl _
  | some i =>
    rw [Option.elim_some, Fragment.Marked, List.forall₂_iff_get]
    refine ⟨(List.length_modify _ _ _).symm, fun j hj hj' ↦ ?_⟩
    simp only [List.get_eq_getElem, List.getElem_modify]
    split
    · exact Fragment.becomes_asKey _
    · exact .refl _

/-- Marking a key leaves the last operator. -/
@[simp] theorem lastOperator_markKey (s : Scanner) : s.markKey.lastOperator = s.lastOperator := by
  unfold markKey
  split <;> rfl

/-- Marking a key leaves the last word. -/
@[simp] theorem lastWord_markKey (s : Scanner) : s.markKey.lastWord = s.lastWord := by
  unfold markKey
  split <;> rfl

/-- Adding a symbol leaves the pending word. -/
@[simp] theorem pending_pushSymbol (s : Scanner) (c : Char) :
    (s.pushSymbol c).pending = s.pending := by
  unfold pushSymbol
  split
  · rfl
  · dsimp only
    split
    · exact pending_markKey s
    · rfl

/-- Adding a symbol leaves the mode. -/
@[simp] theorem mode_pushSymbol (s : Scanner) (c : Char) : (s.pushSymbol c).mode = s.mode := by
  unfold pushSymbol
  split
  · rfl
  · dsimp only
    split
    · exact mode_markKey s
    · rfl

/-- An operator character that continues makes the last fragment longer. -/
theorem toList_pushSymbol_of_continues {c : Char} (h : s.continues c = true) :
    ∃ before text, s.fragments.toList = before ++ [⟨text, .operator⟩] ∧
      text.all (· == c) = true ∧ isBracket c = false ∧
      (s.pushSymbol c).fragments.toList = before ++ [⟨text ++ [c], .operator⟩] := by
  rw [pushSymbol, if_pos h]
  unfold continues at h
  split at h
  · next f hf =>
    simp only [Bool.and_eq_true, beq_iff_eq, Bool.not_eq_true'] at h
    obtain ⟨⟨hkind, hbracket⟩, htext⟩ := h
    obtain ⟨text, kind⟩ := f
    cases hkind
    rw [← Array.getLast?_toList] at hf
    obtain ⟨before, hbefore⟩ := List.getLast?_eq_some_iff.mp hf
    refine ⟨before, text, hbefore, htext, hbracket, ?_⟩
    have hsize : s.fragments.size = before.length + 1 := by
      rw [← Array.length_toList, hbefore, List.length_append, List.length_singleton]
    rw [Array.toList_modify, hbefore, hsize, Nat.add_sub_cancel]
    rw [List.modify_eq_take_cons_drop (by simp)]
    simp
  · cases h

/-- An operator character that does not continue is a fragment of its own, in front of which a path
may have become a key. -/
theorem toList_pushSymbol_of_not_continues {c : Char} (h : s.continues c = false) :
    ∃ gs, Marked s.fragments.toList gs ∧
      (s.pushSymbol c).fragments.toList = gs ++ [⟨[c], .operator⟩] := by
  rw [pushSymbol, if_neg (by simp [h])]
  dsimp only
  split
  · exact ⟨_, s.marked_markKey, toList_appendOperator _ _⟩
  · exact ⟨_, .refl _, toList_appendOperator _ _⟩

/-- Adding a character of an operator leaves the pending word. -/
@[simp] theorem pending_pushOperatorChar (s : Scanner) (c : Char) :
    (s.pushOperatorChar c).pending = s.pending := by
  unfold pushOperatorChar
  split
  · rfl
  · split <;> exact pending_pushSymbol s _

/-- Where no word is open there is nothing to be completed. -/
theorem flushWord_of_pending (h : s.pending = []) : s.flushWord = s := by
  rw [flushWord, h]
  rfl

/-- A word that stands for no operator is a fragment of its own. -/
theorem flushWord_of_word {word : List Char} (hs : s.pending = word.reverse) (hne : word ≠ [])
    (hword : word ≠ "not".toList ∧ word ≠ "or".toList ∧ word ≠ "and".toList) :
    s.flushWord = s.pushWord word (classify word) := by
  simp only [flushWord, hs, List.reverse_reverse, List.isEmpty_iff, beq_iff_eq]
  rw [if_neg hne, if_neg hword.1, if_neg hword.2.1, if_neg hword.2.2]

/-- Behind a word that is complete no word is open. -/
theorem pending_flushWord (hmode : s.mode = .words) :
    s.flushWord.pending = [] ∧ s.flushWord.mode = .words := by
  unfold flushWord
  dsimp only
  split
  · next h => exact ⟨by simpa using h, hmode⟩
  · split
    · simp [hmode]
    · split
      · exact ⟨rfl, hmode⟩
      · split
        · exact ⟨rfl, hmode⟩
        · exact ⟨rfl, rfl⟩

/-! ### Between fragments -/

/-- A scan stands between two fragments, of which the first ones are complete. -/
structure Rests (s : Scanner) (fs : List Fragment) : Prop where
  /-- No string and no regular expression is open. -/
  mode : s.mode = .words
  /-- No word is open. -/
  pending : s.pending = []
  /-- The complete fragments are the given ones. -/
  fragments : s.fragments.toList = fs

variable {fs : List Fragment}

/-- Before anything is scanned there are no fragments. -/
theorem rests_empty : Rests {} [] := ⟨rfl, rfl, rfl⟩

/-- Which characters make the last fragment longer. -/
theorem Rests.continues {f : Fragment} (h : Rests s (fs ++ [f])) (c : Char) :
    s.continues c = (f.kind == .operator && !isBracket c && f.text.all (· == c)) := by
  have hback : s.fragments.back? = some f := by
    rw [← Array.getLast?_toList, h.fragments, List.getLast?_append]
    rfl
  rw [Scanner.continues, hback]

/-- A bracket makes no fragment longer. -/
theorem continues_of_isBracket {c : Char} (hc : isBracket c = true) (s : Scanner) :
    s.continues c = false := by
  unfold Scanner.continues
  split
  · simp [hc]
  · rfl

/-- An operator is complete as soon as it is added. -/
theorem Rests.appendOperator (h : Rests s fs) (op : List Char) :
    Rests (s.appendOperator op) (fs ++ [⟨op, .operator⟩]) := by
  refine ⟨h.mode, h.pending, ?_⟩
  rw [Scanner.appendOperator, Array.toList_push, h.fragments]

/-- A character that makes no fragment longer, and is no colon, is an operator by itself. -/
theorem pushSymbol_eq {c : Char} (hc : c ≠ ':') (hlast : s.continues c = false) :
    s.pushSymbol c = s.appendOperator [c] := by
  simp [pushSymbol, hlast, hc]

/-- A complete word, string or regular expression is the last fragment. -/
theorem Rests.pushWord (hs : s.fragments.toList = fs) (text : List Char) (kind : FragmentKind) :
    Rests (s.pushWord text kind) (fs ++ [⟨text, kind⟩]) := by
  refine ⟨rfl, rfl, ?_⟩
  rw [Scanner.pushWord, Array.toList_push, hs]

/-- A word is pending until a character has been seen that ends it. -/
theorem foldl_step_word {w : List Char} (hquote : ∀ c ∈ w, Text.isQuote c = false)
    (hop : ∀ c ∈ w, isOperatorChar c = false) (hs : s.mode = .words) :
    w.foldl Scanner.step s = { s with pending := w.reverse ++ s.pending, mode := .words } := by
  induction w generalizing s with
  | nil => simp [← hs]
  | cons c cs ih =>
    have hstep : s.step c = s.extend c .words := by
      rw [Scanner.step, hs]
      simp [stepWords, hquote c List.mem_cons_self, hop c List.mem_cons_self]
    rw [List.foldl_cons, hstep, ih (fun d hd ↦ hquote d (.tail c hd))
      (fun d hd ↦ hop d (.tail c hd)) rfl]
    simp [extend]

end Scanner

end Stencil
