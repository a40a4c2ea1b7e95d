import Mathlib.Data.List.Forall2
import Stencil.Pipeline
import Stencil.Proofs.Grammar.Complete
import Stencil.Proofs.Scanning.Sources

/-!
# Scanning rows

Items with commas between them are scanned one after the other behind the bracket that opens the
row, and the fragments of the row are read as these items. An item may be anything that is scanned
behind a comma or a bracket as it is on its own: an expression, or an entry of a map.
-/

namespace Stencil

/-- What is scanned behind a scan that stands between fragments, up to an end where nothing is open:
fragments without a bar by itself. -/
structure Scanner.Scans (t : Scanner) (fs : List Fragment) (text : List Char)
    (gs : List Fragment) : Prop where
  /-- The fragments are scanned. -/
  rests : (text.foldl Scanner.step t).finish.Rests (fs ++ gs)
  /-- Nothing is open. -/
  ends : (text.foldl Scanner.step t).mode.Ends
  /-- No bar stands by itself. -/
  bars : ∀ f ∈ gs, Pipeline.isBar f = false

namespace Item

variable {α : Type} {i : Item α} {n : Nat}

/-- Fragments that are an item, nested at most `n` deep, wherever they stand. -/
structure IsReadFrom (i : Item α) (n : Nat) (x : α) (gs : List Fragment) : Prop where
  /-- Neither an operator behind them nor a comma makes the last one longer. -/
  last : ∃ before f, gs = before ++ [f] ∧ Token.isJoined f = false ∧
    (f.kind == .operator && f.text.all (· == ',')) = false
  /-- Their tokens are the item. -/
  derives : ∃ ts k, Token.ofFragments gs = .ok ts ∧ k ≤ n ∧ Derives (.item i) k ts x

/-- A text is scanned behind every opener into fragments that are the item. -/
def IsScannedFrom (i : Item α) (n : Nat) (x : α) (text : List Char) : Prop :=
  ∀ (t : Scanner) (fs : List Fragment) (c : Char), t.Rests (fs ++ [.ofOperator c]) →
    c ∈ Scanner.openers →
    ∃ gs, t.Scans (fs ++ [.ofOperator c]) text gs ∧ i.IsReadFrom n x gs

private theorem exists_tokens_cons {x : α} {xs : List α} {fs gs : List Fragment}
    (hx : i.IsReadFrom n x fs)
    (hxs : ∃ ts k, Token.ofFragments gs = .ok ts ∧ k ≤ n ∧ Derives (.row i) k ts xs) :
    ∃ ts k, Token.ofFragments (fs ++ .ofOperator ',' :: gs) = .ok ts ∧ k ≤ n ∧
      Derives (.row i) k ts (x :: xs) := by
  obtain ⟨before, f, hfs, hf, -⟩ := hx.last
  obtain ⟨ts, k, hts, hk, hx⟩ := hx.derives
  obtain ⟨ts', k', hts', hk', hxs⟩ := hxs
  refine ⟨_, _, ?_, Nat.max_le.mpr ⟨hk, hk'⟩, .more hx hxs⟩
  rw [hfs] at hts ⊢
  rw [Token.ofFragments_append hf hts,
    Token.ofFragments_separator_cons (b := .comma) (by decide) rfl, hts']
  rfl

private theorem exists_scans_row {xs : List α} {texts : List (List Char)}
    (h : List.Forall₂ (i.IsScannedFrom n) xs texts) (hne : texts ≠ []) {t : Scanner}
    {fs : List Fragment} {c : Char} (ht : t.Rests (fs ++ [.ofOperator c]))
    (hc : c ∈ Scanner.openers) :
    ∃ gs, t.Scans (fs ++ [.ofOperator c]) (List.intercalate [','] texts) gs ∧
      ∃ ts k, Token.ofFragments gs = .ok ts ∧ k ≤ n ∧ Derives (.row i) k ts xs := by
  induction h generalizing t fs c with
  | nil => exact absurd rfl hne
  | @cons x text xs texts hx hrest ih =>
    obtain ⟨gs, hscans, hread⟩ := hx t fs c ht hc
    cases hrest with
    | nil =>
      refine ⟨gs, by rwa [List.intercalate_singleton], ?_⟩
      obtain ⟨ts, k, hts, hk, hx⟩ := hread.derives
      exact ⟨ts, k, hts, hk, .one hx⟩
    | @cons x' text' xs' texts' hx' hrest' =>
      obtain ⟨before, f, hfs, -, hf⟩ := hread.last
      have hcomma : ((text.foldl Scanner.step t).step ',').Rests
          (fs ++ [.ofOperator c] ++ gs ++ [.ofOperator ',']) := by
        have hrests := hscans.rests
        rw [hfs, ← List.append_assoc] at hrests ⊢
        exact hrests.step_operator hscans.ends (by decide) hf
      obtain ⟨gs', hscans', hrow⟩ := ih (List.cons_ne_nil _ _) hcomma (by decide)
      refine ⟨gs ++ .ofOperator ',' :: gs', ⟨?_, ?_, ?_⟩, exists_tokens_cons hread hrow⟩
      · rw [List.intercalate_cons_cons, List.foldl_append, List.foldl_append]
        simpa using hscans'.rests
      · rw [List.intercalate_cons_cons, List.foldl_append, List.foldl_append]
        exact hscans'.ends
      · exact List.forall_mem_append.mpr
          ⟨hscans.bars, List.forall_mem_cons.mpr ⟨rfl, hscans'.bars⟩⟩

/-- What stands behind an opening bracket is scanned into the fragments of items, if there are
any. -/
theorem exists_scans_items {xs : List α} {texts : List (List Char)}
    (h : List.Forall₂ (i.IsScannedFrom n) xs texts) {t : Scanner} {fs : List Fragment} {c : Char}
    (ht : t.Rests (fs ++ [.ofOperator c])) (hc : c ∈ Scanner.openers) :
    ∃ gs, t.Scans (fs ++ [.ofOperator c]) (List.intercalate [','] texts) gs ∧
      ∃ ts k, Token.ofFragments gs = .ok ts ∧ k ≤ n ∧ Derives (.items i) k ts xs := by
  by_cases hne : texts = []
  · subst hne
    cases h
    refine ⟨[], ⟨?_, ?_, List.forall_mem_nil _⟩, [], 0, rfl, Nat.zero_le _, .none⟩
    · rw [List.append_nil]
      exact ht.finish.symm ▸ ht
    · exact ht.mode ▸ trivial
  · obtain ⟨gs, hscans, ts, k, hts, hk, hrow⟩ := exists_scans_row h hne ht hc
    exact ⟨gs, hscans, ts, k, hts, hk, .row hrow⟩

end Item

/-! ### Expressions -/

namespace Expr.IsReadFrom

variable {e : Expr} {source : List Char}

/-- The fragments of an expression have no bar by itself among them. -/
theorem isBar_scan (h : e.IsReadFrom source) :
    ∀ f ∈ Fragment.scan source, Pipeline.isBar f = false :=
  Expr.isBar_of_ofFragments h (Fragment.apart_scan source)

/-- An expression is scanned behind an opener as it is on its own. -/
theorem scans (h : e.IsReadFrom source) (hregex : ¬Text.LeavesRegexOpen source) {t : Scanner}
    {fs : List Fragment} {c : Char} (ht : t.Rests (fs ++ [.ofOperator c]))
    (hc : c ∈ Scanner.openers) :
    t.Scans (fs ++ [.ofOperator c]) source (Fragment.scan source) := by
  obtain ⟨hmode, hrests⟩ := ht.foldl_source hc h
  exact ⟨hrests, hmode ▸ h.ends hregex, h.isBar_scan⟩

/-- The fragments of an expression do not end with an operator, nor with a comma. -/
theorem exists_last_item (h : e.IsReadFrom source) :
    ∃ before f, Fragment.scan source = before ++ [f] ∧ Token.isJoined f = false ∧
      (f.kind == .operator && f.text.all (· == ',')) = false := by
  obtain ⟨before, f, hscan, hjoined⟩ := h.exists_last
  obtain ⟨before', f', hscan', hcomma⟩ := h.exists_last_apart (c := ',') (by decide) rfl
  rw [hscan] at hscan'
  cases (List.append_inj' hscan' rfl).2
  exact ⟨before, f, hscan, hjoined, hcomma⟩

/-- An expression is an item of a row. -/
theorem isScannedFrom (h : e.IsReadFrom source) (hregex : ¬Text.LeavesRegexOpen source) :
    Item.expression.IsScannedFrom Parser.maxNesting e source := by
  intro t fs c ht hc
  refine ⟨Fragment.scan source, h.scans hregex ht hc, h.exists_last_item, ?_⟩
  obtain ⟨ts, hts, he⟩ := exists_of_bind_eq_ok h
  obtain ⟨k, hk, hderives⟩ := Expr.derives_of_ofTokens he
  exact ⟨ts, k, hts, hk, hderives⟩

/-- Expressions that leave no regular expression open are items of a row. -/
theorem forall₂_isScannedFrom {es : List Expr} {texts : List (List Char)}
    (h : List.Forall₂ Expr.IsReadFrom es texts)
    (hregex : ∀ text ∈ texts, ¬Text.LeavesRegexOpen text) :
    List.Forall₂ (Item.expression.IsScannedFrom Parser.maxNesting) es texts := by
  induction h with
  | nil => exact .nil
  | cons he _ ih =>
    obtain ⟨hopen, hregex⟩ := List.forall_mem_cons.mp hregex
    exact .cons (he.isScannedFrom hopen) (ih hregex)

end Expr.IsReadFrom

end Stencil
