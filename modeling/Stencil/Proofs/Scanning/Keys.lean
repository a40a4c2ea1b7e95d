import Stencil.Proofs.Scanning.Sources

/-!
# Keys of maps

What a source becomes behind an opening brace and in front of a colon: its only word is the key of
an entry if it is a path. Any other source keeps its fragments, some of which may be marked.
-/

namespace Stencil

open Fragment (Marked Grows)

namespace Scanner

variable {s : Scanner} {fs before after : List Fragment} {f : Fragment}

private theorem step_colon_eq (hends : s.mode.Ends) : s.step ':' = s.finish.pushSymbol ':' :=
  step_of_isOperatorChar hends (by decide) (by decide)

private theorem Rests.step_colon (h : s.finish.Rests fs) (hends : s.mode.Ends)
    (hlast : s.finish.continues ':' = false) :
    ∃ gs, Marked fs gs ∧ (s.step ':').Rests (gs ++ [.ofOperator ':']) := by
  obtain ⟨gs, hgs, hpush⟩ := toList_pushSymbol_of_not_continues hlast
  rw [h.fragments] at hgs
  rw [step_colon_eq hends]
  exact ⟨gs, hgs, (mode_pushSymbol _ _).trans h.mode, (pending_pushSymbol _ _).trans h.pending,
    hpush⟩

-- Between an opening brace and a colon, a word with nothing but spaces around it is a key.
private theorem Rests.step_colon_key
    (h : s.finish.Rests (.ofOperator '\x7b' :: before ++ f :: after)) (htidy : s.finish.Tidy)
    (hends : s.mode.Ends) (hlast : s.finish.continues ':' = false)
    (hbefore : ∀ g ∈ before, g.isSpace = true) (hafter : ∀ g ∈ after, g.isSpace = true)
    (hf : f.isWord = true) :
    (s.step ':').Rests (.ofOperator '\x7b' :: before ++ f.asKey :: after ++ [.ofOperator ':']) := by
  have hspace {g : Fragment} (hg : g.isSpace = true) : g.isVisible = false ∧ g.isWord = false := by
    refine ⟨by simp [Fragment.isVisible, hg], ?_⟩
    rw [Fragment.isSpace, Bool.and_eq_true, beq_iff_eq] at hg
    simp [Fragment.isWord, hg.1]
  have hrest : ∀ g ∈ before ++ f :: after, g.isVisible = false := by
    have hvisible : f.isVisible = false := by
      rw [Fragment.isWord, bne_iff_ne] at hf
      simp [Fragment.isVisible, hf]
    exact List.forall_mem_append.mpr ⟨fun g hg ↦ (hspace (hbefore g hg)).1,
      List.forall_mem_cons.mpr ⟨hvisible, fun g hg ↦ (hspace (hafter g hg)).1⟩⟩
  have hoperator : s.finish.lastOperator = some 0 := by
    have hlast : Fragment.IsLast Fragment.isVisible
        ([] ++ .ofOperator '\x7b' :: (before ++ f :: after)) s.finish.lastOperator :=
      h.fragments ▸ htidy.lastOperator
    exact hlast.eq_some rfl hrest
  have hword : s.finish.lastWord = some (before.length + 1) := by
    have hlast := htidy.lastWord
    rw [h.fragments] at hlast
    exact hlast.eq_some hf fun g hg ↦ (hspace (hafter g hg)).2
  have hstarts : s.finish.startsEntry = true := by
    rw [startsEntry, hoperator, Option.bind_some, ← Array.getElem?_toList, h.fragments]
    rfl
  have hmark : s.finish.markKey.Rests (.ofOperator '\x7b' :: before ++ f.asKey :: after) := by
    refine ⟨(mode_markKey _).trans h.mode, (pending_markKey _).trans h.pending, ?_⟩
    rw [toList_markKey, hword, h.fragments, Option.elim_some,
      List.modify_eq_take_cons_drop (by simp)]
    simp
  rw [step_colon_eq hends, pushSymbol, hlast, hstarts]
  exact hmark.appendOperator [':']

end Scanner

namespace Expr.IsReadFrom

variable {e : Expr} {source : List Char} {before after : List Fragment} {f : Fragment}

private theorem foldl_brace (h : e.IsReadFrom source) :
    (('\x7b' :: source).foldl Scanner.step {}).mode = (source.foldl Scanner.step {}).mode ∧
      (('\x7b' :: source).foldl Scanner.step {}).finish.Rests
        (.ofOperator '\x7b' :: Fragment.scan source) ∧
      (('\x7b' :: source).foldl Scanner.step {}).finish.continues ':' = false := by
  have hbrace : (Scanner.step {} '\x7b').Rests ([] ++ [.ofOperator '\x7b']) := ⟨rfl, rfl, rfl⟩
  obtain ⟨hmode, hrests⟩ := hbrace.foldl_source (by decide) h
  refine ⟨hmode, hrests, ?_⟩
  obtain ⟨front, last, hscan, hlast⟩ := h.exists_last_apart (c := ':') (by decide) rfl
  rw [hscan, ← List.append_assoc] at hrests
  rw [List.foldl_cons, hrests.continues]
  rw [Bool.and_eq_false_iff] at hlast
  rcases hlast with hlast | hlast <;> simp [hlast]

/-- A source that is one word is the key of an entry if the word is a path. -/
theorem rests_key (h : e.IsReadFrom source)
    (hends : (source.foldl Scanner.step {}).mode.Ends)
    (hscan : Fragment.scan source = before ++ f :: after)
    (hbefore : ∀ g ∈ before, g.isSpace = true) (hafter : ∀ g ∈ after, g.isSpace = true)
    (hf : f.isWord = true) :
    (('\x7b' :: source ++ [':']).foldl Scanner.step {}).Rests
      (.ofOperator '\x7b' :: before ++ f.asKey :: after ++ [.ofOperator ':']) := by
  obtain ⟨hmode, hrests, hlast⟩ := h.foldl_brace
  rw [hscan] at hrests
  rw [List.foldl_append]
  exact hrests.step_colon_key (Scanner.tidy_foldl _).finish (hmode ▸ hends) hlast hbefore hafter hf

/-- The fragments of a source behind an opening brace stay, up to marks, if a colon follows. -/
theorem exists_scan_colon (h : e.IsReadFrom source)
    (hends : (source.foldl Scanner.step {}).mode.Ends) (rest : List Char) :
    ∃ gs more, Fragment.scan ('\x7b' :: source ++ ':' :: rest) = .ofOperator '\x7b' :: gs ++ more ∧
      Marked (Fragment.scan source) gs := by
  obtain ⟨hmode, hrests, hlast⟩ := h.foldl_brace
  obtain ⟨marked, hmarked, hcolon⟩ := hrests.step_colon (hmode ▸ hends) hlast
  have hgrows : Grows (marked ++ [.ofOperator ':'])
      (Fragment.scan ('\x7b' :: source ++ ':' :: rest)) := by
    rw [Fragment.scan, List.foldl_append, ← hcolon.fragments]
    exact .trans (Scanner.grows_foldl _ rest) (Scanner.grows_finish _)
  obtain ⟨fs, more, hfs, hmarked', -⟩ := hgrows.exists_append (List.cons_ne_nil _ _)
  cases Fragment.Marked.trans hmarked hmarked' with
  | @cons _ brace _ gs hbrace hgs =>
    obtain rfl : brace = .ofOperator '\x7b' := hbrace.eq_ofOperator
    exact ⟨gs, more, hfs, hgs⟩

end Expr.IsReadFrom

end Stencil
