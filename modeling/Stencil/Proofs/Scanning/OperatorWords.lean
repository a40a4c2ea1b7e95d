import Stencil.Proofs.Scanning.Sources

/-!
# Words that stand for operators

Between spaces, the words `not`, `or` and `and` are scanned as `!`, `||` and `&&` are. A word
becomes its operator at once, while of two equal characters the second one makes the first one
longer. Both leave the scan in one state, so whatever follows is scanned alike. Main statement:
`scan_operatorWord`.
-/

namespace Stencil

/-- The words that stand for operators, each with its operator. -/
def wordOperators : List (List Char × List Char) :=
  [(['n', 'o', 't'], ['!']), (['o', 'r'], ['|', '|']), (['a', 'n', 'd'], ['&', '&'])]

namespace Scanner

variable {s : Scanner} {c : Char} {word symbol : List Char} {fs : List Fragment}

/-! ### Behind a space -/

private theorem Rests.continues_space {before : List Fragment} {f : Fragment}
    (h : s.Rests (before ++ [f])) (hspace : f.isSpace = true) (hne : f.text ≠ []) (hc : c ≠ ' ') :
    s.continues c = false := by
  obtain ⟨d, cs, htext⟩ := List.exists_cons_of_ne_nil hne
  rw [Fragment.isSpace, htext, List.all_cons, Bool.and_eq_true, Bool.and_eq_true] at hspace
  have hd : d = ' ' := by simpa using hspace.2.1
  rw [h.continues, htext, List.all_cons, hd]
  simp [Ne.symm hc]

private theorem rests_step_space (hends : s.mode.Ends) :
    ∃ fs, (s.step ' ').Rests fs ∧ ∀ c, c ≠ ' ' → (s.step ' ').continues c = false := by
  have hstep : s.step ' ' = s.finish.pushSymbol ' ' :=
    step_of_isOperatorChar hends (by decide) (by decide)
  obtain ⟨before, f, ⟨hspace, hne⟩, hpush, -⟩ := s.rests_finish.pushSpace
  rw [← hstep] at hpush
  exact ⟨_, hpush, fun c hc ↦ hpush.continues_space hspace hne hc⟩

/-! ### Operators at the start of a fragment -/

private theorem Rests.step_mark (h : s.Rests fs) (hc : c ∈ ['!', '|', '&']) :
    s.step c = s.pushSymbol c := by
  have hop : isOperatorChar c = true ∧ c ≠ '/' ∧ s.pushOperatorChar c = s.pushSymbol c := by
    simp only [List.mem_cons, List.not_mem_nil, or_false] at hc
    rcases hc with rfl | rfl | rfl <;> exact ⟨by decide, by decide, rfl⟩
  rw [step_of_isOperatorChar (h.mode ▸ trivial) hop.1 hop.2.1, h.finish, hop.2.2]

private theorem pushSymbol_appendOperator (hc : c ≠ ' ') (hbracket : isBracket c = false) :
    (s.appendOperator [c]).pushSymbol c = s.appendOperator [c, c] := by
  have hcontinues : (s.appendOperator [c]).continues c = true := by
    simp [continues, appendOperator, hbracket]
  have hfragments : ((s.fragments.push ⟨[c], .operator⟩).modify s.fragments.size fun f ↦
      { f with text := f.text ++ [c] }) = s.fragments.push ⟨[c, c], .operator⟩ := by
    apply Array.toList_inj.mp
    rw [Array.toList_modify, Array.toList_push, List.modify_eq_take_cons_drop (by simp)]
    simp [← Array.length_toList]
  rw [pushSymbol, if_pos hcontinues]
  simp [appendOperator, hc, hfragments]

private theorem foldl_symbol (h : s.Rests fs) (hlast : ∀ c, c ≠ ' ' → s.continues c = false)
    (hword : (word, symbol) ∈ wordOperators) : symbol.foldl step s = s.appendOperator symbol := by
  have hfirst {c : Char} (hc : c ∈ ['!', '|', '&']) : s.step c = s.appendOperator [c] := by
    have hne : c ≠ ':' ∧ c ≠ ' ' := by
      simp only [List.mem_cons, List.not_mem_nil, or_false] at hc
      rcases hc with rfl | rfl | rfl <;> decide
    rw [h.step_mark hc, pushSymbol_eq hne.1 (hlast c hne.2)]
  simp only [wordOperators, List.mem_cons, Prod.mk.injEq, List.not_mem_nil, or_false] at hword
  rcases hword with ⟨-, rfl⟩ | ⟨-, rfl⟩ | ⟨-, rfl⟩
  · exact hfirst (by decide)
  all_goals
    rw [List.foldl_cons, List.foldl_cons, List.foldl_nil, hfirst (by decide),
      (h.appendOperator _).step_mark (by decide)]
    exact pushSymbol_appendOperator (by decide) (by decide)

private theorem finish_foldl_word (h : s.Rests fs) (hlast : ∀ c, c ≠ ' ' → s.continues c = false)
    (hword : (word, symbol) ∈ wordOperators) :
    (word.foldl step s).finish = s.appendOperator symbol := by
  have hnot : s.pushSymbol '!' = s.appendOperator ['!'] :=
    pushSymbol_eq (by decide) (hlast '!' (by decide))
  obtain ⟨fragments, pending, mode, lastOperator, lastWord⟩ := s
  obtain ⟨rfl, rfl, -⟩ := h
  simp only [wordOperators, List.mem_cons, Prod.mk.injEq, List.not_mem_nil, or_false] at hword
  rcases hword with ⟨rfl, rfl⟩ | ⟨rfl, rfl⟩ | ⟨rfl, rfl⟩
  · exact hnot
  · rfl
  · rfl

/-- Between spaces, a word that stands for an operator and the operator lead to one state. -/
theorem foldl_wordOperator (hends : s.mode.Ends) (hword : (word, symbol) ∈ wordOperators) :
    (' ' :: word ++ [' ']).foldl step s = (' ' :: symbol ++ [' ']).foldl step s := by
  obtain ⟨fs, hrests, hlast⟩ := rests_step_space hends
  have hrests' := hrests.appendOperator symbol
  have hmode : (word.foldl step (s.step ' ')).mode.Ends := by
    have hchars : ∀ c ∈ word, Text.isQuote c = false ∧ isOperatorChar c = false := by
      simp only [wordOperators, List.mem_cons, Prod.mk.injEq, List.not_mem_nil, or_false] at hword
      rcases hword with ⟨rfl, -⟩ | ⟨rfl, -⟩ | ⟨rfl, -⟩
      all_goals
        simp only [List.forall_mem_cons, List.not_mem_nil, false_implies, implies_true]
        decide
    rw [foldl_step_word (fun c hc ↦ (hchars c hc).1) (fun c hc ↦ (hchars c hc).2) hrests.mode]
    trivial
  calc (' ' :: word ++ [' ']).foldl step s
    _ = (word.foldl step (s.step ' ')).step ' ' := List.foldl_append
    _ = (word.foldl step (s.step ' ')).finish.pushOperatorChar ' ' :=
      step_of_isOperatorChar hmode (by decide) (by decide)
    _ = ((s.step ' ').appendOperator symbol).finish.pushOperatorChar ' ' := by
      rw [finish_foldl_word hrests hlast hword, hrests'.finish]
    _ = ((s.step ' ').appendOperator symbol).step ' ' :=
      (step_of_isOperatorChar (hrests'.mode ▸ trivial) (by decide) (by decide)).symm
    _ = (symbol.foldl step (s.step ' ')).step ' ' := by rw [foldl_symbol hrests hlast hword]
    _ = (' ' :: symbol ++ [' ']).foldl step s := by rw [List.foldl_append]; rfl

/-! ### Texts without strings and regular expressions -/

private theorem mode_pushOperatorChar (s : Scanner) (c : Char) :
    (s.pushOperatorChar c).mode = s.mode := by
  unfold pushOperatorChar
  split
  · rfl
  · split <;> exact mode_pushSymbol s _

private theorem mode_foldl_step {x : List Char} (hx : ∀ c ∈ x, Text.isQuote c = false ∧ c ≠ '/')
    (hs : s.mode = .words) : (x.foldl step s).mode = .words := by
  induction x generalizing s with
  | nil => exact hs
  | cons c cs ih =>
    obtain ⟨⟨hquote, hslash⟩, hcs⟩ := List.forall_mem_cons.mp hx
    refine ih hcs ?_
    rw [step, hs]
    dsimp only
    rw [stepWords, if_neg (by simp [hquote])]
    split
    · rfl
    · rw [if_neg (by simp [hslash]), mode_pushOperatorChar]
      exact (pending_flushWord hs).2

end Scanner

/-- Behind a text without quotes and slashes, the words `and`, `or` and `not` between spaces are
scanned as `&&`, `||` and `!`: all fragments are the same, also those of whatever follows. -/
theorem Fragment.scan_operatorWord {x : List Char} (hx : ∀ c ∈ x, c ≠ '\'' ∧ c ≠ '"' ∧ c ≠ '/')
    (y : List Char) :
    scan (x ++ " and ".toList ++ y) = scan (x ++ " && ".toList ++ y) ∧
      scan (x ++ " or ".toList ++ y) = scan (x ++ " || ".toList ++ y) ∧
      scan (x ++ " not ".toList ++ y) = scan (x ++ " ! ".toList ++ y) := by
  have hends : (x.foldl Scanner.step {}).mode.Ends := by
    rw [Scanner.mode_foldl_step (fun c hc ↦ ?_) rfl]
    · trivial
    · obtain ⟨hsingle, hdouble, hslash⟩ := hx c hc
      exact ⟨by simp [Text.isQuote, hsingle, hdouble], hslash⟩
  have hfold (w : List Char) : scan (x ++ w ++ y) =
      (y.foldl Scanner.step
        (w.foldl Scanner.step (x.foldl Scanner.step {}))).finish.fragments.toList := by
    rw [scan, List.foldl_append, List.foldl_append]
  have hscan (word symbol : List Char) (hword : (word, symbol) ∈ wordOperators) :
      scan (x ++ (' ' :: word ++ [' ']) ++ y) = scan (x ++ (' ' :: symbol ++ [' ']) ++ y) := by
    rw [hfold, hfold, Scanner.foldl_wordOperator hends hword]
  exact ⟨hscan ['a', 'n', 'd'] ['&', '&'] (by decide), hscan ['o', 'r'] ['|', '|'] (by decide),
    hscan ['n', 'o', 't'] ['!'] (by decide)⟩

/-- A key of a map behind each of the words. -/
theorem Fragment.scan_operatorWord_key :
    let x := "\x7ba: b".toList
    let y := "c, d: e\x7d".toList
    (∀ c ∈ x, c ≠ '\'' ∧ c ≠ '"' ∧ c ≠ '/') ∧
      scan (x ++ " and ".toList ++ y) = scan (x ++ " && ".toList ++ y) ∧
      scan (x ++ " or ".toList ++ y) = scan (x ++ " || ".toList ++ y) ∧
      scan (x ++ " not ".toList ++ y) = scan (x ++ " ! ".toList ++ y) := by
  intro x y
  have hx : ∀ c ∈ x, c ≠ '\'' ∧ c ≠ '"' ∧ c ≠ '/' := by simp [x]
  exact ⟨hx, scan_operatorWord hx y⟩

end Stencil
