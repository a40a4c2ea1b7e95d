import Stencil.Proofs.Scanning.Invariant
import Stencil.Proofs.Scanning.Runs

/-!
# The states of a scan

All along a scan, also in the middle of a step, the last operator that is no space and the last word
are where the scan says that they are, no fragment is empty, an operator is one bracket or a run of
another operator character, and the characters that end a word stand in none. Main statement:
`Scanner.Reachable.consistent`.
-/

namespace Stencil

/-! ### What fragments are made of -/

/-- Whether the character may stand in a word. -/
def IsLetter (c : Char) : Prop := isOperatorChar c = false ∧ Text.isQuote c = false

namespace Fragment

/-- Whether a fragment is made of the characters that its kind stands for. -/
structure WellFormed (f : Fragment) : Prop where
  /-- It has a character. -/
  nonempty : f.text ≠ []
  /-- An operator is a bracket or a run of another operator character. -/
  operator : f.kind = .operator → (∃ c, isBracket c = true ∧ f.text = [c]) ∨
    ∃ c n, isOperatorChar c = true ∧ isBracket c = false ∧ f.text = List.replicate (n + 1) c
  /-- Paths, literals and keys are words. -/
  word : f.kind ∈ [.path, .literal, .objectKey] → ∀ c ∈ f.text, IsLetter c

private theorem WellFormed.becomes {f g : Fragment} (h : f.Becomes g) (hf : f.WellFormed) :
    g.WellFormed := by
  refine ⟨?_, fun hkind ↦ ?_, fun hkind ↦ ?_⟩ <;> rw [h.text]
  · exact hf.nonempty
  · exact hf.operator (h.kind_eq_operator.mp hkind)
  · rcases h.kind with hsame | ⟨hpath, -⟩
    · exact hf.word (hsame ▸ hkind)
    · exact hf.word (by simp [hpath])

private theorem wellFormed_of_closed {text : List Char} {kind : FragmentKind}
    (hkind : kind ∈ [FragmentKind.str, .other, .regex]) (htext : text ≠ []) :
    WellFormed ⟨text, kind⟩ := by
  simp only [List.mem_cons, List.not_mem_nil, or_false] at hkind
  rcases hkind with rfl | rfl | rfl <;> exact ⟨htext, nofun, by simp⟩

private theorem wellFormed_word {text : List Char} (hne : text ≠ [])
    (htext : ∀ c ∈ text, IsLetter c) : WellFormed ⟨text, classify text⟩ :=
  ⟨hne, fun hkind ↦ absurd hkind (classify_ne (by decide) text), fun _ ↦ htext⟩

private theorem wellFormed_operator {c : Char} (hc : isOperatorChar c = true) :
    WellFormed ⟨[c], .operator⟩ := by
  refine ⟨List.cons_ne_nil c [], fun _ ↦ ?_, by simp⟩
  cases hbracket : isBracket c with
  | true => exact .inl ⟨c, hbracket, rfl⟩
  | false => exact .inr ⟨c, 0, hc, hbracket, rfl⟩

private theorem WellFormed.longer {text : List Char} {c : Char} (hc : isBracket c = false)
    (htext : text.all (· == c) = true) (h : WellFormed ⟨text, .operator⟩) :
    WellFormed ⟨text ++ [c], .operator⟩ := by
  refine ⟨by simp, fun _ ↦ ?_, by simp⟩
  rcases h.operator rfl with ⟨d, hd, rfl⟩ | ⟨d, n, hd, -, rfl⟩
  · obtain rfl : d = c := by simpa using htext
    rw [hc] at hd
    cases hd
  · obtain rfl : d = c := by simpa using htext
    exact .inr ⟨d, n + 1, hd, hc, List.replicate_succ'.symm⟩

end Fragment

namespace Scanner

/-- Whether the text may be pending: letters in a word, and any characters elsewhere. -/
def MayBePending : ScanMode → List Char → Prop
  | .words, text => ∀ c ∈ text, IsLetter c
  | _, text => text ≠ []

private theorem mayBePending_append {mode : ScanMode} (text : List Char) (c : Char)
    (hmode : mode ≠ .words) : MayBePending mode (text ++ [c]) := by
  cases mode with
  | words => exact absurd rfl hmode
  | _ => exact List.append_ne_nil_of_right_ne_nil text (List.cons_ne_nil c [])

/-- Well-formed fragments are completed from what may be pending. -/
theorem invariant_wellFormed : Invariant Fragment.WellFormed MayBePending where
  nothing := List.forall_mem_nil _
  letter := fun _ _ hoperator hquote htext ↦
    List.forall_mem_append.mpr ⟨htext, List.forall_mem_singleton.mpr ⟨hoperator, hquote⟩⟩
  quote := fun q _ ↦ List.cons_ne_nil q []
  inString := fun q escaped text c _ ↦ by
    apply mayBePending_append
    unfold ScanMode.inString
    repeat' split
    all_goals exact nofun
  doubled := fun q text _ ↦ mayBePending_append text q (by simp)
  slash := List.cons_ne_nil '/' []
  inRegex := fun escaped text c _ ↦ by
    apply mayBePending_append
    unfold ScanMode.inRegex
    split <;> exact nofun
  flag := fun text c _ _ ↦ mayBePending_append text c (by simp)
  word := fun _ hne htext ↦ Fragment.wellFormed_word hne htext
  string := fun _ _ htext ↦ Fragment.wellFormed_of_closed (by simp) htext
  openString := fun _ _ _ htext ↦ Fragment.wellFormed_of_closed (by simp) htext
  regex := fun _ htext ↦ Fragment.wellFormed_of_closed (by simp) htext
  openRegex := fun _ _ htext ↦ Fragment.wellFormed_of_closed (by simp) htext
  operator := fun _ hc ↦ Fragment.wellFormed_operator hc
  wordOperator := by
    -- Two operator characters of the same, as if one had been scanned behind the other.
    have hrun {c : Char} (hc : isOperatorChar c = true) (hbracket : isBracket c = false) :
        Fragment.WellFormed ⟨[c] ++ [c], .operator⟩ :=
      (Fragment.wellFormed_operator hc).longer hbracket (by simp)
    simp only [List.forall_mem_cons, List.not_mem_nil, false_implies, implies_true, and_true]
    exact ⟨hrun (by decide) (by decide), hrun (by decide) (by decide)⟩
  longer := fun _ _ hbracket _ htext h ↦ h.longer hbracket htext
  becomes := fun _ _ ↦ Fragment.WellFormed.becomes

/-! ### The states -/

/-- The states of scans: between two characters of a source, at its end, and in the middle of a
step, where it has taken away the pending word, has completed what is pending as the end does, or
has made the last word a key. -/
inductive Reachable : Scanner → Prop where
  /-- Before anything is scanned. -/
  | start : Reachable {}
  /-- Behind a character. -/
  | step {s : Scanner} (h : Reachable s) (c : Char) : Reachable (s.step c)
  /-- Without the pending word. -/
  | clear {s : Scanner} (h : Reachable s) (hmode : s.mode = .words) :
    Reachable { s with pending := [] }
  /-- When what is pending has been completed. -/
  | finish {s : Scanner} (h : Reachable s) : Reachable s.finish
  /-- When the last word has been marked. -/
  | markKey {s : Scanner} (h : Reachable s) : Reachable s.markKey

/-- What is known in every state of a scan. -/
structure Consistent (s : Scanner) : Prop where
  /-- The last operator that is no space is known. -/
  lastOperator : Fragment.IsLast Fragment.isVisible s.fragments.toList s.lastOperator
  /-- The last fragment that is no operator is known. -/
  lastWord : Fragment.IsLast Fragment.isWord s.fragments.toList s.lastWord
  /-- What is known by its index is there. -/
  inRange : ∀ i, s.lastOperator = some i ∨ s.lastWord = some i → i < s.fragments.size
  /-- Every fragment is well formed. -/
  wellFormed : ∀ f ∈ s.fragments.toList, f.WellFormed

private theorem Reachable.tidy {s : Scanner} (h : s.Reachable) : s.Tidy := by
  induction h with
  | start => exact tidy_empty
  | step _ c ih => exact ih.step c
  | clear _ hmode ih => exact ih.clear hmode
  | finish _ ih => exact ih.finish
  | markKey _ ih => exact ih.markKey

private theorem Reachable.holds {s : Scanner} (h : s.Reachable) :
    s.Holds Fragment.WellFormed MayBePending := by
  induction h with
  | start => exact invariant_wellFormed.empty
  | step _ c ih => exact invariant_wellFormed.step ih c
  | clear _ hmode ih =>
    refine ⟨ih.fragments, ?_⟩
    rw [hmode]
    exact invariant_wellFormed.nothing
  | finish _ ih => exact invariant_wellFormed.finish ih
  | markKey _ ih => exact invariant_wellFormed.markKey ih

/-- The states between the characters of a source are reachable. -/
theorem reachable_foldl (source : List Char) : (source.foldl Scanner.step {}).Reachable := by
  have hfoldl (s : Scanner) (h : s.Reachable) : (source.foldl Scanner.step s).Reachable := by
    induction source generalizing s with
    | nil => exact h
    | cons c cs ih => exact ih _ (h.step c)
  exact hfoldl {} .start

/-- In every state of a scan the index of the last operator that is no space is known, if there is
one, and that of the last fragment that is no operator, so that both are in range. No fragment is
empty, every operator is one bracket or a run of another operator character, and in paths, literals
and keys there is no operator character and no quote. -/
theorem Reachable.consistent {s : Scanner} (h : s.Reachable) : s.Consistent := by
  have htidy := h.tidy
  refine ⟨htidy.lastOperator, htidy.lastWord, fun i hi ↦ ?_, h.holds.fragments⟩
  have hrange {p : Fragment → Bool} (hlast : Fragment.IsLast p s.fragments.toList (some i)) :
      i < s.fragments.size := by
    obtain ⟨before, f, after, hfs, rfl, -, -⟩ := hlast
    rw [← Array.length_toList, hfs, List.length_append, List.length_cons]
    omega
  rcases hi with hi | hi
  · exact hrange (hi ▸ htidy.lastOperator)
  · exact hrange (hi ▸ htidy.lastWord)

/-- Where the word in front of a colon has ended and become a key: the brace is the last operator
but for spaces, and the key is the last word. -/
theorem Reachable.consistent_key :
    let s := ("\x7b key ".toList.foldl Scanner.step {}).finish.markKey
    s.Reachable ∧ s.fragments.toList = [⟨['\x7b'], .operator⟩, ⟨[' '], .operator⟩,
        ⟨"key".toList, .objectKey⟩, ⟨[' '], .operator⟩] ∧
      s.lastOperator = some 0 ∧ s.lastWord = some 2 ∧ s.Consistent := by
  intro s
  have h : s.Reachable := (reachable_foldl _).finish.markKey
  exact ⟨h, by decide, by decide, by decide, h.consistent⟩

end Scanner

end Stencil
