import Stencil.Proofs.Scanning

/-!
# Invariants of scanning

What holds of every fragment that a scan completes is shown together with what holds of the text
that is pending in each mode: whatever is completed comes from there, or is an operator.
-/

namespace Stencil

/-- The mode behind a character of a string. -/
def ScanMode.inString (q : Char) (escaped : Bool) (c : Char) : ScanMode :=
  if escaped then .string q false
  else if c == '\\' then .string q true
  else if c == q then .afterQuote q
  else .string q false

/-- The mode behind a character of a regular expression. -/
def ScanMode.inRegex (escaped : Bool) (c : Char) : ScanMode :=
  if c == '/' && !escaped then .flags else .regex (c == '\\' && !escaped)

namespace Scanner

/-- Whether a property holds of all complete fragments, and one of the mode and what is pending. -/
structure Holds (P : Fragment → Prop) (Q : ScanMode → List Char → Prop) (s : Scanner) : Prop where
  /-- The first property holds of all complete fragments. -/
  fragments : ∀ f ∈ s.fragments.toList, P f
  /-- The second property holds of the mode and the pending text. -/
  pending : Q s.mode s.pending.reverse

/-- Whether a property of fragments and one of modes and pending texts hold all along a scan. -/
structure Invariant (P : Fragment → Prop) (Q : ScanMode → List Char → Prop) : Prop where
  /-- Between fragments nothing is pending. -/
  nothing : Q .words []
  /-- A word goes on. -/
  letter : ∀ text c, isOperatorChar c = false → Text.isQuote c = false → Q .words text →
    Q .words (text ++ [c])
  /-- A string begins. -/
  quote : ∀ q, Text.isQuote q = true → Q (.string q false) [q]
  /-- A string goes on. -/
  inString : ∀ q escaped text c, Q (.string q escaped) text →
    Q (.inString q escaped c) (text ++ [c])
  /-- A string goes on behind a quote that is doubled. -/
  doubled : ∀ q text, Q (.afterQuote q) text → Q (.string q false) (text ++ [q])
  /-- A regular expression begins. -/
  slash : Q (.regex false) ['/']
  /-- A regular expression goes on. -/
  inRegex : ∀ escaped text c, Q (.regex escaped) text → Q (.inRegex escaped c) (text ++ [c])
  /-- The flags of a regular expression go on. -/
  flag : ∀ text c, isFlag c = true → Q .flags text → Q .flags (text ++ [c])
  /-- A word is completed. -/
  word : ∀ text, text ≠ [] → Q .words text → P ⟨text, classify text⟩
  /-- A string is completed. -/
  string : ∀ q text, Q (.afterQuote q) text → P ⟨text, .str⟩
  /-- A string is left without its end. -/
  openString : ∀ q escaped text, Q (.string q escaped) text → P ⟨text, .other⟩
  /-- A regular expression is completed. -/
  regex : ∀ text, Q .flags text → P ⟨text, .regex⟩
  /-- A regular expression is left without its end. -/
  openRegex : ∀ escaped text, Q (.regex escaped) text → P ⟨text, .regex⟩
  /-- An operator begins. -/
  operator : ∀ c, isOperatorChar c = true → P ⟨[c], .operator⟩
  /-- A word stands for an operator. -/
  wordOperator : ∀ op ∈ [['|', '|'], ['&', '&']], P ⟨op, .operator⟩
  /-- An operator becomes longer. -/
  longer : ∀ text c, isBracket c = false → isOperatorChar c = true → text.all (· == c) = true →
    P ⟨text, .operator⟩ → P ⟨text ++ [c], .operator⟩
  /-- A path becomes a key. -/
  becomes : ∀ f g, f.Becomes g → P f → P g

namespace Invariant

variable {P : Fragment → Prop} {Q : ScanMode → List Char → Prop} {s : Scanner}

/-- Both properties hold before anything is scanned. -/
theorem empty (hI : Invariant P Q) : Holds P Q {} := ⟨List.forall_mem_nil _, hI.nothing⟩

private theorem forall_append (hs : ∀ f ∈ s.fragments.toList, P f) {f : Fragment} (hf : P f) :
    ∀ g ∈ s.fragments.toList ++ [f], P g :=
  List.forall_mem_append.mpr ⟨hs, List.forall_mem_singleton.mpr hf⟩

private theorem pushWord (hI : Invariant P Q) (hs : ∀ f ∈ s.fragments.toList, P f)
    {text : List Char} {kind : FragmentKind} (hf : P ⟨text, kind⟩) :
    (s.pushWord text kind).Holds P Q := by
  refine ⟨?_, hI.nothing⟩
  rw [toList_pushWord]
  exact forall_append hs hf

/-- Both properties stay when the last word is marked. -/
theorem markKey (hI : Invariant P Q) (hs : s.Holds P Q) : s.markKey.Holds P Q := by
  refine ⟨s.marked_markKey.forall_mem hI.becomes hs.fragments, ?_⟩
  rw [mode_markKey, pending_markKey]
  exact hs.pending

private theorem pushSymbol (hI : Invariant P Q) (hs : s.Holds P Q) {c : Char}
    (hc : isOperatorChar c = true) : (s.pushSymbol c).Holds P Q := by
  refine ⟨?_, by rw [mode_pushSymbol, pending_pushSymbol]; exact hs.pending⟩
  cases hlast : s.continues c with
  | true =>
    obtain ⟨before, text, hfragments, htext, hbracket, hpush⟩ :=
      toList_pushSymbol_of_continues hlast
    have hall := hs.fragments
    rw [hfragments, List.forall_mem_append, List.forall_mem_singleton] at hall
    rw [hpush, List.forall_mem_append, List.forall_mem_singleton]
    exact ⟨hall.1, hI.longer text c hbracket hc htext hall.2⟩
  | false =>
    obtain ⟨gs, hgs, hpush⟩ := toList_pushSymbol_of_not_continues hlast
    rw [hpush, List.forall_mem_append, List.forall_mem_singleton]
    exact ⟨hgs.forall_mem hI.becomes hs.fragments, hI.operator c hc⟩

private theorem pushOperatorChar (hI : Invariant P Q) (hs : s.Holds P Q) {c : Char}
    (hc : isOperatorChar c = true) : (s.pushOperatorChar c).Holds P Q := by
  unfold Scanner.pushOperatorChar
  split
  · exact hs
  · split
    · exact hI.pushSymbol hs (by decide)
    · exact hI.pushSymbol hs hc

/-- Both properties hold when a word has ended. -/
theorem flushWord (hI : Invariant P Q) (hs : s.Holds P Q) (hmode : s.mode = .words) :
    s.flushWord.Holds P Q := by
  have hempty : ({ s with pending := [] } : Scanner).Holds P Q := by
    refine ⟨hs.fragments, ?_⟩
    rw [hmode]
    exact hI.nothing
  have hoperator {op : List Char} (hop : op ∈ [['|', '|'], ['&', '&']]) :
      ({ s with pending := [] }.appendOperator op).Holds P Q := by
    refine ⟨?_, hempty.pending⟩
    rw [toList_appendOperator]
    exact forall_append hs.fragments (hI.wordOperator op hop)
  have hword := hs.pending
  rw [hmode] at hword
  unfold Scanner.flushWord
  dsimp only
  split
  · exact hs
  · next hne =>
    split
    · exact hI.pushSymbol hempty (by decide)
    · split
      · exact hoperator (by simp)
      · split
        · exact hoperator (by simp)
        · exact hI.pushWord hs.fragments (hI.word _ (by simpa using hne) hword)

private theorem extend (hs : s.Holds P Q) {c : Char} {mode : ScanMode}
    (hmode : Q mode (s.pending.reverse ++ [c])) : (s.extend c mode).Holds P Q := by
  refine ⟨hs.fragments, ?_⟩
  change Q mode (c :: s.pending).reverse
  rw [List.reverse_cons]
  exact hmode

private theorem stepWords (hI : Invariant P Q) (hs : s.Holds P Q) (hmode : s.mode = .words)
    (c : Char) : (s.stepWords c).Holds P Q := by
  have hflush := hI.flushWord hs hmode
  unfold Scanner.stepWords
  split
  · next hquote =>
    refine extend hflush ?_
    rw [(pending_flushWord hmode).1]
    exact hI.quote c hquote
  · next hquote =>
    split
    · next hletter =>
      have hword := hs.pending
      rw [hmode] at hword
      exact extend hs (hI.letter _ c (by simpa using hletter) (by simpa using hquote) hword)
    · next hoperator =>
      split
      · exact ⟨hs.fragments, hI.slash⟩
      · exact hI.pushOperatorChar hflush (by simpa using hoperator)

/-- Both properties hold when the source has ended. -/
theorem finish (hI : Invariant P Q) (hs : s.Holds P Q) : s.finish.Holds P Q := by
  have hpending := hs.pending
  unfold Scanner.finish
  split
  · next hmode => exact hI.flushWord hs hmode
  · next q escaped hmode =>
    rw [hmode] at hpending
    exact hI.pushWord hs.fragments (hI.openString q escaped _ hpending)
  · next q hmode =>
    rw [hmode] at hpending
    exact hI.pushWord hs.fragments (hI.string q _ hpending)
  · next escaped hmode =>
    rw [hmode] at hpending
    exact hI.pushWord hs.fragments (hI.openRegex escaped _ hpending)
  · next hmode =>
    rw [hmode] at hpending
    exact hI.pushWord hs.fragments (hI.regex _ hpending)

/-- Both properties stay when a character is scanned. -/
theorem step (hI : Invariant P Q) (hs : s.Holds P Q) (c : Char) : (s.step c).Holds P Q := by
  have hpending := hs.pending
  -- What the next character ends is completed as the end of the source completes it.
  have hfinish := hI.finish hs
  unfold Scanner.step
  unfold Scanner.finish at hfinish
  split
  · next hmode => exact hI.stepWords hs hmode c
  · next q escaped hmode =>
    rw [hmode] at hpending
    exact extend hs (hI.inString q escaped _ c hpending)
  · next q hmode =>
    rw [hmode] at hpending hfinish
    split
    · next hc =>
      rw [eq_of_beq hc]
      exact extend hs (hI.doubled q _ hpending)
    · exact hI.stepWords hfinish rfl c
  · next escaped hmode =>
    rw [hmode] at hpending
    exact extend hs (hI.inRegex escaped _ c hpending)
  · next hmode =>
    rw [hmode] at hpending hfinish
    split
    · next hc => exact extend hs (hI.flag _ c hc hpending)
    · exact hI.stepWords hfinish rfl c

/-- Both properties stay when characters are scanned. -/
theorem foldl (hI : Invariant P Q) (hs : s.Holds P Q) (cs : List Char) :
    (cs.foldl Scanner.step s).Holds P Q := by
  induction cs generalizing s with
  | nil => exact hs
  | cons c cs ih => exact ih (hI.step hs c)

/-- The first property holds of all fragments of a source. -/
theorem scan (hI : Invariant P Q) (source : List Char) : ∀ f ∈ Fragment.scan source, P f :=
  (hI.finish (hI.foldl hI.empty source)).fragments

end Invariant

end Scanner

end Stencil
