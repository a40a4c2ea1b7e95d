import Stencil.Proofs.Grammar.Colons
import Stencil.Proofs.Names

/-!
# Sources of expressions

A source that is an expression on its own is one wherever it stands: it is scanned into the same
fragments behind an equals sign, a comma, a colon or an opening bracket, and what follows it begins
a fragment of its own. Only a regular expression that is left open could take in what follows.
-/

namespace Stencil

/-! ### Texts that are scanned up to their end -/

/-- Whether a regular expression is open at the end of the source. -/
def Text.LeavesRegexOpen (source : List Char) : Prop :=
  ∃ escaped, (source.foldl Scanner.step {}).mode = .regex escaped

instance (source : List Char) : Decidable (Text.LeavesRegexOpen source) :=
  decidable_of_iff
    ((source.foldl Scanner.step {}).mode = .regex true ∨
      (source.foldl Scanner.step {}).mode = .regex false)
    ⟨fun h ↦ h.elim (⟨true, ·⟩) (⟨false, ·⟩), fun
      | ⟨true, h⟩ => .inl h
      | ⟨false, h⟩ => .inr h⟩

/-- Whether nothing is open that takes in all characters up to its end. -/
def ScanMode.Ends : ScanMode → Prop
  | .words | .flags => True
  | .afterQuote q => Text.isQuote q = true
  | .string _ _ | .regex _ => False

namespace Scanner

/-- Operator characters that are fragments of their own where they make none longer. -/
def separators : List Char := [',', ' ', '|', '=', '(', ')', '[', ']', '\x7b', '\x7d']

/-- Operator characters that an expression may stand behind. -/
def openers : List Char := ['=', ',', ':', '(', '[', '\x7b']

variable {s : Scanner} {c : Char}

/-- At the end of a text a scan stands between fragments. -/
theorem rests_finish (s : Scanner) : s.finish.Rests s.finish.fragments.toList := by
  have hclose (kind : FragmentKind) : (s.close kind).Rests (s.close kind).fragments.toList :=
    ⟨rfl, rfl, rfl⟩
  unfold Scanner.finish
  split
  · next hmode => exact ⟨(pending_flushWord hmode).2, (pending_flushWord hmode).1, rfl⟩
  all_goals exact hclose _

/-- Between fragments nothing is left to be done. -/
theorem Rests.finish {fs : List Fragment} (h : s.Rests fs) : s.finish = s := by
  rw [Scanner.finish, h.mode]
  exact flushWord_of_pending h.pending

private theorem isQuote_of_isOperatorChar (hc : isOperatorChar c = true) :
    Text.isQuote c = false := by
  rw [Bool.eq_false_iff]
  intro hquote
  simp only [Text.isQuote, Bool.or_eq_true, beq_iff_eq] at hquote
  rcases hquote with rfl | rfl <;> cases hc

private theorem isFlag_of_isOperatorChar (hc : isOperatorChar c = true) : isFlag c = false := by
  rw [Bool.eq_false_iff]
  intro hflag
  simp only [isFlag, Bool.or_eq_true, beq_iff_eq] at hflag
  rcases hflag with ((rfl | rfl) | rfl) | rfl <;> cases hc

private theorem step_of_ends (hends : s.mode.Ends) (hquote : Text.isQuote c = false)
    (hflag : isFlag c = false) :
    s.mode = .words ∧ s.step c = s.stepWords c ∨
      s.finish.pending = [] ∧ s.step c = s.finish.stepWords c := by
  unfold Scanner.step Scanner.finish
  cases hmode : s.mode with
  | words => exact .inl ⟨rfl, rfl⟩
  | string q escaped => simp [hmode, ScanMode.Ends] at hends
  | afterQuote q =>
    have hne : (c == q) = false := by
      rw [Bool.eq_false_iff]
      intro heq
      simp_all [ScanMode.Ends]
    simp only [hne, Bool.false_eq_true, if_false]
    exact .inr ⟨rfl, trivial⟩
  | regex escaped => simp [hmode, ScanMode.Ends] at hends
  | flags =>
    simp only [hflag, Bool.false_eq_true, if_false]
    exact .inr ⟨rfl, trivial⟩

private theorem stepWords_of_isOperatorChar (hc : isOperatorChar c = true) (hslash : c ≠ '/') :
    s.stepWords c = s.flushWord.pushOperatorChar c := by
  simp [Scanner.stepWords, isQuote_of_isOperatorChar hc, hc, hslash]

/-- An operator character ends what is pending as the end of the text does. -/
theorem step_of_isOperatorChar (hends : s.mode.Ends) (hc : isOperatorChar c = true)
    (hslash : c ≠ '/') : s.step c = s.finish.pushOperatorChar c := by
  rcases step_of_ends hends (isQuote_of_isOperatorChar hc) (isFlag_of_isOperatorChar hc) with
    ⟨hmode, hstep⟩ | ⟨hpending, hstep⟩
  · rw [hstep, stepWords_of_isOperatorChar hc hslash, Scanner.finish, hmode]
  · rw [hstep, stepWords_of_isOperatorChar hc hslash, flushWord_of_pending hpending]

/-- An operator character that makes no fragment longer, and is no colon, is one by itself. -/
theorem Rests.step_symbol {fs : List Fragment} (h : s.finish.Rests fs) (hends : s.mode.Ends)
    (hc : c ∈ separators) (hlast : s.finish.continues c = false) :
    (s.step c).Rests (fs ++ [.ofOperator c]) := by
  have hop : isOperatorChar c = true ∧ c ≠ '/' ∧ c ≠ ':' ∧
      s.finish.pushOperatorChar c = s.finish.pushSymbol c := by
    simp only [separators, List.mem_cons, List.not_mem_nil, or_false] at hc
    rcases hc with rfl | rfl | rfl | rfl | rfl | rfl | rfl | rfl | rfl | rfl <;>
      exact ⟨by decide, by decide, by decide, rfl⟩
  rw [step_of_isOperatorChar hends hop.1 hop.2.1, hop.2.2.2, pushSymbol_eq hop.2.2.1 hlast]
  exact h.appendOperator [c]

/-- An operator character is a fragment of its own behind a fragment of others. -/
theorem Rests.step_operator {fs : List Fragment} {f : Fragment} (h : s.finish.Rests (fs ++ [f]))
    (hends : s.mode.Ends) (hc : c ∈ separators)
    (hf : (f.kind == .operator && f.text.all (· == c)) = false) :
    (s.step c).Rests (fs ++ [f] ++ [.ofOperator c]) := by
  refine h.step_symbol hends hc ?_
  rw [h.continues]
  rw [Bool.and_eq_false_iff] at hf
  rcases hf with hf | hf <;> simp [hf]

/-- The same between fragments, where nothing is open. -/
theorem Rests.step_between {fs : List Fragment} {f : Fragment} (h : s.Rests (fs ++ [f]))
    (hc : c ∈ separators)
    (hf : (f.kind == .operator && f.text.all (· == c)) = false) :
    (s.step c).Rests (fs ++ [f] ++ [.ofOperator c]) :=
  Rests.step_operator (h.finish.symm ▸ h) (h.mode ▸ trivial) hc hf

/-- Any other character belongs to a word. -/
theorem step_of_not_isOperatorChar (hends : s.mode.Ends) (hc : isOperatorChar c = false)
    (hquote : Text.isQuote c = false) (hflag : isFlag c = false) :
    (s.step c).mode = .words ∧ ∃ cs, (s.step c).pending = c :: cs := by
  have hstep (t : Scanner) : t.stepWords c = t.extend c .words := by
    simp [Scanner.stepWords, hquote, hc]
  rcases step_of_ends hends hquote hflag with ⟨-, h⟩ | ⟨-, h⟩ <;> rw [h, hstep]
  · exact ⟨rfl, _, rfl⟩
  · exact ⟨rfl, _, rfl⟩

end Scanner

/-! ### Strings without an end -/

private theorem ofDottedNames_cons {q : Char} (hq : Text.isQuote q = true) (cs : List Char) :
    ∃ error, Token.ofDottedNames (q :: cs) = .error error := by
  simp only [Text.isQuote, Bool.or_eq_true, beq_iff_eq] at hq
  rcases hq with rfl | rfl <;> exact ⟨_, rfl⟩

/-- A string without its end has no token, so that nothing is open where all words have some, unless
it is a regular expression. -/
theorem Scanner.ends_of_tokens {source : List Char} (hregex : ¬Text.LeavesRegexOpen source)
    (h : ∀ f ∈ Fragment.scan source, f.kind = .other → ∃ ts, Token.ofFragment f = .ok ts) :
    (source.foldl Scanner.step {}).mode.Ends := by
  have hquoted := (Scanner.tidy_foldl source).quoted
  rw [Fragment.scan, Scanner.finish] at h
  rw [Text.LeavesRegexOpen] at hregex
  generalize source.foldl Scanner.step {} = s at h hregex hquoted
  cases hmode : s.mode with
  | words => trivial
  | flags => trivial
  | regex escaped => exact absurd ⟨escaped, hmode⟩ hregex
  | afterQuote q =>
    rw [hmode] at hquoted
    exact hquoted.1
  | string q escaped =>
    rw [hmode] at h hquoted
    obtain ⟨hq, hlast⟩ := hquoted
    obtain ⟨cs, hpending⟩ := List.getLast?_eq_some_iff.mp hlast
    dsimp only at h
    rw [Scanner.close, Scanner.toList_pushWord, hpending, List.reverse_append] at h
    obtain ⟨here, hhere⟩ := h _ List.mem_concat_self rfl
    obtain ⟨error, herror⟩ := ofDottedNames_cons hq cs.reverse
    rw [Token.ofFragment] at hhere
    dsimp only at hhere
    rw [List.reverse_singleton, List.singleton_append, herror] at hhere
    cases hhere

/-! ### Expressions -/

/-- Whether the source is an expression on its own. -/
def Expr.IsReadFrom (e : Expr) (source : List Char) : Prop :=
  Expr.ofFragments (Fragment.scan source) = .ok e

namespace Expr.IsReadFrom

variable {e : Expr} {source : List Char}

/-- What makes up the tokens of an expression is an expression. -/
theorem of_tokens (fs : List Fragment) (ts : List Token) (hscan : Fragment.scan source = fs)
    (htokens : Token.ofFragments fs = .ok ts) (he : Expr.ofTokens ts = .ok e) :
    e.IsReadFrom source := by
  rw [Expr.IsReadFrom, hscan, Expr.ofFragments, htokens]
  exact he

/-- An expression does not touch an opener in front of it. -/
theorem admits (h : e.IsReadFrom source) {ctx : Scanner} {fs : List Fragment} {c : Char}
    (hctx : ctx.Rests (fs ++ [.ofOperator c])) (hc : c ∈ Scanner.openers) :
    ctx.Admits (Fragment.scan source) := by
  refine ⟨fun op hop hbegins ↦ ?_, fun hcolon ↦ absurd hcolon (Expr.not_hasStrayColon h)⟩
  rw [hctx.continues] at hop
  simp only [Fragment.ofOperator, Bool.and_eq_true, Bool.not_eq_true', List.all_cons, List.all_nil,
    Bool.and_true, beq_iff_eq, true_and] at hop
  obtain ⟨hbracket, rfl⟩ := hop
  obtain ⟨f, hscan, hkind, htext⟩ := hbegins
  obtain ⟨rest, hscan⟩ := List.head?_eq_some_iff.mp hscan
  obtain ⟨cs, htext⟩ := List.head?_eq_some_iff.mp htext
  rw [Expr.IsReadFrom, hscan] at h
  have hhead := head_of_ofFragments h hkind htext
  simp only [Scanner.openers, List.mem_cons, List.not_mem_nil, or_false] at hc
  rcases hc with rfl | rfl | rfl | rfl | rfl | rfl <;> revert hbracket hhead <;> decide

/-- The strings in an expression end. -/
theorem ends (h : e.IsReadFrom source) (hregex : ¬Text.LeavesRegexOpen source) :
    (source.foldl Scanner.step {}).mode.Ends := by
  refine Scanner.ends_of_tokens hregex fun f hf hkind ↦ ?_
  obtain ⟨ts, hts, -⟩ := exists_tokens h
  obtain ⟨here, hhere, -⟩ := Token.exists_of_mem hts hf (by simp [Token.isJoined, hkind])
  exact ⟨here, hhere⟩

/-- No operator ends an expression. -/
theorem exists_last (h : e.IsReadFrom source) :
    ∃ before f, Fragment.scan source = before ++ [f] ∧ Token.isJoined f = false := by
  rcases List.eq_nil_or_concat' (Fragment.scan source) with hscan | ⟨before, f, hscan⟩
  · have hspaces := Expr.all_isSpace_eq_false h
    rw [hscan] at hspaces
    cases hspaces
  · rw [Expr.IsReadFrom, hscan] at h
    exact ⟨before, f, hscan, Expr.not_isJoined_of_ofFragments h⟩

/-- No operator but a bracket or a space makes the last fragment of an expression longer. -/
theorem exists_last_apart (h : e.IsReadFrom source) {c : Char} (hc : c ≠ ' ')
    (hbracket : isBracket c = false) :
    ∃ before f, Fragment.scan source = before ++ [f] ∧
      (f.kind == .operator && f.text.all (· == c)) = false := by
  obtain ⟨before, f, hscan, hjoined⟩ := h.exists_last
  refine ⟨before, f, hscan, ?_⟩
  rw [Bool.eq_false_iff]
  intro hrun
  rw [Bool.and_eq_true, beq_iff_eq] at hrun
  obtain ⟨hkind, htext⟩ := hrun
  obtain ⟨d, n, hd⟩ := Fragment.isRun_scan source f (by simp [hscan]) hkind
  obtain rfl : d = c := by
    rw [hd] at htext
    simpa using htext
  have hspace : f.isSpace = false := by simp [Fragment.isSpace, hkind, hd, hc]
  cases hb : Token.bracket? f.text with
  | none => simp [Token.isJoined, hkind, hspace, hb] at hjoined
  | some t =>
    obtain ⟨b, hb, hb'⟩ := Token.exists_of_bracket? hb
    rw [hd, List.replicate_succ] at hb
    rw [(List.cons.inj hb).1, hb'] at hbracket
    cases hbracket

end Expr.IsReadFrom

/-! ### Names and assignments -/

namespace Scanner.Rests

variable {t : Scanner} {fs : List Fragment} {name : List Char}

/-- A name is a fragment of its own. -/
theorem foldl_name (h : t.Rests fs) (hname : Text.IsName name) :
    (name.foldl Scanner.step t).mode = .words ∧
      (name.foldl Scanner.step t).finish = t.pushWord name (classify name) := by
  rw [foldl_step_word (fun c hc ↦ isQuote_of_isNameChar (hname.chars c hc))
    (fun c hc ↦ isOperatorChar_of_isNameChar (hname.chars c hc)) h.mode, h.pending]
  refine ⟨rfl, flushWord_of_word ?_ ?_ hname.notOperator⟩
  · exact List.append_nil _
  · obtain ⟨c, cs, hcons, -⟩ := hname.first
    simp [hcons]

/-- An expression is scanned behind one of the openers as it is on its own. -/
theorem foldl_source {c : Char} (h : t.Rests (fs ++ [.ofOperator c])) (hc : c ∈ openers)
    {e : Expr} {source : List Char} (he : e.IsReadFrom source) :
    (source.foldl Scanner.step t).mode = (source.foldl Scanner.step {}).mode ∧
      (source.foldl Scanner.step t).finish.Rests
        (fs ++ [.ofOperator c] ++ Fragment.scan source) := by
  obtain ⟨hmode, hfragments⟩ := h.foldl_admits (he.admits h hc)
  have hrests := rests_finish (source.foldl Scanner.step t)
  rw [hfragments] at hrests
  exact ⟨hmode, hrests⟩

/-- An expression that is assigned to a name is scanned behind it as it is on its own. -/
theorem foldl_assignment (h : t.Rests fs) (hname : Text.IsName name) {e : Expr}
    {source : List Char} (he : e.IsReadFrom source) :
    ((name ++ '=' :: source).foldl Scanner.step t).mode = (source.foldl Scanner.step {}).mode ∧
      ((name ++ '=' :: source).foldl Scanner.step t).finish.Rests
        (fs ++ ⟨name, classify name⟩ :: .ofOperator '=' :: Fragment.scan source) := by
  obtain ⟨hmode, hfinish⟩ := h.foldl_name hname
  have hkind : classify name ≠ .operator := classify_ne (by decide) name
  have hrests : (name.foldl Scanner.step t).finish.Rests (fs ++ [⟨name, classify name⟩]) := by
    rw [hfinish]
    exact Rests.pushWord h.fragments name _
  have hassign := hrests.step_operator (c := '=') (by rw [hmode]; trivial) (by decide)
    (by simp [hkind])
  rw [List.foldl_append, List.foldl_cons]
  simpa using hassign.foldl_source (by decide) he

/-- An assignment ends if it leaves no regular expression open. -/
theorem ends_assignment (h : t.Rests fs) (hname : Text.IsName name) {e : Expr}
    {source : List Char} (he : e.IsReadFrom source)
    (hregex : ¬Text.LeavesRegexOpen (name ++ '=' :: source)) :
    ((name ++ '=' :: source).foldl Scanner.step t).mode.Ends := by
  rw [(h.foldl_assignment hname he).1]
  refine he.ends fun hopen ↦ hregex ?_
  rwa [Text.LeavesRegexOpen, (rests_empty.foldl_assignment hname he).1]

end Scanner.Rests

/-! ### Spaces behind expressions -/

namespace Scanner

variable {s : Scanner} {fs : List Fragment}

/-- A space that is added makes the last one longer, if the last fragment is one. -/
theorem Rests.pushSpace (h : s.Rests fs) :
    ∃ before f, (f.isSpace = true ∧ f.text ≠ []) ∧ (s.pushSymbol ' ').Rests (before ++ [f]) ∧
      (fs = before ∨ ∃ g, g.isSpace = true ∧ fs = before ++ [g]) := by
  have hmode : (s.pushSymbol ' ').mode = .words := by rw [mode_pushSymbol, h.mode]
  have hpending : (s.pushSymbol ' ').pending = [] := by rw [pending_pushSymbol, h.pending]
  cases hlast : s.continues ' ' with
  | true =>
    obtain ⟨before, text, hs, htext, -, hpush⟩ := toList_pushSymbol_of_continues hlast
    refine ⟨before, ⟨text ++ [' '], .operator⟩, ⟨?_, by simp⟩, ⟨hmode, hpending, hpush⟩,
      .inr ⟨⟨text, .operator⟩, ?_, h.fragments.symm.trans hs⟩⟩
    · simpa [Fragment.isSpace] using htext
    · simpa [Fragment.isSpace] using htext
  | false =>
    refine ⟨fs, ⟨[' '], .operator⟩, ⟨rfl, by simp⟩, ?_, .inl rfl⟩
    rw [pushSymbol_eq (by decide) hlast]
    exact h.appendOperator _

end Scanner

/-- A space behind fragments makes no difference to an expression. -/
theorem Expr.ofFragments_append_space {f : Fragment} (hf : f.isSpace = true) (fs : List Fragment) :
    Expr.ofFragments (fs ++ [f]) = Expr.ofFragments fs := by
  rw [Expr.ofFragments, Expr.ofFragments, Token.ofFragments, Token.ofFragments,
    Token.ofFragmentsAfter_append_space hf]

/-- A space behind an expression takes no more than a space at its end. -/
theorem Scanner.Rests.step_space {s : Scanner} {fs value : List Fragment} {e : Expr}
    (h : s.finish.Rests (fs ++ value)) (hends : s.mode.Ends)
    (he : Expr.ofFragments value = .ok e) :
    ∃ value' f, (f.isSpace = true ∧ f.text ≠ []) ∧ (s.step ' ').Rests (fs ++ value' ++ [f]) ∧
      Expr.ofFragments value' = .ok e ∧ value' <+: value := by
  have hstep : s.step ' ' = s.finish.pushSymbol ' ' :=
    Scanner.step_of_isOperatorChar hends (by decide) (by decide)
  rw [hstep]
  obtain ⟨before, f, hf, hpush, hbefore⟩ := h.pushSpace
  rcases hbefore with rfl | ⟨g, hg, hbefore⟩
  · exact ⟨value, f, hf, hpush, he, List.prefix_rfl⟩
  · rcases List.eq_nil_or_concat' value with rfl | ⟨value', g', rfl⟩
    · have hspaces := Expr.all_isSpace_eq_false he
      cases hspaces
    · rw [← List.append_assoc] at hbefore
      obtain ⟨rfl, hgg'⟩ := List.append_inj' hbefore rfl
      cases hgg'
      rw [Expr.ofFragments_append_space hg] at he
      exact ⟨value', f, hf, hpush, he, List.prefix_append _ _⟩

end Stencil
