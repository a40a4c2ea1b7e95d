import Mathlib.Data.List.TakeWhile
import Stencil.Proofs.Scanning.Sources
import Stencil.Proofs.Scanning.Words

/-!
# Blanks around expressions

A source that is an expression is one without the blanks at its ends, too: no word of an expression
has a blank in it, and no regular expression ends with one.
-/

namespace Stencil

/-! ### Words without blanks -/

private theorem isBlank_of_isLiteral {s : List Char} (h : isLiteral s = true) :
    ∀ c ∈ s, Text.isBlank c = false := by
  rw [isLiteral, Bool.or_eq_true] at h
  rcases h with h | h
  · have hall : literalWords.all (·.all (!Text.isBlank ·)) = true := by decide +kernel
    simp only [List.all_eq_true, Bool.not_eq_true'] at hall
    exact hall s (by simpa using h)
  · intro c hc
    rcases isDigit_or_point_of_isNumber h c hc with hdigit | rfl
    · exact isBlank_of_isNameChar (by simp [isNameChar, Char.isAlphanum, hdigit])
    · decide

private theorem isBlank_of_isPath {s : List Char} (h : isPath s = true) :
    ∀ c ∈ s, Text.isBlank c = false := by
  intro c hc
  rcases isNameChar_or_mark_of_isPath h c hc with hname | hmark
  · exact isBlank_of_isNameChar hname
  · simp only [List.mem_cons, List.not_mem_nil, or_false] at hmark
    rcases hmark with rfl | rfl | rfl | rfl <;> decide

private theorem isBlank_of_ofDottedNames {s : List Char} {ts : List Token}
    (h : Token.ofDottedNames s = .ok ts) : ∀ c ∈ s, Text.isBlank c = false := by
  unfold Token.ofDottedNames at h
  dsimp only at h
  split at h
  · next rest =>
    split at h
    · next hall =>
      simp only [List.all_eq_true, Bool.and_eq_true] at hall
      intro c hc
      rcases List.mem_cons.mp hc with rfl | hc
      · decide
      rcases mem_splitAtChar '.' hc with rfl | ⟨piece, hpiece, hc⟩
      · decide
      · exact isBlank_of_isNameChar ((hall piece hpiece).2 c hc)
    · cases h
  · cases h

private theorem isBlank_of_word {word : List Char} {f : Fragment} {ts : List Token}
    (hf : Fragment.Becomes ⟨word, classify word⟩ f) (h : Token.ofFragment f = .ok ts) :
    ∀ c ∈ word, Text.isBlank c = false := by
  obtain ⟨text, kind⟩ := f
  obtain rfl : text = word := hf.text
  have hkind := hf.kind
  unfold classify at hkind
  split at hkind
  · next hliteral => exact isBlank_of_isLiteral hliteral
  · split at hkind
    · next hpath => exact isBlank_of_isPath hpath
    · rcases hkind with hkind | ⟨hpath, -⟩
      · obtain rfl : kind = .other := hkind
        exact isBlank_of_ofDottedNames h
      · cases hpath

/-! ### Regular expressions without blanks -/

private theorem isFlag_of_readFlags {o o' : PatternOptions} {flags : List Char}
    (h : Regex.readFlags o flags = .ok o') : ∀ c ∈ flags, Scanner.isFlag c = true := by
  induction flags generalizing o with
  | nil => exact List.forall_mem_nil _
  | cons c cs ih =>
    unfold Regex.readFlags at h
    split at h
    all_goals first
      | exact List.forall_mem_cons.mpr ⟨rfl, ih h⟩
      | cases h

private theorem isFlag_of_regexIsValid {source flags : List Char}
    (h : (Token.regex source flags).RegexIsValid) : ∀ c ∈ flags, Scanner.isFlag c = true := by
  obtain ⟨r, hr⟩ := h
  rw [Regex.read, Regex.readWith, String.toList_ofList] at hr
  split at hr
  · cases hr
  · next hflags => exact isFlag_of_readFlags hflags

private theorem isFlag_of_ofRegex {text : List Char} {c : Char} {t : Token}
    (h : Token.ofRegex (text ++ [c]) = .ok t) (hslash : c ≠ '/') (ht : t.RegexIsValid) :
    Scanner.isFlag c = true := by
  unfold Token.ofRegex at h
  dsimp only at h
  split at h <;> cases h
  exact isFlag_of_regexIsValid ht c (by simp [hslash])

/-! ### Blanks at the end -/

private theorem ne_slash_of_isBlank {c : Char} (hc : Text.isBlank c = true) : c ≠ '/' := by
  rintro rfl
  revert hc
  decide

private theorem isFlag_of_isBlank {c : Char} (hc : Text.isBlank c = true) :
    Scanner.isFlag c = false := by
  rw [Bool.eq_false_iff]
  intro hflag
  simp only [Scanner.isFlag, Bool.or_eq_true, beq_iff_eq] at hflag
  rcases hflag with ((rfl | rfl) | rfl) | rfl <;> revert hc <;> decide

private theorem isQuote_of_isBlank {c : Char} (hc : Text.isBlank c = true) :
    Text.isQuote c = false := by
  rw [Bool.eq_false_iff]
  intro hquote
  simp only [Text.isQuote, Bool.or_eq_true, beq_iff_eq] at hquote
  rcases hquote with rfl | rfl <;> revert hc <;> decide

/-- An operator character that is a blank counts as a space, or as nothing. -/
theorem pushOperatorChar_of_isBlank {c : Char} (hc : Text.isBlank c = true)
    (hop : isOperatorChar c = true) (s : Scanner) :
    s.pushOperatorChar c = s ∨ s.pushOperatorChar c = s.pushSymbol ' ' := by
  have hfilter : operatorChars.filter Text.isBlank = [' ', '\t', '\r', '\n'] := by decide +kernel
  have hmem : c ∈ operatorChars.filter Text.isBlank :=
    List.mem_filter.mpr ⟨by simpa [isOperatorChar] using hop, hc⟩
  rw [hfilter] at hmem
  simp only [List.mem_cons, List.not_mem_nil, or_false] at hmem
  rcases hmem with rfl | rfl | rfl | rfl
  · exact .inr rfl
  · exact .inr rfl
  · exact .inl rfl
  · exact .inr rfl

private theorem Scanner.mode_step_string {s : Scanner} {q c : Char} {escaped : Bool}
    (h : s.mode = .string q escaped) (hc : c ≠ q) :
    ∃ escaped, (s.step c).mode = .string q escaped := by
  rw [Scanner.step, h]
  simp only [Scanner.extend, beq_false_of_ne hc, Bool.false_eq_true, if_false]
  repeat' split
  all_goals exact ⟨_, rfl⟩

namespace Expr

variable {e : Expr} {s : Scanner} {c : Char}

/-- A regular expression of an expression ends with a slash or a flag. -/
theorem mode_ne_regex (h : ofFragments (s.step c).finish.fragments.toList = .ok e)
    (hslash : c ≠ '/') (hflag : Scanner.isFlag c = false) (escaped : Bool) :
    s.mode ≠ .regex escaped := by
  intro hmode
  have hlast : (s.step c).finish.fragments.toList =
      s.fragments.toList ++ [⟨s.pending.reverse ++ [c], .regex⟩] := by
    simp [Scanner.step, hmode, hslash, Scanner.finish, Scanner.extend, Scanner.close]
  rw [hlast] at h
  obtain ⟨ts, hts, -, hvalid⟩ := exists_tokens h
  obtain ⟨here, hhere, hmem⟩ := Token.exists_of_mem hts List.mem_concat_self rfl
  obtain ⟨t, ht, rfl⟩ := exists_of_map_eq_ok hhere
  rw [isFlag_of_ofRegex ht hslash (hvalid t (hmem t List.mem_cons_self))] at hflag
  cases hflag

private theorem isBlank_of_pending (h : ofFragments s.finish.fragments.toList = .ok e)
    (hmode : s.mode = .words) (hmem : c ∈ s.pending) : Text.isBlank c = false := by
  rw [Bool.eq_false_iff]
  intro hc
  rw [← List.mem_reverse] at hmem
  have hne {word : List Char} (hword : word.any Text.isBlank = false) :
      s.pending.reverse ≠ word := by
    rintro rfl
    exact List.any_eq_false.mp hword c hmem hc
  have hfinish : s.finish = s.pushWord s.pending.reverse (classify s.pending.reverse) := by
    rw [Scanner.finish, hmode]
    exact Scanner.flushWord_of_word (List.reverse_reverse _).symm (hne (by decide +kernel))
      ⟨hne (by decide +kernel), hne (by decide +kernel), hne (by decide +kernel)⟩
  have hkind : classify s.pending.reverse ≠ .operator := classify_ne (by decide) _
  rw [hfinish, Scanner.toList_pushWord] at h
  obtain ⟨ts, hts, -⟩ := exists_tokens h
  obtain ⟨here, hhere, -⟩ := Token.exists_of_mem hts List.mem_concat_self
    (by simp [Token.isJoined, hkind])
  rw [isBlank_of_word (.refl _) hhere c hmem] at hc
  cases hc

namespace IsReadFrom

variable {source : List Char}

private theorem ends_of_append_blank (h : e.IsReadFrom (source ++ [c]))
    (hc : Text.isBlank c = true) : (source.foldl Scanner.step {}).mode.Ends := by
  have hquoted := (Scanner.tidy_foldl source).quoted
  have hends := h.ends
  rw [Text.LeavesRegexOpen] at hends
  rw [IsReadFrom, Fragment.scan] at h
  rw [List.foldl_append, List.foldl_cons, List.foldl_nil] at h hends
  generalize source.foldl Scanner.step {} = s at h hquoted hends
  cases hmode : s.mode with
  | words => trivial
  | flags => trivial
  | afterQuote q =>
    rw [hmode] at hquoted
    exact hquoted.1
  | string q escaped =>
    rw [hmode] at hquoted
    have hne : c ≠ q := by
      rintro rfl
      exact absurd hquoted.1 (by rw [isQuote_of_isBlank hc]; exact Bool.false_ne_true)
    obtain ⟨escaped', hstring⟩ := Scanner.mode_step_string hmode hne
    rw [hstring] at hends
    exact absurd (hends (by rintro ⟨_, ⟨⟩⟩)) id
  | regex escaped =>
    exact absurd hmode (mode_ne_regex h (ne_slash_of_isBlank hc) (isFlag_of_isBlank hc) escaped)

private theorem of_append_blank (h : e.IsReadFrom (source ++ [c])) (hc : Text.isBlank c = true) :
    e.IsReadFrom source := by
  have hends := h.ends_of_append_blank hc
  have hrests := (source.foldl Scanner.step {}).rests_finish
  rw [IsReadFrom, Fragment.scan] at h ⊢
  rw [List.foldl_append, List.foldl_cons, List.foldl_nil] at h
  generalize source.foldl Scanner.step {} = s at h hends hrests ⊢
  by_cases hop : isOperatorChar c = true
  · rw [Scanner.step_of_isOperatorChar hends hop (ne_slash_of_isBlank hc)] at h
    rcases pushOperatorChar_of_isBlank hc hop s.finish with hpush | hpush <;> rw [hpush] at h
    · rwa [hrests.finish] at h
    · obtain ⟨before, f, ⟨hf, -⟩, hspace, hfs⟩ := hrests.pushSpace
      rw [hspace.finish, hspace.fragments, ofFragments_append_space hf] at h
      rcases hfs with hfs | ⟨g, hg, hfs⟩ <;> rw [hfs]
      · exact h
      · rwa [ofFragments_append_space hg]
  · -- The blank would belong to a word, and no word has one.
    obtain ⟨hmode, cs, hpending⟩ := Scanner.step_of_not_isOperatorChar hends (by simpa using hop)
      (isQuote_of_isBlank hc) (isFlag_of_isBlank hc)
    rw [isBlank_of_pending h hmode (hpending ▸ List.mem_cons_self)] at hc
    cases hc

/-- An expression is the same without the blanks behind it. -/
theorem dropEndWhile_isBlank (h : e.IsReadFrom source) :
    e.IsReadFrom (Text.dropEndWhile Text.isBlank source) := by
  induction source using List.reverseRecOn with
  | nil => exact h
  | append_singleton source c ih =>
    rw [Text.dropEndWhile, List.reverse_append, List.reverse_singleton, List.singleton_append]
    by_cases hc : Text.isBlank c = true
    · rw [List.dropWhile_cons_of_pos hc]
      exact ih (h.of_append_blank hc)
    · rw [List.dropWhile_cons_of_neg hc, List.reverse_cons, List.reverse_reverse]
      exact h

end IsReadFrom

end Expr

/-! ### Blanks at the front -/

namespace Scanner

variable {s : Scanner}

/-- A scan that has seen nothing but blanks. -/
private structure IsBlank (s : Scanner) : Prop where
  /-- All fragments are spaces. -/
  rests : ∃ fs, s.Rests fs ∧ ∀ f ∈ fs, f.isSpace = true
  /-- There is no other operator. -/
  lastOperator : s.lastOperator = none
  /-- There is no word. -/
  lastWord : s.lastWord = none

private theorem IsBlank.pushSpace (h : s.IsBlank) : (s.pushSymbol ' ').IsBlank := by
  obtain ⟨fs, hrests, hspaces⟩ := h.rests
  obtain ⟨before, f, ⟨hf, -⟩, hpush, hfs⟩ := hrests.pushSpace
  have hbefore : ∀ g ∈ before, g.isSpace = true := by
    rcases hfs with rfl | ⟨g, -, rfl⟩
    · exact hspaces
    · exact fun g hg ↦ hspaces g (List.mem_append_left _ hg)
  have hindices : (s.pushSymbol ' ').lastOperator = s.lastOperator ∧
      (s.pushSymbol ' ').lastWord = s.lastWord := by
    cases hlast : s.continues ' ' <;> simp [Scanner.pushSymbol, hlast, Scanner.appendOperator]
  refine ⟨⟨_, hpush, ?_⟩, hindices.1.trans h.lastOperator, hindices.2.trans h.lastWord⟩
  exact List.forall_mem_append.mpr ⟨hbefore, List.forall_mem_singleton.mpr hf⟩

private theorem IsBlank.foldl (h : s.IsBlank) {blanks : List Char}
    (hblanks : ∀ c ∈ blanks, Text.isBlank c = true ∧ isOperatorChar c = true) :
    (blanks.foldl Scanner.step s).IsBlank := by
  induction blanks generalizing s with
  | nil => exact h
  | cons c cs ih =>
    obtain ⟨⟨hc, hop⟩, hcs⟩ := List.forall_mem_cons.mp hblanks
    refine ih ?_ hcs
    obtain ⟨fs, hrests, -⟩ := h.rests
    have hends : s.mode.Ends := by
      rw [hrests.mode]
      trivial
    rw [step_of_isOperatorChar hends hop (ne_slash_of_isBlank hc), hrests.finish]
    rcases pushOperatorChar_of_isBlank hc hop s with hpush | hpush <;> rw [hpush]
    · exact h
    · exact h.pushSpace

private theorem IsBlank.eq_of_continues (h : s.IsBlank) (htidy : s.Tidy) {c : Char}
    (hc : s.continues c = true) : c = ' ' := by
  obtain ⟨fs, hrests, hspaces⟩ := h.rests
  obtain ⟨before, text, hs, htext, -⟩ := toList_pushSymbol_of_continues hc
  have hmem : (⟨text, .operator⟩ : Fragment) ∈ s.fragments.toList := by simp [hs]
  obtain ⟨d, n, hd⟩ := htidy.runs _ hmem rfl
  have hspace := Token.text_of_isSpace (hspaces _ (hrests.fragments ▸ hmem))
  dsimp only at hd hspace
  rw [hd] at htext hspace
  have hdc : d = c := by simpa using htext
  exact hdc ▸ hspace d (by simp)

/-- Whether the first fragment is no space. -/
private def StartsVisibly (fs : List Fragment) : Prop :=
  ∃ f, fs.head? = some f ∧ (f.kind = .operator → ∃ c, c ≠ ' ' ∧ f.text.head? = some c)

private theorem StartsVisibly.of_grows {fs gs : List Fragment} (h : StartsVisibly fs)
    (hgrows : Fragment.Grows fs gs) : StartsVisibly gs := by
  refine hgrows.exists_head (fun f g hfg hf hkind ↦ ?_) (fun text c hf _ ↦ ?_) h
  · rw [hfg.text]
    exact hf (hfg.kind_eq_operator.mp hkind)
  · obtain ⟨d, hd, htext⟩ := hf rfl
    exact ⟨d, hd, by rw [List.head?_append, htext]; rfl⟩

private theorem startsVisibly_pushWord (hs : s.fragments.toList = []) (text : List Char)
    {kind : FragmentKind} (hkind : kind ≠ .operator) :
    StartsVisibly (s.pushWord text kind).fragments.toList := by
  rw [toList_pushWord, hs]
  exact ⟨_, rfl, fun h ↦ absurd h hkind⟩

private theorem startsVisibly_flushWord (hs : s.fragments.toList = []) (hpending : s.pending ≠ []) :
    StartsVisibly s.flushWord.fragments.toList := by
  have hoperator {c : Char} (hc : c ≠ ' ') (op : List Char) :
      StartsVisibly ({ s with pending := [] }.appendOperator (c :: op)).fragments.toList := by
    rw [toList_appendOperator, hs]
    exact ⟨_, rfl, fun _ ↦ ⟨c, hc, rfl⟩⟩
  unfold Scanner.flushWord
  dsimp only
  split
  · next hempty => exact absurd (by simpa using hempty) hpending
  · split
    · have hlast : ({ s with pending := [] } : Scanner).continues '!' = false := by
        rw [Scanner.continues, ← Array.getLast?_toList, hs]
        rfl
      rw [pushSymbol_eq (by decide) hlast]
      exact hoperator (by decide) _
    · split
      · exact hoperator (by decide) _
      · split
        · exact hoperator (by decide) _
        · exact startsVisibly_pushWord hs _ (classify_ne (by decide) _)

/-- Whether something is pending in front of all fragments. -/
private def PendsFirst (s : Scanner) : Prop :=
  s.fragments.toList = [] ∧ (s.mode = .words → s.pending ≠ [])

private theorem PendsFirst.step (h : s.PendsFirst) (c : Char) :
    (s.step c).PendsFirst ∨ StartsVisibly (s.step c).fragments.toList := by
  obtain ⟨hs, hpending⟩ := h
  have hextend (d : Char) (mode : ScanMode) : (s.extend d mode).PendsFirst :=
    ⟨hs, fun _ ↦ List.cons_ne_nil _ _⟩
  have hclose {kind : FragmentKind} (hkind : kind ≠ .operator) :
      StartsVisibly ((s.close kind).stepWords c).fragments.toList :=
    (startsVisibly_pushWord hs _ hkind).of_grows (grows_stepWords _ c)
  unfold Scanner.step
  split
  · next hmode =>
    have hflush := startsVisibly_flushWord hs (hpending hmode)
    unfold Scanner.stepWords
    split
    · exact .inr hflush
    · split
      · exact .inl (hextend _ _)
      · split
        · exact .inl ⟨hs, fun _ ↦ List.cons_ne_nil _ _⟩
        · exact .inr (hflush.of_grows (grows_pushOperatorChar _ c))
  · exact .inl (hextend _ _)
  · split
    · exact .inl (hextend _ _)
    · exact .inr (hclose (by simp))
  · exact .inl (hextend _ _)
  · split
    · exact .inl (hextend _ _)
    · exact .inr (hclose (by simp))

private theorem PendsFirst.finish (h : s.PendsFirst) : StartsVisibly s.finish.fragments.toList := by
  obtain ⟨hs, hpending⟩ := h
  unfold Scanner.finish
  split
  · next hmode => exact startsVisibly_flushWord hs (hpending hmode)
  all_goals exact startsVisibly_pushWord hs _ (by simp)

private theorem startsVisibly_foldl (cs : List Char)
    (h : s.PendsFirst ∨ StartsVisibly s.fragments.toList) :
    StartsVisibly (cs.foldl Scanner.step s).finish.fragments.toList := by
  induction cs generalizing s with
  | nil => exact h.elim PendsFirst.finish (·.of_grows (grows_finish s))
  | cons c cs ih =>
    rw [List.foldl_cons]
    exact ih (h.elim (·.step c) fun h ↦ .inr (h.of_grows (grows_step s c)))

private theorem startsVisibly_scan {c : Char} (cs : List Char)
    (hc : ¬(Text.isBlank c = true ∧ isOperatorChar c = true)) :
    StartsVisibly (Fragment.scan (c :: cs)) := by
  apply startsVisibly_foldl (s := Scanner.step {} c) cs
  change (Scanner.stepWords {} c).PendsFirst ∨
    StartsVisibly (Scanner.stepWords {} c).fragments.toList
  have hblank {d : Char} (hd : Text.isBlank d = true ∧ isOperatorChar d = true) : c ≠ d := by
    rintro rfl
    exact hc hd
  have hspaces : c ≠ '\r' ∧ c ≠ '\n' ∧ c ≠ '\t' ∧ c ≠ ' ' :=
    ⟨hblank (by decide +kernel), hblank (by decide +kernel), hblank (by decide +kernel),
      hblank (by decide +kernel)⟩
  have hpush : StartsVisibly (Scanner.pushOperatorChar {} c).fragments.toList := by
    have hsymbol : Scanner.pushOperatorChar {} c = Scanner.pushSymbol {} c := by
      simp [Scanner.pushOperatorChar, hspaces]
    obtain ⟨gs, hgs, hfragments⟩ := toList_pushSymbol_of_not_continues (s := {}) (c := c) rfl
    cases hgs
    rw [hsymbol, hfragments]
    exact ⟨_, rfl, fun _ ↦ ⟨c, hspaces.2.2.2, rfl⟩⟩
  unfold Scanner.stepWords
  split
  · exact .inl ⟨rfl, fun _ ↦ List.cons_ne_nil _ _⟩
  · split
    · exact .inl ⟨rfl, fun _ ↦ List.cons_ne_nil _ _⟩
    · rw [if_neg (by simp)]
      exact .inr hpush

private theorem exists_head_of_word {word rest : List Char} (hne : word ≠ [])
    (hchars : ∀ d ∈ word, Text.isQuote d = false ∧ isOperatorChar d = false)
    (hword : word ≠ "not".toList ∧ word ≠ "or".toList ∧ word ≠ "and".toList)
    (hregex : word ≠ "r".toList)
    (hrest : ∀ d ∈ rest.head?, Text.isQuote d = true ∨ isOperatorChar d = true) :
    ∃ f, (Fragment.scan (word ++ rest)).head? = some f ∧
      Fragment.Becomes ⟨word, classify word⟩ f := by
  have hpending := foldl_step_word (s := {}) (fun d hd ↦ (hchars d hd).1)
    (fun d hd ↦ (hchars d hd).2) rfl
  have hreverse : (word.foldl Scanner.step {}).pending = word.reverse := by
    rw [hpending]
    exact List.append_nil _
  have hflush := flushWord_of_word hreverse hne hword
  have hmode : (word.foldl Scanner.step {}).mode = .words := by rw [hpending]
  have hgrows : Fragment.Grows (word.foldl Scanner.step {}).flushWord.fragments.toList
      (Fragment.scan (word ++ rest)) := by
    rw [Fragment.scan, List.foldl_append]
    cases rest with
    | nil =>
      rw [List.foldl_nil, Scanner.finish, hmode]
      exact .refl _
    | cons d ds =>
      refine .trans ?_ (.trans (grows_foldl ((word.foldl Scanner.step {}).step d) ds)
        (grows_finish _))
      have hr : (word.foldl Scanner.step {}).pending ≠ ['r'] := by
        rw [hpending]
        exact fun hr ↦ hregex (List.reverse_injective (by simpa using hr))
      rw [Scanner.step, hmode]
      dsimp only
      unfold Scanner.stepWords
      split
      · exact .refl _
      · next hquote =>
        have hop : isOperatorChar d = true := (hrest d rfl).resolve_left hquote
        rw [if_neg (by simp [hop]), if_neg (by simp [hr])]
        exact grows_pushOperatorChar _ d
  refine hgrows.exists_head (fun f g hfg hf ↦ hf.trans hfg) (fun text c hf ↦ ?_) ?_
  · exact absurd rfl hf.kind_ne_operator
  · rw [hflush, toList_pushWord, hpending]
    exact ⟨_, rfl, .refl _⟩

end Scanner

namespace Expr.IsReadFrom

variable {e : Expr} {source : List Char}

private theorem isOperatorChar_of_isBlank {c : Char} {cs : List Char} (h : e.IsReadFrom (c :: cs))
    (hc : Text.isBlank c = true) : isOperatorChar c = true := by
  rw [← Bool.not_eq_false]
  intro hop
  have hsplit := List.takeWhile_append_dropWhile
    (p := fun d ↦ !Text.isQuote d && !isOperatorChar d) (l := c :: cs)
  have hhead := List.head?_dropWhile_not (fun d ↦ !Text.isQuote d && !isOperatorChar d) (c :: cs)
  have hmem : c ∈ (c :: cs).takeWhile fun d ↦ !Text.isQuote d && !isOperatorChar d := by
    simp [hop, isQuote_of_isBlank hc]
  have hchars (d) (hd : d ∈ (c :: cs).takeWhile fun d ↦ !Text.isQuote d && !isOperatorChar d) :
      Text.isQuote d = false ∧ isOperatorChar d = false := by
    simpa using List.mem_takeWhile_imp hd
  generalize (c :: cs).takeWhile (fun d ↦ !Text.isQuote d && !isOperatorChar d) = word at *
  generalize (c :: cs).dropWhile (fun d ↦ !Text.isQuote d && !isOperatorChar d) = rest at *
  have hword {w : List Char} (hw : w.any Text.isBlank = false) : word ≠ w := by
    rintro rfl
    exact List.any_eq_false.mp hw c hmem hc
  have hrest : ∀ d ∈ rest.head?, Text.isQuote d = true ∨ isOperatorChar d = true := by
    intro d hd
    rw [Option.mem_def.mp hd] at hhead
    simpa [Bool.or_eq_true, or_iff_not_imp_left] using hhead
  obtain ⟨f, hfirst, hf⟩ := Scanner.exists_head_of_word (List.ne_nil_of_mem hmem) hchars
    ⟨hword (by decide +kernel), hword (by decide +kernel), hword (by decide +kernel)⟩
    (hword (by decide +kernel)) hrest
  rw [IsReadFrom, ← hsplit] at h
  obtain ⟨ts, hts, -⟩ := exists_tokens h
  obtain ⟨here, hhere, -⟩ := Token.exists_of_mem hts (List.mem_of_head? hfirst)
    (by simp [Token.isJoined, hf.kind_ne_operator])
  rw [isBlank_of_word hf hhere c hmem] at hc
  cases hc

-- Blanks in front are spaces, behind which the text is scanned as it is on its own.
private theorem exists_scan_eq {blanks rest : List Char}
    (hblanks : ∀ c ∈ blanks, Text.isBlank c = true ∧ isOperatorChar c = true)
    (hrest : ∀ c ∈ rest.head?, ¬(Text.isBlank c = true ∧ isOperatorChar c = true)) :
    ((blanks ++ rest).foldl Scanner.step {}).mode = (rest.foldl Scanner.step {}).mode ∧
      ∃ spaces : List Fragment, (∀ f ∈ spaces, f.isSpace = true) ∧
        Fragment.scan (blanks ++ rest) = spaces ++ Fragment.scan rest := by
  have hstart : Scanner.IsBlank {} := ⟨⟨[], Scanner.rests_empty, List.forall_mem_nil _⟩, rfl, rfl⟩
  have hblank := hstart.foldl hblanks
  obtain ⟨spaces, hrests, hspaces⟩ := hblank.rests
  have hadmits : (blanks.foldl Scanner.step {}).Admits (Fragment.scan rest) := by
    refine ⟨fun op hop hbegins ↦ ?_, fun _ ↦ ⟨hblank.lastOperator, hblank.lastWord⟩⟩
    obtain rfl := hblank.eq_of_continues (Scanner.tidy_foldl blanks) hop
    obtain ⟨f, hf, hkind, htext⟩ := hbegins
    cases rest with
    | nil => cases hf
    | cons c cs =>
      obtain ⟨g, hg, hvisible⟩ := Scanner.startsVisibly_scan cs (hrest c rfl)
      obtain rfl : f = g := Option.some.inj (hf.symm.trans hg)
      obtain ⟨d, hd, htext'⟩ := hvisible hkind
      exact hd (Option.some.inj (htext'.symm.trans htext))
  obtain ⟨hmode, hfragments⟩ := hrests.foldl_admits hadmits
  rw [Fragment.scan, List.foldl_append]
  exact ⟨hmode, spaces, hspaces, hfragments⟩

private theorem exists_blanks (source : List Char) :
    ∃ blanks rest, source = blanks ++ rest ∧
      (∀ c ∈ blanks, Text.isBlank c = true ∧ isOperatorChar c = true) ∧
      ∀ c ∈ rest.head?, ¬(Text.isBlank c = true ∧ isOperatorChar c = true) := by
  refine ⟨source.takeWhile fun c ↦ Text.isBlank c && isOperatorChar c,
    source.dropWhile fun c ↦ Text.isBlank c && isOperatorChar c,
    List.takeWhile_append_dropWhile.symm, fun c hc ↦ ?_, fun c hc ↦ ?_⟩
  · simpa using List.mem_takeWhile_imp hc
  · have hhead := List.head?_dropWhile_not (fun c ↦ Text.isBlank c && isOperatorChar c) source
    rw [Option.mem_def.mp hc] at hhead
    simpa using hhead

/-- An expression is the same without the blanks in front of it, and leaves the same open. -/
theorem dropWhile_isBlank (h : e.IsReadFrom source) :
    e.IsReadFrom (source.dropWhile Text.isBlank) ∧
      ((source.dropWhile Text.isBlank).foldl Scanner.step {}).mode =
        (source.foldl Scanner.step {}).mode := by
  obtain ⟨blanks, rest, rfl, hblanks, hhead⟩ := exists_blanks source
  obtain ⟨hmode, spaces, hspaces, hscan⟩ := exists_scan_eq hblanks hhead
  have hrest : e.IsReadFrom rest := by
    rwa [IsReadFrom, hscan, ofFragments, Token.ofFragments_spaces_append hspaces] at h
  have hdrop : (blanks ++ rest).dropWhile Text.isBlank = rest := by
    rw [List.dropWhile_append_of_pos fun c hc ↦ (hblanks c hc).1]
    cases rest with
    | nil => rfl
    | cons c cs =>
      exact List.dropWhile_cons_of_neg fun hc ↦
        hhead c rfl ⟨hc, hrest.isOperatorChar_of_isBlank hc⟩
  rw [hdrop]
  exact ⟨hrest, hmode.symm⟩

/-- An expression is the same behind a space, and leaves the same open. -/
theorem space_cons (h : e.IsReadFrom source) :
    e.IsReadFrom (' ' :: source) ∧
      ((' ' :: source).foldl Scanner.step {}).mode = (source.foldl Scanner.step {}).mode := by
  obtain ⟨blanks, rest, rfl, hblanks, hhead⟩ := exists_blanks source
  have hmore : ∀ c ∈ ' ' :: blanks, Text.isBlank c = true ∧ isOperatorChar c = true :=
    List.forall_mem_cons.mpr ⟨by decide, hblanks⟩
  obtain ⟨hmode, spaces, hspaces, hscan⟩ := exists_scan_eq hblanks hhead
  obtain ⟨hmode', spaces', hspaces', hscan'⟩ := exists_scan_eq hmore hhead
  rw [List.cons_append] at hmode' hscan'
  refine ⟨?_, hmode'.trans hmode.symm⟩
  rw [IsReadFrom, hscan, ofFragments, Token.ofFragments_spaces_append hspaces] at h
  rwa [IsReadFrom, hscan', ofFragments, Token.ofFragments_spaces_append hspaces']

end Expr.IsReadFrom

end Stencil
