import Stencil.Proofs.Scanning.Sources
import Stencil.Proofs.Steps

/-!
# Names that signatures declare

A signature may declare any name of letters, numerals, underscores and dollar signs that does not
begin with a digit. An expression reads such a name, as the path that it is or as the macro that is
called, if all its characters may stand in paths and it is none of the words for operators and
values, and only then.
-/

namespace Stencil

/-- A name that expressions read: an identifier that stands neither for an operator nor for a
value. -/
structure Text.IsReadable (s : List Char) : Prop extends Text.IsIdentifier s where
  /-- The name stands for nothing else. -/
  notWord : s ∉ operatorWords ++ literalWords

instance (s : List Char) : Decidable (Text.IsReadable s) :=
  decidable_of_iff (Text.IsIdentifier s ∧ s ∉ operatorWords ++ literalWords)
    ⟨fun h ↦ ⟨h.1, h.2⟩, fun h ↦ ⟨h.toIsIdentifier, h.notWord⟩⟩

/-! ### Characters of declared names -/

/-- Whether the character may stand in a declared name. -/
private def isDeclaredChar (c : Char) : Bool := Text.isAlphanumeric c || c == '_' || c == '$'

private theorem isBlank_of_isDeclaredChar {c : Char} (h : isDeclaredChar c = true) :
    Text.isBlank c = false := by
  have hall : ∀ r ∈ Text.blankRanges, ∀ k < r.2 + 1 - r.1,
      (Text.alphabeticRanges.contains (r.1 + k) || Text.numeralRanges.contains (r.1 + k)) =
        false := by
    decide +kernel
  rw [Bool.eq_false_iff]
  intro hblank
  have hascending : Text.blankRanges.Pairwise fun r s ↦ r.1 ≤ s.1 := by decide
  obtain ⟨r, hr, hfirst, hlast⟩ := (Text.CharRanges.contains_iff hascending _).mp hblank
  have hcode := hall r hr (c.toNat - r.1) (by omega)
  rw [Nat.add_sub_cancel' hfirst] at hcode
  have halnum : Text.isAlphanumeric c = false := hcode
  simp only [isDeclaredChar, halnum, Bool.false_or, Bool.or_eq_true, beq_iff_eq] at h
  rcases h with rfl | rfl
  · revert hblank
    decide
  · revert hblank
    decide

private theorem isDeclaredChar_cases {c : Char} (h : isDeclaredChar c = true) :
    Text.isQuote c = false ∧ isOperatorChar c = false ∧ (c != '.') = true := by
  have hall : ('\'' :: '"' :: '.' :: operatorChars).all (!isDeclaredChar ·) = true := by
    decide +kernel
  simp only [List.all_eq_true, Bool.not_eq_true'] at hall
  have hnot {d : Char} (hd : d ∈ '\'' :: '"' :: '.' :: operatorChars) : c ≠ d := by
    rintro rfl
    rw [hall c hd] at h
    cases h
  refine ⟨?_, ?_, bne_iff_ne.mpr (hnot (by decide))⟩
  · simp [Text.isQuote, hnot (d := '\'') (by decide), hnot (d := '"') (by decide)]
  · rw [isOperatorChar, List.contains_eq_mem, decide_eq_false_iff_not]
    exact fun hop ↦ hnot (.tail _ (.tail _ (.tail _ hop))) rfl

/-! ### Reading declared names -/

namespace Pipeline

private theorem read_eq_map {source : List Char} (hne : source ≠ [])
    (hblank : ∀ c ∈ source, Text.isBlank c = false)
    (hbar : ∀ f ∈ Fragment.scan source, isBar f = false) :
    read (String.ofList source) =
      (Expr.ofFragments (Fragment.scan source)).map (⟨String.ofList source, ·, [], false⟩) := by
  have htrim : Text.trim source = source :=
    Text.trimWhile_append (s := []) (List.forall_mem_nil _) hblank
  rw [read, String.toList_ofList, htrim]
  dsimp only
  rw [if_neg (by simpa using hne), Fragment.splitBy_eq_singleton hbar, List.head?_cons,
    Option.getD_some, List.tail_cons, List.mapM_nil]
  cases Expr.ofFragments (Fragment.scan source) <;> rfl

end Pipeline

section

variable {name suffix : List Char}

private theorem scan_declared (hne : name ≠ []) (hname : ∀ c ∈ name, isDeclaredChar c = true)
    (hword : name ∉ operatorWords) (hsuffix : suffix ∈ [[], ['(', ')']]) :
    Fragment.scan (name ++ suffix) = ⟨name, classify name⟩ :: suffix.map .ofOperator := by
  simp only [operatorWords, List.mem_cons, List.not_mem_nil, or_false, not_or] at hword
  have hstep := Scanner.foldl_step_word (s := {}) (fun c hc ↦ (isDeclaredChar_cases (hname c hc)).1)
    (fun c hc ↦ (isDeclaredChar_cases (hname c hc)).2.1) rfl
  have hmode : (name.foldl Scanner.step {}).mode = .words := by rw [hstep]
  have hrests : (name.foldl Scanner.step {}).finish.Rests [⟨name, classify name⟩] := by
    rw [hstep]
    dsimp only [Scanner.finish]
    rw [Scanner.flushWord_of_word (by simp) hne hword]
    exact Scanner.Rests.pushWord (s := { mode := .words }) rfl name _
  simp only [List.mem_cons, List.not_mem_nil, or_false] at hsuffix
  rw [Fragment.scan, List.foldl_append]
  rcases hsuffix with rfl | rfl
  · exact hrests.fragments
  · have hopen := hrests.step_symbol (c := '(') (by rw [hmode]; trivial) (by decide)
      (Scanner.continues_of_isBracket rfl _)
    have hclose := Scanner.Rests.step_symbol (c := ')') (hopen.finish.symm ▸ hopen)
      (by rw [hopen.mode]; trivial) (by decide) (Scanner.continues_of_isBracket rfl _)
    rw [← hclose.finish] at hclose
    exact hclose.fragments

end

private theorem exists_of_isIdentifier {name : List Char}
    (h : Signature.isIdentifier name = true) :
    ∃ c cs, name = c :: cs ∧ c.isDigit = false ∧ ∀ d ∈ name, isDeclaredChar d = true := by
  cases name with
  | nil => cases h
  | cons c cs =>
    simp only [Signature.isIdentifier, Bool.and_eq_true, Bool.not_eq_true', List.all_eq_true] at h
    exact ⟨c, cs, rfl, h.1, h.2⟩

section

variable {name : List Char} (h : Signature.isIdentifier name = true)

include h

/-- A declared name is no number. -/
theorem number?_of_isIdentifier : Token.number? name = none := by
  obtain ⟨c, cs, rfl, hdigit, hchars⟩ := exists_of_isIdentifier h
  have hop := (isDeclaredChar_cases (hchars c List.mem_cons_self)).2.1
  have hint : Number.readInt64? (c :: cs) = none := by
    unfold Number.readInt64?
    split
    · next hcons =>
      cases hcons
      cases hop
    · next hcons =>
      cases hcons
      cases hop
    · simp [Number.natural?, Number.readDigits?, hdigit]
  simp [Token.number?, hint, hdigit]

private theorem ofPath_of_isIdentifier : Parser.ofPath name = .path (String.ofList name) [] := by
  obtain ⟨c, cs, -, -, hchars⟩ := exists_of_isIdentifier h
  rw [Parser.ofPath,
    Text.splitAtChar_of_forall fun d hd ↦ (isDeclaredChar_cases (hchars d hd)).2.2]
  rfl

private theorem ofFragments_path :
    Expr.ofFragments [⟨name, .path⟩] = .ok (.path (String.ofList name) []) := by
  have htoken : Token.ofFragment ⟨name, .path⟩ = .ok [.path name] := by
    simp [Token.ofFragment, number?_of_isIdentifier h]
  have htokens : Token.ofFragments [⟨name, .path⟩] = .ok [.path name] := by
    rw [Token.ofFragments_cons rfl htoken]
    rfl
  have hparse : Expr.ofTokens [.path name] = .ok (Parser.ofPath name) := rfl
  rw [ofPath_of_isIdentifier h] at hparse
  rw [Expr.ofFragments, htokens]
  exact hparse

private theorem ofFragments_call :
    Expr.ofFragments [⟨name, .path⟩, .ofOperator '(', .ofOperator ')'] =
      .ok (.call (.path (String.ofList name) []) []) := by
  have htoken : Token.ofFragment ⟨name, .path⟩ = .ok [.path name] := by
    simp [Token.ofFragment, number?_of_isIdentifier h]
  have htokens : Token.ofFragments [⟨name, .path⟩, .ofOperator '(', .ofOperator ')'] =
      .ok [.path name, .symbol .parenOpen, .symbol .parenClose] := by
    rw [Token.ofFragments_cons rfl htoken]
    rfl
  have hparse : Expr.ofTokens [.path name, .symbol .parenOpen, .symbol .parenClose] =
      .ok (.call (Parser.ofPath name) []) := rfl
  rw [ofPath_of_isIdentifier h] at hparse
  rw [Expr.ofFragments, htokens]
  exact hparse

private theorem classify_eq_other (hliteral : name ∉ literalWords)
    (hchar : name.all isNameChar = false) : classify name = .other := by
  obtain ⟨c, cs, rfl, hdigit, hchars⟩ := exists_of_isIdentifier h
  have hpoint : ∀ d ∈ c :: cs, (d != '.') = true := fun d hd ↦
    (isDeclaredChar_cases (hchars d hd)).2.2
  simp [classify, Text.isLiteral_eq_false hdigit hpoint hliteral, Text.isPath_of_forall hpoint,
    hchar]

private theorem ofFragments_other (suffix : List Fragment) (e : Expr) :
    Expr.ofFragments (⟨name, .other⟩ :: suffix) ≠ .ok e := by
  intro he
  obtain ⟨ts, hts, -⟩ := Expr.exists_tokens he
  obtain ⟨here, hhere, -⟩ := Token.exists_of_mem hts List.mem_cons_self rfl
  obtain ⟨c, cs, rfl, -, hchars⟩ := exists_of_isIdentifier h
  have hpoint := (isDeclaredChar_cases (hchars c List.mem_cons_self)).2.2
  rw [Token.ofFragment] at hhere
  unfold Token.ofDottedNames at hhere
  dsimp only at hhere
  split at hhere
  · next hcons =>
    cases hcons
    cases hpoint
  · cases hhere

end

private theorem ofFragments_operatorWord {word suffix : List Char} (hword : word ∈ operatorWords)
    (hsuffix : suffix ∈ [[], ['(', ')']]) (e : Expr) :
    Expr.ofFragments (Fragment.scan (word ++ suffix)) ≠ .ok e := by
  simp only [operatorWords, List.mem_cons, List.not_mem_nil, or_false] at hword hsuffix
  rcases hword with rfl | rfl | rfl <;> rcases hsuffix with rfl | rfl <;> exact fun h ↦ nomatch h

private theorem exists_ofFragments_literalWord {word : List Char} (hword : word ∈ literalWords) :
    ∃ v, Expr.ofFragments [⟨word, .literal⟩] = .ok (.const v) ∧
      Expr.ofFragments [⟨word, .literal⟩, .ofOperator '(', .ofOperator ')'] =
        .ok (.call (.const v) []) := by
  simp only [literalWords, List.mem_cons, List.not_mem_nil, or_false] at hword
  rcases hword with rfl | rfl | rfl | rfl | rfl <;> exact ⟨_, rfl, rfl⟩

section

variable {name suffix : List Char} (h : Signature.isIdentifier name = true)
  (hsuffix : suffix ∈ [[], ['(', ')']])

include h hsuffix

private theorem read_declared :
    Pipeline.read (String.ofList (name ++ suffix)) =
      (Expr.ofFragments (Fragment.scan (name ++ suffix))).map
        (⟨String.ofList (name ++ suffix), ·, [], false⟩) := by
  obtain ⟨c, cs, hname, -, hchars⟩ := exists_of_isIdentifier h
  have hne : name ≠ [] := by simp [hname]
  have hblanks : [[], ['(', ')']].all (fun s ↦ s.all (!Text.isBlank ·)) = true := by decide
  simp only [List.all_eq_true, Bool.not_eq_true'] at hblanks
  refine Pipeline.read_eq_map (by simp [hne]) ?_ ?_
  · rw [List.forall_mem_append]
    exact ⟨fun d hd ↦ isBlank_of_isDeclaredChar (hchars d hd), hblanks suffix hsuffix⟩
  · by_cases hword : name ∈ operatorWords
    · have hall : ∀ word ∈ operatorWords, ∀ s ∈ [[], ['(', ')']],
          ∀ f ∈ Fragment.scan (word ++ s), Pipeline.isBar f = false := by
        decide
      exact hall name hword suffix hsuffix
    · have hbars : ∀ s ∈ [[], ['(', ')']], ∀ f ∈ s.map Fragment.ofOperator,
          Pipeline.isBar f = false := by
        decide
      rw [scan_declared hne hchars hword hsuffix, List.forall_mem_cons]
      refine ⟨?_, hbars suffix hsuffix⟩
      simp [Pipeline.isBar, Fragment.isOperator, classify_ne]

private theorem ofFragments_of_not_isReadable (hname : ¬Text.IsReadable name) {e : Expr}
    (he : Expr.ofFragments (Fragment.scan (name ++ suffix)) = .ok e) :
    ∃ v, e = .const v ∨ e = .call (.const v) [] := by
  by_cases hop : name ∈ operatorWords
  · exact absurd he (ofFragments_operatorWord hop hsuffix e)
  obtain ⟨c, cs, hcons, hdigit, hchars⟩ := exists_of_isIdentifier h
  rw [scan_declared (by simp [hcons]) hchars hop hsuffix] at he
  by_cases hliteral : name ∈ literalWords
  · have hall : ∀ word ∈ literalWords, classify word = .literal := by decide
    rw [hall name hliteral] at he
    obtain ⟨v, hconst, hcall⟩ := exists_ofFragments_literalWord hliteral
    simp only [List.mem_cons, List.not_mem_nil, or_false] at hsuffix
    rcases hsuffix with rfl | rfl
    · exact ⟨v, .inl (Except.ok.inj (he.symm.trans hconst))⟩
    · exact ⟨v, .inr (Except.ok.inj (he.symm.trans hcall))⟩
  · have hchar : name.all isNameChar = false := by
      rw [Bool.eq_false_iff]
      intro hall
      rw [List.all_eq_true] at hall
      refine hname ⟨⟨⟨c, cs, hcons, ?_⟩, hall⟩, by simp [hop, hliteral]⟩
      have hfirst := hall c (by simp [hcons])
      simpa [isNameChar, Char.isAlphanum, hdigit] using hfirst
    rw [classify_eq_other h hliteral hchar] at he
    exact absurd he (ofFragments_other h _ e)

end

section

variable {name : List Char} (h : Signature.isIdentifier name = true)

include h

private theorem scan_of_isReadable (hname : Text.IsReadable name) {suffix : List Char}
    (hsuffix : suffix ∈ [[], ['(', ')']]) :
    Fragment.scan (name ++ suffix) = ⟨name, .path⟩ :: suffix.map .ofOperator := by
  have hwords := hname.notWord
  rw [List.mem_append, not_or] at hwords
  obtain ⟨c, cs, hcons, -, hchars⟩ := exists_of_isIdentifier h
  rw [scan_declared (by simp [hcons]) hchars hwords.1 hsuffix,
    hname.toIsIdentifier.classify hwords.2]

private theorem read_path_iff :
    (∃ p, Pipeline.read (String.ofList name) = .ok p ∧ p.base = .path (String.ofList name) []) ↔
      Text.IsReadable name := by
  have hsuffix : [] ∈ [[], ['(', ')']] := List.mem_cons_self
  have hread := read_declared h hsuffix
  rw [List.append_nil] at hread
  rw [hread]
  constructor
  · rintro ⟨p, hp, hbase⟩
    obtain ⟨e, he, rfl⟩ := exists_of_map_eq_ok hp
    by_contra hname
    rw [← List.append_nil name] at he
    obtain ⟨v, rfl | rfl⟩ := ofFragments_of_not_isReadable h hsuffix hname he <;> cases hbase
  · intro hname
    have hscan := scan_of_isReadable h hname hsuffix
    rw [List.append_nil] at hscan
    rw [hscan, List.map_nil, ofFragments_path h]
    exact ⟨_, rfl, rfl⟩

private theorem read_call_iff :
    (∃ p, Pipeline.read (String.ofList (name ++ ['(', ')'])) = .ok p ∧
      p.calledName? = some (String.ofList name)) ↔ Text.IsReadable name := by
  have hsuffix : ['(', ')'] ∈ [[], ['(', ')']] := by decide
  rw [read_declared h hsuffix]
  constructor
  · rintro ⟨p, hp, hcalled⟩
    obtain ⟨e, he, rfl⟩ := exists_of_map_eq_ok hp
    by_contra hname
    obtain ⟨v, rfl | rfl⟩ := ofFragments_of_not_isReadable h hsuffix hname he <;> cases hcalled
  · intro hname
    rw [scan_of_isReadable h hname hsuffix]
    exact ⟨_, congrArg _ (ofFragments_call h), rfl⟩

end

/-! ### What signatures declare -/

namespace Signature

private theorem isIdentifier_readParam {fs : List Fragment} {p : Param}
    (h : readParam fs = .ok p) : isIdentifier p.name.toList = true := by
  rw [readParam] at h
  dsimp only at h
  split at h
  · cases h
  · next hname =>
    rw [Bool.not_eq_true', Bool.not_eq_false] at hname
    split at h
    · cases h
      rwa [String.toList_ofList]
    · split at h
      · cases h
      · obtain ⟨e, -, h⟩ := exists_of_bind_eq_ok h
        cases h
        rwa [String.toList_ofList]

private theorem isIdentifier_readParams {parts : List (List Fragment)} {params : List Param}
    (h : readParams parts = .ok params) : ∀ p ∈ params, isIdentifier p.name.toList = true := by
  induction parts generalizing params with
  | nil =>
    cases h
    exact List.forall_mem_nil _
  | cons part parts ih =>
    rw [readParams] at h
    split at h
    · split at h
      · cases h
        exact List.forall_mem_nil _
      · cases h
    · obtain ⟨p, hp, h⟩ := exists_of_bind_eq_ok h
      obtain ⟨ps, hps, h⟩ := exists_of_bind_eq_ok h
      cases h
      exact List.forall_mem_cons.mpr ⟨isIdentifier_readParam hp, ih hps⟩

/-- A signature declares nothing but identifiers. -/
theorem isIdentifier_of_read {source : String} {s : Signature} (h : read source = .ok s) :
    isIdentifier s.name.toList = true ∧ ∀ p ∈ s.params, isIdentifier p.name.toList = true := by
  obtain ⟨⟨name, args⟩, -, h⟩ := exists_of_bind_eq_ok h
  dsimp only at h
  split at h
  · cases h
  · next hname =>
    rw [Bool.not_eq_true', Bool.not_eq_false] at hname
    split at h
    · obtain rfl : _ = s := Except.ok.inj h
      exact ⟨by rwa [String.toList_ofList], List.forall_mem_nil _⟩
    · obtain ⟨params, hparams, h⟩ := exists_of_bind_eq_ok h
      cases h
      exact ⟨by rwa [String.toList_ofList], isIdentifier_readParams hparams⟩

/-- A parameter is read as the name that it is declared by, and a macro called by its name, exactly
if the name is readable. -/
theorem read_declares {source : String} {s : Signature} (h : read source = .ok s) :
    (∀ p ∈ s.params,
      ((∃ q, Pipeline.read p.name = .ok q ∧ q.base = .path p.name []) ↔
        Text.IsReadable p.name.toList)) ∧
      ((∃ q, Pipeline.read (s.name ++ "()") = .ok q ∧ q.calledName? = some s.name) ↔
        Text.IsReadable s.name.toList) := by
  obtain ⟨hname, hparams⟩ := isIdentifier_of_read h
  refine ⟨fun p hp ↦ ?_, ?_⟩
  · have hpath := read_path_iff (hparams p hp)
    rwa [String.ofList_toList] at hpath
  · have hcall := read_call_iff hname
    have hsource : String.ofList (s.name.toList ++ ['(', ')']) = s.name ++ "()" := by
      rw [String.ofList_append, String.ofList_toList]
    rwa [String.ofList_toList, hsource] at hcall

/-- Names with an underscore in front, and with the words for operators in them. -/
theorem read_declares_readable :
    ∃ s, read "order(_a, nota)" = .ok s ∧
      (∃ q, Pipeline.read "_a" = .ok q ∧ q.base = .path "_a" []) ∧
      (∃ q, Pipeline.read "nota" = .ok q ∧ q.base = .path "nota" []) ∧
      ∃ q, Pipeline.read ("order" ++ "()") = .ok q ∧ q.calledName? = some "order" := by
  have hread : read "order(_a, nota)" = .ok ⟨"order", [⟨"_a", none⟩, ⟨"nota", none⟩]⟩ := rfl
  obtain ⟨hparams, hname⟩ := read_declares hread
  exact ⟨_, hread, (hparams ⟨"_a", none⟩ (by simp)).mpr (by decide),
    (hparams ⟨"nota", none⟩ (by simp)).mpr (by decide), hname.mpr (by decide)⟩

/-- A dollar sign may stand in a declared name, but in no expression. -/
theorem read_declares_dollar :
    read "m($x)" = .ok ⟨"m", [⟨"$x", none⟩]⟩ ∧
      Pipeline.read "$x" = .error (.syntaxError "unexpected `$x`") :=
  ⟨rfl, rfl⟩

end Signature

end Stencil
