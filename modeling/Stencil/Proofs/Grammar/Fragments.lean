import Stencil.Pipeline
import Stencil.Proofs.Scanning.Runs
import Stencil.Proofs.Tokens

/-!
# Fragments of expressions

What is known of the fragments of an expression before it is parsed: they neither begin nor end with
an operator that needs an operand there, brackets are closed, no comma stands outside of them, an
equals sign by itself belongs to a comparison, and no bar stands by itself.
-/

namespace Stencil

private theorem Symbol.not_bracket {b : Symbol} (hb : b ∈ operatorSymbols) :
    b.opens = false ∧ b.closes = false := by
  revert b
  decide

/-- The symbols of operators are followed by operands. -/
theorem Place.after_operator {b : Symbol} (hb : b ∈ operatorSymbols) {p q : Place}
    (h : p.after (.symbol b) = some q) :
    q.turn = .operand ∧ (b ≠ .assign ∧ b ≠ .pipe) ∧ (p.turn = .operand → b.leads = true) := by
  obtain ⟨hopens, hcloses⟩ := Symbol.not_bracket hb
  rw [Place.after, hopens, hcloses] at h
  simp only [Bool.false_eq_true, ↓reduceIte, Place.afterOperator] at h
  split at h
  · cases h
  · cases h
  · split at h
    · cases h
    · next hturn =>
      cases h
      simp only [not_or] at hturn
      exact ⟨rfl, by simp, fun h ↦ absurd h hturn.1⟩
  · next hassign hpipe _ =>
    split at h
    · next hturn =>
      cases h
      refine ⟨rfl, ⟨hassign, hpipe⟩, fun h ↦ hturn.resolve_left ?_⟩
      rw [h]
      simp
    · cases h

private theorem Place.walk_operators {symbols : List Symbol}
    (hall : ∀ b ∈ symbols, b ∈ operatorSymbols) {p q : Place} (hp : p.turn = .operand)
    (h : p.walk (symbols.map .symbol) = some q) : ∀ b ∈ symbols, b.leads = true := by
  induction symbols generalizing p with
  | nil => exact List.forall_mem_nil _
  | cons b bs ih =>
    obtain ⟨hb, hbs⟩ := List.forall_mem_cons.mp hall
    rw [List.map_cons, Place.walk_cons] at h
    obtain ⟨p', hp', h⟩ := Option.bind_eq_some_iff.mp h
    obtain ⟨hturn, -, hleads⟩ := Place.after_operator hb hp'
    exact List.forall_mem_cons.mpr ⟨hleads hp, ih hbs hturn h⟩

private theorem Symbol.text_of_leads {b : Symbol} (h : b.leads = true) :
    b.text = ['!'] ∨ b.text = ['-'] ∨ b.text = ['+'] := by
  cases b <;> cases h <;> simp [Symbol.text]

private theorem mem_of_leads {symbols : List Symbol} (h : ∀ b ∈ symbols, b.leads = true) :
    ∀ c ∈ symbols.flatMap Symbol.text, c ∈ ['!', '-', '+'] := by
  intro c hc
  obtain ⟨b, hb, hc⟩ := List.mem_flatMap.mp hc
  rcases Symbol.text_of_leads (h b hb) with htext | htext | htext <;> simp_all

private theorem Symbol.eq_of_text {b : Symbol} {u w : List Char} (hb : b ≠ .assign)
    (htext : b.text = u ++ '=' :: w) (hu : u.getLast? ≠ some '=') (hw : w.head? ≠ some '=') :
    u = ['<'] ∨ u = ['>'] ∨ u = ['!'] := by
  rcases u with _ | ⟨c, _ | ⟨d, u⟩⟩
  · cases b <;> simp [Symbol.text] at htext hb <;> subst htext <;> simp at hw
  · cases b <;> simp [Symbol.text] at htext hu ⊢ <;> obtain ⟨rfl, rfl⟩ := htext <;> simp at hu hw ⊢
  · cases b <;> simp [Symbol.text] at htext
    all_goals
      obtain ⟨rfl, rfl, htext⟩ := htext
      cases u <;> simp at htext hu

namespace Token

/-- In a run of operators all characters but those of the first symbol stand in front of
operands. -/
theorem exists_symbol_of_cutOperators {u w : List Char} {c : Char} {ts : List Token} {p q : Place}
    (hc : c ∉ ['!', '-', '+']) (h : cutOperators (u ++ c :: w) = .ok ts)
    (hwalk : p.walk ts = some q) :
    ∃ b w₁ w₂, (b ≠ .assign ∧ b ≠ .pipe) ∧ b.text = u ++ c :: w₁ ∧ w = w₁ ++ w₂ ∧
      (∀ d ∈ w₂, d ∈ ['!', '-', '+']) ∧ ∃ more, ts = .symbol b :: more := by
  obtain ⟨symbols, rfl, hs, hall⟩ := exists_of_cutOperators h
  cases symbols with
  | nil => simp at hs
  | cons b bs =>
    obtain ⟨hb, hbs⟩ := List.forall_mem_cons.mp hall
    rw [List.map_cons, Place.walk_cons] at hwalk
    obtain ⟨p', hp', hwalk⟩ := Option.bind_eq_some_iff.mp hwalk
    obtain ⟨hturn, hother, -⟩ := Place.after_operator hb hp'
    have hrest := mem_of_leads (Place.walk_operators hbs hturn hwalk)
    rw [List.flatMap_cons, List.append_eq_append_iff] at hs
    rcases hs with ⟨text, htext, hw⟩ | ⟨text, rfl, hw⟩
    · cases text with
      | nil =>
        rw [List.nil_append] at hw
        exact absurd (hrest c (hw ▸ List.mem_cons_self)) hc
      | cons d text =>
        rw [List.cons_append] at hw
        obtain ⟨rfl, rfl⟩ := List.cons.inj hw
        exact ⟨b, text, _, hother, htext, rfl, hrest, _, rfl⟩
    · rw [hw] at hrest
      exact absurd (hrest c (by simp)) hc

/-- An equals sign by itself is the end of a comparison, in front of which no operator stands. -/
theorem eq_of_cutOperators_assign {u w : List Char} {ts : List Token} {p q : Place}
    (h : cutOperators (u ++ '=' :: w) = .ok ts) (hwalk : p.walk ts = some q)
    (hu : u.getLast? ≠ some '=') (hw : w.head? ≠ some '=') : u = ['<'] ∨ u = ['>'] ∨ u = ['!'] := by
  obtain ⟨b, w₁, w₂, hb, htext, rfl, -⟩ := exists_symbol_of_cutOperators (by decide) h hwalk
  refine Symbol.eq_of_text hb.1 htext hu fun hhead ↦ hw ?_
  rw [List.head?_append, hhead]
  rfl

private theorem eq_of_cutOperators_bar {u w : List Char} {ts : List Token} {p q : Place}
    (h : cutOperators (u ++ '|' :: w) = .ok ts) (hwalk : p.walk ts = some q) :
    u = ['|'] ∨ u = [] ∧ ∃ w', w = '|' :: w' ∧ '|' ∉ w' := by
  obtain ⟨b, w₁, w₂, hb, htext, rfl, hw, -⟩ := exists_symbol_of_cutOperators (by decide) h hwalk
  have hbars : ['|', '|'] = u ++ '|' :: w₁ := by
    rw [← htext]
    have hmem : '|' ∈ b.text := by simp [htext]
    cases b <;> simp [Symbol.text] at hmem hb ⊢
  rcases u with _ | ⟨c, _ | ⟨d, u⟩⟩
  · refine .inr ⟨rfl, w₂, ?_, fun hmem ↦ absurd (hw _ hmem) (by decide)⟩
    cases hbars
    rfl
  · cases hbars
    exact .inl rfl
  · simp at hbars

end Token

/-! ### Open brackets -/

/-- The brackets that are open behind brackets and commas, each by the one that closes it, unless a
comma stands outside of all. -/
def closingAfter (closing : List Char) : List Char → Option (List Char)
  | [] => some closing
  | c :: cs =>
    if isBracket c then closingAfter (Signature.bracketsAfter closing [c]) cs
    else if closing.isEmpty then none
    else closingAfter closing cs

private theorem closingAfter_marks {p q : Place} {t : Token} (h : p.after t = some q)
    (cs : List Char) : closingAfter p.closing (t.marks ++ cs) = closingAfter q.closing cs := by
  cases t with
  | symbol b =>
    cases b with
    | comma =>
      simp only [Place.after, Symbol.opens, Symbol.closes, Bool.false_eq_true, ↓reduceIte,
        Place.afterOperator] at h
      split at h
      · cases h
      · next hcomma =>
        cases h
        have hclosing : p.closing.isEmpty = false := by simp_all
        change (if p.closing.isEmpty then none else closingAfter p.closing cs) = _
        rw [hclosing]
        rfl
    | parenOpen | parenClose | bracketOpen | bracketClose | braceOpen | braceClose =>
      cases h
      rfl
    | assign | pipe => cases h
    | _ =>
      simp only [Place.after, Symbol.opens, Symbol.closes, Bool.false_eq_true, ↓reduceIte,
        Place.afterOperator] at h
      split at h <;> cases h
      rfl
  | _ =>
    cases h
    rfl

private theorem closingAfter_flatMap_marks {p q : Place} {ts : List Token}
    (h : p.walk ts = some q) :
    closingAfter p.closing (ts.flatMap Token.marks) = some q.closing := by
  induction ts generalizing p with
  | nil =>
    cases h
    rfl
  | cons t ts ih =>
    rw [Place.walk_cons] at h
    obtain ⟨p', hp', h⟩ := Option.bind_eq_some_iff.mp h
    rw [List.flatMap_cons, closingAfter_marks hp', ih h]

/-! ### Operators in runs -/

/-- Fragments that make up tokens, behind operator characters that end with the last fragment. -/
private structure Reads (pending : List Char) (last : Option Fragment) (fs : List Fragment)
    (p : Place) : Prop where
  /-- The tokens follow the rules. -/
  tokens : ∃ ts q, Token.ofFragmentsAfter pending fs = .ok ts ∧ p.walk ts = some q
  /-- The operator characters end with the last fragment. -/
  pending : pending ≠ [] → ∃ g u, last = some g ∧ g.kind = .operator ∧ g.text ≠ [] ∧
    pending = u ++ g.text
  /-- Operators are apart. -/
  apart : Fragment.Apart (last.toList ++ fs)

section

variable {pending : List Char} {last : Option Fragment} {f : Fragment} {fs : List Fragment}
  {p : Place}

private theorem Reads.tail_of_isJoined (h : Reads pending last (f :: fs) p)
    (hf : Token.isJoined f = true) : Reads (pending ++ f.text) (some f) fs p := by
  obtain ⟨ts, q, hts, hwalk⟩ := h.tokens
  rw [Token.ofFragmentsAfter, if_pos hf] at hts
  exact ⟨⟨ts, q, hts, hwalk⟩,
    fun _ ↦ ⟨f, pending, rfl, Token.kind_of_isJoined hf, Token.text_ne_nil_of_isJoined hf, rfl⟩,
    (List.isChain_append.mp h.apart).2.1⟩

private theorem Reads.tail (h : Reads pending last (f :: fs) p) :
    ∃ pending p, Reads pending (some f) fs p := by
  by_cases hf : Token.isJoined f = true
  · exact ⟨_, p, h.tail_of_isJoined hf⟩
  · obtain ⟨ts, q, hts, hwalk⟩ := h.tokens
    rw [Token.ofFragmentsAfter, if_neg hf] at hts
    obtain ⟨operators, -, hts⟩ := exists_of_bind_eq_ok hts
    obtain ⟨here, -, hts⟩ := exists_of_bind_eq_ok hts
    obtain ⟨rest, hrest, hts⟩ := exists_of_bind_eq_ok hts
    cases hts
    rw [Place.walk_append] at hwalk
    obtain ⟨p', -, hwalk⟩ := Option.bind_eq_some_iff.mp hwalk
    exact ⟨[], p', ⟨rest, q, hrest, hwalk⟩, fun hne ↦ absurd rfl hne,
      (List.isChain_append.mp h.apart).2.1⟩

private theorem Reads.behind {before : List Fragment} (h : Reads pending last (before ++ fs) p) :
    ∃ pending last p, Reads pending last fs p := by
  induction before generalizing pending last p with
  | nil => exact ⟨_, _, _, h⟩
  | cons f before ih =>
    obtain ⟨pending', p', htail⟩ := h.tail
    exact ih htail

private theorem Reads.exists_run (h : Reads pending last (f :: fs) p)
    (hf : Token.isJoined f = true) :
    ∃ ts q, Token.cutOperators (pending ++
        (f.text ++ Fragment.joinText (fs.takeWhile Token.isJoined))) = .ok ts ∧
      p.walk ts = some q := by
  obtain ⟨ts, q, hts, hwalk⟩ := h.tokens
  obtain ⟨operators, more, hcut, -, rfl⟩ := Token.ofFragmentsAfter_eq_ok.mp hts
  rw [List.takeWhile_cons_of_pos hf, Fragment.joinText, List.flatMap_cons] at hcut
  rw [Place.walk_append] at hwalk
  obtain ⟨q', hoperators, -⟩ := Option.bind_eq_some_iff.mp hwalk
  exact ⟨operators, q', hcut, hoperators⟩

private theorem exists_of_joinText {c : Char} {cs : List Char}
    (h : Fragment.joinText (fs.takeWhile Token.isJoined) = c :: cs) :
    ∃ g gs, fs = g :: gs ∧ g.kind = .operator ∧ g.text.head? = some c ∧ g.text <+: c :: cs := by
  cases fs with
  | nil => simp [Fragment.joinText] at h
  | cons g gs =>
    by_cases hg : Token.isJoined g = true
    · rw [List.takeWhile_cons_of_pos hg, Fragment.joinText, List.flatMap_cons] at h
      refine ⟨g, gs, rfl, Token.kind_of_isJoined hg, ?_, h ▸ List.prefix_append _ _⟩
      rw [← List.head?_append_of_ne_nil _ (Token.text_ne_nil_of_isJoined hg), h]
      rfl
    · rw [List.takeWhile_cons_of_neg hg] at h
      simp [Fragment.joinText] at h

end

/-! ### Equals signs -/

/-- Whether every equals sign by itself makes a comparison of the fragment in front of it. -/
def EqualsCompare (last : Option Fragment) : List Fragment → Prop
  | [] => True
  | f :: fs =>
    (f.isOperator ['='] = true → ∃ g, last = some g ∧ AttributeList.isComparisonStart g = true) ∧
      EqualsCompare (some f) fs

section

variable {pending : List Char} {last : Option Fragment} {f : Fragment} {fs : List Fragment}
  {p : Place}

private theorem Reads.pending_eq (h : Reads pending last (f :: fs) p)
    (hf : f.isOperator ['='] = true) : pending = ['<'] ∨ pending = ['>'] ∨ pending = ['!'] := by
  obtain ⟨text, kind⟩ := f
  simp only [Fragment.isOperator, Bool.and_eq_true, beq_iff_eq] at hf
  obtain ⟨rfl, rfl⟩ := hf
  obtain ⟨ts, q, hcut, hwalk⟩ := h.exists_run rfl
  have hpending : pending.getLast? ≠ some '=' := by
    by_cases hne : pending = []
    · simp [hne]
    · obtain ⟨g, u, rfl, hg, htext, rfl⟩ := h.pending hne
      rw [List.getLast?_append_of_ne_nil _ htext]
      exact h.apart.assign hg rfl rfl
  have hrun : (Fragment.joinText (fs.takeWhile Token.isJoined)).head? ≠ some '=' := by
    intro hhead
    obtain ⟨cs, hcs⟩ := List.head?_eq_some_iff.mp hhead
    obtain ⟨g, gs, rfl, hg, htext, -⟩ := exists_of_joinText hcs
    have hbehind : Fragment.Apart (_ :: g :: gs) := (List.isChain_append.mp h.apart).2.1
    exact hbehind.assign rfl hg htext rfl
  exact Token.eq_of_cutOperators_assign hcut hwalk hpending hrun

-- An equals sign by itself in a run belongs to the operator in front of it.
private theorem Reads.isComparisonStart (h : Reads pending last (f :: fs) p)
    (hf : f.isOperator ['='] = true) :
    ∃ g, last = some g ∧ AttributeList.isComparisonStart g = true := by
  have hcompare := h.pending_eq hf
  have hne : pending ≠ [] := by
    rcases hcompare with rfl | rfl | rfl <;> simp
  obtain ⟨g, u, hg, hkind, htext, hu⟩ := h.pending hne
  refine ⟨g, hg, ?_⟩
  obtain ⟨gtext, gkind⟩ := g
  cases hkind
  rcases hcompare with rfl | rfl | rfl <;>
    obtain ⟨rfl, rfl⟩ | ⟨rfl, hnil⟩ := List.append_eq_singleton_iff.mp hu.symm
  all_goals first | rfl | exact absurd hnil htext

private theorem Reads.equalsCompare (h : Reads pending last fs p) : EqualsCompare last fs := by
  induction fs generalizing pending last p with
  | nil => trivial
  | cons f fs ih =>
    obtain ⟨pending', p', htail⟩ := h.tail
    exact ⟨h.isComparisonStart, ih htail⟩

/-! ### Bars -/

private theorem not_standsAlone_bar : ¬Fragment.StandsAlone ['|'] := by
  rintro (⟨c, hc, halone⟩ | halone | halone) <;>
    obtain ⟨hchar, hrest⟩ := List.cons_prefix_cons.mp halone
  · subst hchar
    cases hc
  · exact absurd (List.prefix_nil.mp hrest) (List.cons_ne_nil _ _)
  · cases hchar

private theorem Reads.isBar_eq_false (h : Reads pending last (f :: fs) p) :
    Pipeline.isBar f = false := by
  rw [Bool.eq_false_iff]
  intro hf
  obtain ⟨text, kind⟩ := f
  simp only [Pipeline.isBar, Fragment.isOperator, Bool.and_eq_true, beq_iff_eq] at hf
  obtain ⟨rfl, rfl⟩ := hf
  obtain ⟨ts, q, hcut, hwalk⟩ := h.exists_run rfl
  rcases Token.eq_of_cutOperators_bar hcut hwalk with rfl | ⟨-, w, hw, hbar⟩
  · -- The other bar would stand in front.
    obtain ⟨g, u, rfl, hg, htext, hu⟩ := h.pending (by simp)
    obtain ⟨-, hgtext⟩ | ⟨-, hnil⟩ := List.append_eq_singleton_iff.mp hu.symm
    · have halone := (List.isChain_cons_cons.mp h.apart).1 hg rfl (by rw [hgtext]; rfl)
      exact not_standsAlone_bar halone
    · exact absurd hnil htext
  · -- The other bar would stand behind.
    obtain ⟨g, gs, rfl, hg, hhead, hinit⟩ := exists_of_joinText hw
    have hbehind : Fragment.Apart (_ :: g :: gs) := (List.isChain_append.mp h.apart).2.1
    have halone := (List.isChain_cons_cons.mp hbehind).1 rfl hg hhead.symm
    rcases halone with ⟨c, hc, halone⟩ | halone | halone <;>
      obtain ⟨hchar, hrest⟩ := List.cons_prefix_cons.mp (halone.trans hinit)
    · subst hchar
      cases hc
    · exact hbar (hrest.subset List.mem_cons_self)
    · cases hchar

private theorem Reads.forall_isBar (h : Reads pending last fs p) :
    ∀ f ∈ fs, Pipeline.isBar f = false := by
  induction fs generalizing pending last p with
  | nil => exact List.forall_mem_nil _
  | cons f fs ih =>
    obtain ⟨pending', p', htail⟩ := h.tail
    exact List.forall_mem_cons.mpr ⟨h.isBar_eq_false, ih htail⟩

/-! ### Commas -/

private theorem Reads.eq_comma (h : Reads pending last (f :: fs) p) (hkind : f.kind = .operator)
    (hrun : f.IsRun) (hmem : ',' ∈ f.text) : f = .ofOperator ',' := by
  have hf := Token.isJoined_of_mem hkind hmem (by decide) (by decide)
  obtain ⟨text, kind⟩ := f
  cases hkind
  obtain ⟨d, n, rfl⟩ := hrun rfl
  obtain rfl : ',' = d := List.eq_of_mem_replicate hmem
  obtain ⟨ts, q, hcut, hwalk⟩ := h.exists_run hf
  rw [List.replicate_succ, List.cons_append] at hcut
  obtain ⟨b, w₁, w₂, -, hb, hrest, hall, -⟩ :=
    Token.exists_symbol_of_cutOperators (by decide) hcut hwalk
  have hcomma : ',' ∈ b.text := by simp [hb]
  obtain rfl : b = .comma := by cases b <;> simp [Symbol.text] at hcomma ⊢
  obtain ⟨-, hw₁⟩ : pending = [] ∧ w₁ = [] := by
    have hlength := congrArg List.length hb
    simp only [Symbol.text, List.length_append, List.length_cons, List.length_nil] at hlength
    exact ⟨List.length_eq_zero_iff.mp (by omega), List.length_eq_zero_iff.mp (by omega)⟩
  cases n with
  | zero => rfl
  | succ n =>
    -- A second comma would stand where an operand is due.
    rw [hw₁, List.replicate_succ, List.cons_append, List.nil_append] at hrest
    exact absurd (hall ',' (hrest ▸ List.mem_cons_self)) (by decide)

end

/-! ### Fragments of expressions -/

namespace Expr

variable {fs : List Fragment} {e : Expr}

/-- The tokens of an expression follow the rules, and regular expressions among them are valid. -/
theorem exists_tokens (h : ofFragments fs = .ok e) :
    ∃ ts, Token.ofFragments fs = .ok ts ∧
      Place.walk ⟨.operand, []⟩ ts = some ⟨.operator, []⟩ ∧ ∀ t ∈ ts, t.RegexIsValid := by
  obtain ⟨ts, hts, h⟩ := exists_of_bind_eq_ok h
  obtain ⟨n, -, hderives⟩ := derives_of_ofTokens h
  exact ⟨ts, hts, hderives.takesTurns [], hderives.regexIsValid⟩

/-- Spaces at the ends make no difference to an expression. -/
theorem ofFragments_trimSpaces (fs : List Fragment) :
    ofFragments (Fragment.trimSpaces fs) = ofFragments fs := by
  rw [ofFragments, ofFragments, Token.ofFragments_trimSpaces]

/-- An expression does not consist of spaces. -/
theorem all_isSpace_eq_false (h : ofFragments fs = .ok e) : fs.all Fragment.isSpace = false := by
  rw [Bool.eq_false_iff]
  intro hall
  have hts := Token.ofFragments_spaces_append (List.all_eq_true.mp hall) []
  rw [List.append_nil] at hts
  rw [ofFragments, hts] at h
  cases h

/-- An operator in front of an expression is a space, a bracket, or takes the operand behind it. -/
theorem head_of_ofFragments {f : Fragment} (h : ofFragments (f :: fs) = .ok e)
    (hkind : f.kind = .operator) {c : Char} {cs : List Char} (htext : f.text = c :: cs) :
    c = ' ' ∨ isBracket c = true ∨ c ∈ ['!', '-', '+'] := by
  obtain ⟨ts, hts, hwalk, -⟩ := exists_tokens h
  by_cases hf : Token.isJoined f = true
  · obtain ⟨operators, more, hcut, -, rfl⟩ := Token.ofFragmentsAfter_eq_ok.mp hts
    obtain ⟨symbols, rfl, hs, hall⟩ := Token.exists_of_cutOperators hcut
    rw [Place.walk_append] at hwalk
    obtain ⟨p, hp, -⟩ := Option.bind_eq_some_iff.mp hwalk
    have hleads := Place.walk_operators hall rfl hp
    rw [List.takeWhile_cons_of_pos hf, Fragment.joinText, List.flatMap_cons, htext] at hs
    cases symbols with
    | nil => cases hs
    | cons b bs =>
      rw [List.flatMap_cons] at hs
      rcases Symbol.text_of_leads (hleads b List.mem_cons_self) with hb | hb | hb <;>
        rw [hb] at hs <;> simp [(List.cons.inj hs).1]
  · have hspace : f.isSpace = true ∨ ∃ t, Token.bracket? f.text = some t := by
      rw [← Option.isSome_iff_exists]
      cases hb : Token.bracket? f.text <;> simp_all [Token.isJoined]
    rcases hspace with hspace | ⟨t, ht⟩
    · simp_all [Fragment.isSpace]
    · right
      left
      obtain ⟨d, hd, hbracket⟩ := Token.exists_of_bracket? ht
      rw [htext] at hd
      cases hd
      exact hbracket

/-- No operator ends an expression. -/
theorem not_isJoined_of_ofFragments {f : Fragment} (h : ofFragments (fs ++ [f]) = .ok e) :
    Token.isJoined f = false := by
  rw [Bool.eq_false_iff]
  intro hf
  obtain ⟨ts, hts, hwalk, -⟩ := exists_tokens h
  obtain ⟨before, b, hb, rfl, -⟩ := Token.exists_last_of_isJoined hf hts
  rw [Place.walk_append] at hwalk
  obtain ⟨p, -, hp⟩ := Option.bind_eq_some_iff.mp hwalk
  rw [Place.walk_cons] at hp
  obtain ⟨q, hq, hp⟩ := Option.bind_eq_some_iff.mp hp
  have hturn := (Place.after_operator hb hq).1
  cases hp
  cases hturn

/-- No comma touches another one in an expression. -/
theorem eq_comma_of_ofFragments {f : Fragment} (h : ofFragments fs = .ok e)
    (hapart : Fragment.Apart fs) (hmem : f ∈ fs) (hkind : f.kind = .operator) (hrun : f.IsRun)
    (hcomma : ',' ∈ f.text) : f = .ofOperator ',' := by
  obtain ⟨before, after, rfl⟩ := List.append_of_mem hmem
  obtain ⟨ts, hts, hwalk, -⟩ := exists_tokens h
  have hreads : Reads [] none _ ⟨.operand, []⟩ :=
    ⟨⟨ts, _, hts, hwalk⟩, fun hne ↦ absurd rfl hne, hapart⟩
  obtain ⟨pending, last, p, hbehind⟩ := hreads.behind
  exact hbehind.eq_comma hkind hrun hcomma

/-- Brackets are closed in an expression, and no comma stands outside of them. -/
theorem closingAfter_of_ofFragments (h : ofFragments fs = .ok e) :
    closingAfter [] (fs.flatMap Fragment.marks) = some [] := by
  obtain ⟨ts, hts, hwalk, -⟩ := exists_tokens h
  have hmarks := Token.flatMap_marks hts
  rw [List.filter_nil, List.nil_append] at hmarks
  rw [← hmarks]
  exact closingAfter_flatMap_marks hwalk

/-- Every equals sign by itself in an expression makes a comparison. -/
theorem equalsCompare_of_ofFragments {last : Option Fragment} (h : ofFragments fs = .ok e)
    (hapart : Fragment.Apart (last.toList ++ fs)) : EqualsCompare last fs := by
  obtain ⟨ts, hts, hwalk, -⟩ := exists_tokens h
  exact Reads.equalsCompare ⟨⟨ts, _, hts, hwalk⟩, fun hne ↦ absurd rfl hne, hapart⟩

/-- The operator that an equals sign makes a comparison of touches no operator in front of it. -/
theorem ofFragments_ne_ok_of_operators {before after : List Fragment} {f g : Fragment}
    (hapart : Fragment.Apart (before ++ f :: g :: .ofOperator '=' :: after))
    (hf : Token.isJoined f = true) (hg : Token.isJoined g = true) :
    ofFragments (before ++ f :: g :: .ofOperator '=' :: after) ≠ .ok e := by
  intro h
  obtain ⟨ts, hts, hwalk, -⟩ := exists_tokens h
  have hreads : Reads [] none _ ⟨.operand, []⟩ :=
    ⟨⟨ts, _, hts, hwalk⟩, fun hne ↦ absurd rfl hne, hapart⟩
  obtain ⟨pending, last, p, hbehind⟩ := hreads.behind
  have hcompare := ((hbehind.tail_of_isJoined hf).tail_of_isJoined hg).pending_eq rfl
  have hlength : (pending ++ f.text ++ g.text).length = 1 := by
    rcases hcompare with h | h | h <;> rw [h] <;> rfl
  have hfpos := List.length_pos_iff.mpr (Token.text_ne_nil_of_isJoined hf)
  have hgpos := List.length_pos_iff.mpr (Token.text_ne_nil_of_isJoined hg)
  rw [List.length_append, List.length_append] at hlength
  omega

/-- No bar stands by itself in an expression. -/
theorem isBar_of_ofFragments (h : ofFragments fs = .ok e) (hapart : Fragment.Apart fs) :
    ∀ f ∈ fs, Pipeline.isBar f = false := by
  obtain ⟨ts, hts, hwalk, -⟩ := exists_tokens h
  have hreads : Reads [] none fs ⟨.operand, []⟩ :=
    ⟨⟨ts, _, hts, hwalk⟩, fun hne ↦ absurd rfl hne, hapart⟩
  exact hreads.forall_isBar

end Expr

end Stencil
