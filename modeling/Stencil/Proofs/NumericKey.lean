import Stencil.Proofs.Literal.Numeral
import Stencil.Proofs.Literal.RoundTrip
import Stencil.Proofs.Scanning.Blanks
import Stencil.Proofs.Scanning.Keys

/-!
# Numbers as keys of maps

The item of a map under a number is the one under the text of the number. A number in front of a
colon is a key with this text, too, unless it is a word with the mark of an exponent: such a word is
a path to a scan, and as the key of a map it keeps its spelling. Main statement: `eval_keyed`.
-/

namespace Stencil

open Fragment (IsNumberIn)

/-- The source that reads the item of a map with one entry under what the key is written as. -/
def Text.keyed (key source : List Char) : List Char :=
  '\x7b' :: key ++ [':', ' '] ++ source ++ ['\x7d', '['] ++ key ++ [']']

variable {n source : List Char} {e whole : Expr} {v : Value}

private theorem Text.keyed_eq (key source : List Char) : Text.keyed key source =
    ('\x7b' :: key ++ [':']) ++ ' ' :: source ++ '\x7d' :: '[' :: key ++ [']'] := by
  simp [Text.keyed]

private theorem Scanner.exists_mode_regex {s : Scanner} {cs : List Char}
    (h : ∃ escaped, s.mode = .regex escaped) (hcs : '/' ∉ cs) :
    ∃ escaped, (cs.foldl Scanner.step s).mode = .regex escaped := by
  induction cs generalizing s with
  | nil => exact h
  | cons c cs ih =>
    obtain ⟨escaped, h⟩ := h
    obtain ⟨hc, hcs⟩ := not_or.mp (List.mem_cons.not.mp hcs)
    refine ih ⟨c == '\\' && !escaped, ?_⟩ hcs
    rw [Scanner.step, h]
    simp [Scanner.extend, Ne.symm hc]

namespace Expr.IsReadFrom

/-! ### What stands in front of the colon -/

private theorem not_keyed_of_group {before after : List Fragment} (h : e.IsReadFrom n)
    (hends : (n.foldl Scanner.step {}).mode.Ends)
    (hscan : Fragment.scan n = before ++ .ofOperator '(' :: after)
    (hbefore : ∀ g ∈ before, g.isSpace = true) : ¬whole.IsReadFrom (Text.keyed n source) := by
  intro hwhole
  have hkeyed : Text.keyed n source =
      '\x7b' :: n ++ ':' :: ' ' :: (source ++ ['\x7d', '['] ++ n ++ [']']) := by
    simp [Text.keyed]
  obtain ⟨gs, more, hmore, hgs⟩ := h.exists_scan_colon hends
    (' ' :: (source ++ ['\x7d', '['] ++ n ++ [']']))
  rw [hscan] at hgs
  obtain ⟨before', rest, rfl, hfront, hrest⟩ := hgs.exists_append
  cases hrest with
  | @cons _ g _ rest hg _ =>
    obtain rfl : g = .ofOperator '(' := hg.eq_ofOperator
    have hspaces : ∀ g ∈ before', g.isSpace = true :=
      hfront.forall_mem (fun f g hfg hf ↦ hfg.isSpace.trans hf) hbefore
    have hbrace : Token.ofFragment (.ofOperator '\x7b') = .ok [.symbol .braceOpen] := rfl
    have hparen : Token.ofFragment (.ofOperator '(') = .ok [.symbol .parenOpen] := rfl
    rw [IsReadFrom, hkeyed, hmore, Expr.ofFragments, List.cons_append,
      Token.ofFragments_cons rfl hbrace, List.append_assoc,
      Token.ofFragments_spaces_append hspaces, List.cons_append,
      Token.ofFragments_cons rfl hparen] at hwhole
    cases hts : Token.ofFragments (rest ++ more) with
    | error error =>
      rw [hts] at hwhole
      cases hwhole
    | ok ts =>
      rw [hts] at hwhole
      cases hwhole

/-! ### Scanning -/

section

variable {fs : List Fragment}

-- Between the braces and the bracket at the end, no regular expression could be closed.
private theorem not_leavesRegexOpen_value (h : e.IsReadFrom source)
    (hkey : (('\x7b' :: n ++ [':']).foldl Scanner.step {}).Rests (fs ++ [.ofOperator ':']))
    (hslash : '/' ∉ n) (hwhole : whole.IsReadFrom (Text.keyed n source)) :
    ¬Text.LeavesRegexOpen source := by
  rintro ⟨escaped, hopen⟩
  obtain ⟨hspace, hmode⟩ := h.space_cons
  obtain ⟨hmode', -⟩ := hkey.foldl_source (by decide) hspace
  have hrest : '/' ∉ '\x7d' :: '[' :: n := by simpa using hslash
  obtain ⟨escaped', hregex⟩ :=
    Scanner.exists_mode_regex ⟨escaped, hmode'.trans (hmode.trans hopen)⟩ hrest
  rw [IsReadFrom, Fragment.scan, Text.keyed_eq, List.foldl_append, List.foldl_append,
    List.foldl_append] at hwhole
  exact mode_ne_regex hwhole (by decide) (by decide) escaped' hregex

private theorem scan_keyed
    (hkey : (('\x7b' :: n ++ [':']).foldl Scanner.step {}).Rests (fs ++ [.ofOperator ':']))
    (h : e.IsReadFrom (' ' :: source))
    (hends : ((' ' :: source).foldl Scanner.step {}).mode.Ends)
    (hn : (Expr.const v).IsReadFrom n) (hnends : (n.foldl Scanner.step {}).mode.Ends) :
    Fragment.scan (Text.keyed n source) =
      fs ++ .ofOperator ':' :: (Fragment.scan (' ' :: source) ++ .ofOperator '\x7d' ::
        .ofOperator '[' :: (Fragment.scan n ++ [.ofOperator ']'])) := by
  obtain ⟨hmode, hrests⟩ := hkey.foldl_source (by decide) h
  have hbrace := hrests.step_symbol (hmode ▸ hends) (c := '\x7d') (by decide)
    (Scanner.continues_of_isBracket rfl _)
  have hbracket := hbrace.step (c := '[') (by decide) (by decide)
    (Scanner.continues_of_isBracket rfl _)
  obtain ⟨hmode', hrests'⟩ := hbracket.foldl_source (by decide) hn
  have hclose := hrests'.step_symbol (hmode' ▸ hnends) (c := ']') (by decide)
    (Scanner.continues_of_isBracket rfl _)
  rw [Fragment.scan, Text.keyed_eq, List.foldl_append, List.foldl_append, List.foldl_append]
  change (Scanner.step _ ']').finish.fragments.toList = _
  rw [List.foldl_cons, List.foldl_cons, hclose.finish, hclose.fragments]
  simp

end

end Expr.IsReadFrom

/-! ### Tokens -/

private theorem Fragment.IsNumberIn.ofFragments {before after : List Fragment} {f : Fragment}
    {t : Token} (h : IsNumberIn n before f after t v) :
    Token.ofFragments (Fragment.scan n) = .ok [t] := by
  have hjoined : Token.isJoined f = false := by simp [Token.isJoined, h.word.kind_ne.1]
  have hspaces := Token.ofFragments_spaces_append h.after []
  rw [List.append_nil] at hspaces
  rw [h.scan, Token.ofFragments_spaces_append h.before, Token.ofFragments_cons hjoined h.token,
    hspaces]
  rfl

private theorem Token.ofFragments_keyed {before after values : List Fragment} {f key : Fragment}
    {t k : Token} {ts : List Token} (h : IsNumberIn n before f after t v)
    (hkey : Token.isJoined key = false) (hk : Token.ofFragment key = .ok [k])
    (hts : Token.ofFragments values = .ok ts)
    (hlast : ∃ front g, values = front ++ [g] ∧ Token.isJoined g = false)
    (hlast' : ∃ front g, Fragment.scan n = front ++ [g] ∧ Token.isJoined g = false) :
    Token.ofFragments (.ofOperator '\x7b' :: before ++ key :: after ++ .ofOperator ':' ::
      (values ++ .ofOperator '\x7d' :: .ofOperator '[' ::
        (Fragment.scan n ++ [.ofOperator ']']))) =
      .ok (.symbol .braceOpen :: k :: .symbol .colon :: ts ++
        [.symbol .braceClose, .symbol .bracketOpen, t, .symbol .bracketClose]) := by
  obtain ⟨front, g, rfl, hg⟩ := hlast
  obtain ⟨front', g', hscan, hg'⟩ := hlast'
  have hbracket : Token.ofFragments (.ofOperator '[' :: (Fragment.scan n ++ [.ofOperator ']'])) =
      .ok [.symbol .bracketOpen, t, .symbol .bracketClose] := by
    have hopen : Token.ofFragment (.ofOperator '[') = .ok [.symbol .bracketOpen] := rfl
    have hn := h.ofFragments
    rw [hscan] at hn ⊢
    rw [Token.ofFragments_cons rfl hopen, Token.ofFragments_append hg' hn]
    rfl
  have hclose : Token.ofFragment (.ofOperator '\x7d') = .ok [.symbol .braceClose] := rfl
  have hopen : Token.ofFragment (.ofOperator '\x7b') = .ok [.symbol .braceOpen] := rfl
  rw [List.cons_append, List.cons_append, Token.ofFragments_cons rfl hopen, List.append_assoc,
    Token.ofFragments_spaces_append h.before, List.cons_append, Token.ofFragments_cons hkey hk,
    Token.ofFragments_spaces_append h.after,
    Token.ofFragments_separator_cons (b := .colon) (by decide) rfl,
    Token.ofFragments_append hg hts, Token.ofFragments_cons rfl hclose, hbracket]
  simp [Except.map]

private theorem Fragment.IsNumberIn.exists_key {before after : List Fragment} {f : Fragment}
    {t : Token} (h : IsNumberIn n before f after t v) :
    ∃ k key, Token.isJoined f.asKey = false ∧ Token.ofFragment f.asKey = .ok [k] ∧ Key k key ∧
      (key = v.display ↔ n.any Number.isExponentMark = false) := by
  have hmark := h.any_isExponentMark
  have htoken := h.token
  have hword := h.word.any_isExponentMark h.value
  cases h.word with
  | literal => exact ⟨t, v.display, rfl, htoken, h.value.key, iff_of_true rfl hmark⟩
  | @path text =>
    refine ⟨_, _, rfl, rfl, .objectKey text, iff_of_false (fun heq ↦ ?_) (by simp [hmark])⟩
    have hdisplay := Value.isExponentMark_display h.value.kind
    rw [← heq, String.toList_ofList] at hdisplay
    rw [hdisplay] at hword
    cases hword

/-! ### Lookup -/

private theorem eval_item_singleton (s : Setting) (key : String) (e : Expr)
    (hv : v.kind = .number) :
    (Expr.item (.map [(key, e)]) (.const v)).eval s =
      if key = v.display then e.eval s else do let _ ← e.eval s; return .undefined := by
  have hitem (x : Value) : (Value.ofTable (Table.empty.insert key x)).item v =
      .ok (if key = v.display then x else .undefined) := by
    have hproperty : (Value.ofTable (Table.empty.insert key x)).item v =
        .ok (((Value.ofTable (Table.empty.insert key x)).property? v.display).getD .undefined) := by
      cases v with
      | int n => rfl
      | float x => rfl
      | undefined | null | bool | text | seq | map | regex => cases hv
    rw [hproperty, Value.ofTable, Value.property?, Rows.entries_ofList]
    change Except.ok ((Entries.get? v.display [(key, x)]).getD .undefined) = _
    rw [Entries.get?, Entries.get?]
    split <;> rfl
  rw [Expr.eval, Expr.eval, Expr.eval, Expr.evalEntries]
  simp only [Expr.evalEntries, bind_assoc, pure_bind, hitem]
  split <;> simp [Action.ofExcept]

private theorem exists_eq_item (hn : (Expr.const v).IsReadFrom n) (hv : v.kind = .number)
    (he : e.IsReadFrom source) (hwhole : whole.IsReadFrom (Text.keyed n source)) :
    ∃ key, whole = .item (.map [(key, e)]) (.const v) ∧
      (key = v.display ↔ n.any Number.isExponentMark = false) := by
  have hnends := hn.ends (hn.not_leavesRegexOpen (by simp [hv]))
  obtain ⟨before, f, after, t, h⟩ | ⟨before, after, hscan, hbefore⟩ := hn.number_cases hv
  · have hword : f.isWord = true := by simpa [Fragment.isWord] using h.word.kind_ne.1
    have hcolon := hn.rests_key hnends h.scan h.before h.after hword
    obtain ⟨hspace, hmode⟩ := he.space_cons
    have hends : ((' ' :: source).foldl Scanner.step {}).mode.Ends :=
      hmode ▸ he.ends (he.not_leavesRegexOpen_value hcolon h.slash_notMem hwhole)
    obtain ⟨k, key, hjoined, hk, hkey, hdisplay⟩ := h.exists_key
    obtain ⟨ts, hts, hvalue⟩ := exists_of_bind_eq_ok hspace
    have htokens := Token.ofFragments_keyed h hjoined hk hts hspace.exists_last hn.exists_last
    obtain ⟨ts', hts', hwhole⟩ := exists_of_bind_eq_ok hwhole
    rw [Expr.IsReadFrom.scan_keyed hcolon hspace hends hn hnends, htokens] at hts'
    cases hts'
    obtain ⟨m, -, hvalue⟩ := Expr.derives_of_ofTokens hvalue
    obtain ⟨m', -, hwhole⟩ := Expr.derives_of_ofTokens hwhole
    have hindex : Derives (.item .expression) 2 [t] (.const v) :=
      .expression_of_primary (.atom h.value.atom)
    have hitem := Derives.expression_of_operand
      (.access (.index (.primary (.map (.row (.one (.entry hkey hvalue))))) hindex))
    rw [List.append_assoc, List.append_assoc] at hitem
    exact ⟨key, Expr.eq_of_derives hwhole hitem, hdisplay⟩
  · exact absurd hwhole (hn.not_keyed_of_group hnends hscan hbefore)

/-- A number finds what it is the key of: where a source is a numeric constant, and a map from it to
an expression is read with the item under it, this is evaluated as the expression in every scope.
The exception are numbers with the mark of an exponent, which never find it. -/
theorem eval_keyed (hn : (Expr.const v).IsReadFrom n) (hv : v.kind = .number)
    (he : e.IsReadFrom source) (hwhole : whole.IsReadFrom (Text.keyed n source)) (s : Setting) :
    whole.eval s =
      if n.any Number.isExponentMark then do let _ ← e.eval s; return .undefined
      else e.eval s := by
  obtain ⟨key, rfl, hkey⟩ := exists_eq_item hn hv he hwhole
  rw [eval_item_singleton s key e hv]
  by_cases hmark : n.any Number.isExponentMark = false
  · rw [if_pos (hkey.mpr hmark), if_neg (by simp [hmark])]
  · rw [if_neg (hkey.not.mpr hmark), if_pos (by simpa using hmark)]

/-- Zeros in front of a number are lost in the key as they are in the number. -/
theorem eval_keyed_zeros :
    (Expr.const (.int 7)).IsReadFrom "007".toList ∧ (Value.int 7).kind = .number ∧
      (Expr.path "x" []).IsReadFrom "x".toList ∧
      (Expr.item (.map [("7", .path "x" [])]) (.const (.int 7))).IsReadFrom
        (Text.keyed "007".toList "x".toList) ∧
      ∀ s : Setting, (Expr.item (.map [("7", .path "x" [])]) (.const (.int 7))).eval s =
        (Expr.path "x" []).eval s := by
  have hn : (Expr.const (.int 7)).IsReadFrom "007".toList := rfl
  have he : (Expr.path "x" []).IsReadFrom "x".toList := rfl
  have hwhole : (Expr.item (.map [("7", .path "x" [])]) (.const (.int 7))).IsReadFrom
      (Text.keyed "007".toList "x".toList) := rfl
  exact ⟨hn, rfl, he, hwhole, fun s ↦ eval_keyed hn rfl he hwhole s⟩

/-- The key `1e5` is not found under the number of this name, whose text is `100000`. -/
theorem not_eval_keyed_exponent :
    ∃ whole : Expr, (Expr.const (.float (Number.Numeral.toFloat ⟨1, 5⟩))).IsReadFrom "1e5".toList ∧
      (Number.Numeral.toFloat ⟨1, 5⟩).isNaN = false ∧
      (Expr.const (.plain "a")).IsReadFrom "'a'".toList ∧
      whole.IsReadFrom (Text.keyed "1e5".toList "'a'".toList) ∧
      ∀ s : Setting, ¬ whole.eval s = (Expr.const (.plain "a")).eval s := by
  refine ⟨.item (.map [("1e5", .const (.plain "a"))])
    (.const (.float (Number.Numeral.toFloat ⟨1, 5⟩))), ?_, by decide +kernel, rfl, ?_, fun s h ↦ ?_⟩
  · exact .of_tokens [⟨"1e5".toList, .path⟩] [.float (Number.Numeral.toFloat ⟨1, 5⟩)] rfl rfl rfl
  · exact .of_tokens [.ofOperator '\x7b', ⟨"1e5".toList, .objectKey⟩, .ofOperator ':',
      .ofOperator ' ', ⟨"'a'".toList, .str⟩, .ofOperator '\x7d', .ofOperator '[',
      ⟨"1e5".toList, .path⟩, .ofOperator ']']
      [.symbol .braceOpen, .objectKey "1e5".toList, .symbol .colon, .str "a", .symbol .braceClose,
        .symbol .bracketOpen, .float (Number.Numeral.toFloat ⟨1, 5⟩), .symbol .bracketClose]
      rfl rfl rfl
  · have hkey : "1e5" ≠ (Value.float (Number.Numeral.toFloat ⟨1, 5⟩)).display := by
      intro heq
      have hdisplay := Value.isExponentMark_display
        (v := .float (Number.Numeral.toFloat ⟨1, 5⟩)) rfl
      rw [← heq] at hdisplay
      revert hdisplay
      decide
    rw [eval_item_singleton s _ _ rfl, if_neg hkey, Expr.eval, pure_bind] at h
    cases congrArg (fun a : Action Value ↦ (a.run.run []).1) h

end Stencil
