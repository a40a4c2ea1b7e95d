import Stencil.Proofs.Number.Integral
import Stencil.Proofs.Scanning.Lossless
import Stencil.Proofs.Scanning.Sources
import Stencil.Proofs.Scanning.Words
import Stencil.Value.Written

/-!
# How numbers are written

A source that is a numeric constant is one word with nothing but spaces around it, or it stands in
parentheses. The word is a literal, or it is a path with the mark of an exponent in it. The text of
a number never has such a mark.
-/

namespace Stencil

/-! ### Marks of exponents -/

/-- Whether the character stands in front of an exponent. -/
def Number.isExponentMark (c : Char) : Bool := c == 'e' || c == 'E'

open Number (isExponentMark)

private theorem isExponentMark_of_isDigit {c : Char} (hc : c.isDigit = true) :
    isExponentMark c = false := by
  simp only [isExponentMark, Bool.or_eq_false_iff, beq_eq_false_iff_ne]
  constructor <;> (rintro rfl; cases hc)

private theorem isExponentMark_layoutPlain {n : Nat} {exponent : Int} {c : Char}
    (hc : c ∈ Number.Layout.plain.layoutPlain (Nat.toDigits 10 n) exponent) :
    isExponentMark c = false := by
  have hdigits {d : Char} (hd : d ∈ Nat.toDigits 10 n) : isExponentMark d = false :=
    isExponentMark_of_isDigit (Number.isDigit_of_mem_toDigits hd)
  have hzeros {d : Char} {k : Nat} (hd : d ∈ List.replicate k '0') : isExponentMark d = false := by
    rw [List.eq_of_mem_replicate hd]
    rfl
  unfold Number.Layout.layoutPlain at hc
  dsimp only at hc
  split at hc
  · rw [Number.Layout.plain, List.append_nil] at hc
    exact (List.mem_append.mp hc).elim hdigits hzeros
  · split at hc
    · rcases List.mem_append.mp hc with hc | hc
      · exact hdigits (List.mem_of_mem_take hc)
      · rcases List.mem_cons.mp hc with rfl | hc
        · rfl
        · exact hdigits (List.mem_of_mem_drop hc)
    · rcases List.mem_append.mp hc with hc | hc
      · rcases List.mem_cons.mp hc with rfl | hc
        · rfl
        · rcases List.mem_cons.mp hc with rfl | hc
          · rfl
          · exact hzeros hc
      · exact hdigits hc

private theorem isExponentMark_write {x : Number.Binary} {c : Char}
    (hc : c ∈ Number.Layout.plain.write x) : isExponentMark c = false := by
  unfold Number.Layout.write at hc
  dsimp only [Number.Layout.plain] at hc
  split at hc
  · rcases List.mem_cons.mp hc with rfl | hc
    · rfl
    · split at hc
      · rw [List.mem_singleton.mp hc]
        rfl
      · exact isExponentMark_layoutPlain hc
  · split at hc
    · rw [List.mem_singleton.mp hc]
      rfl
    · exact isExponentMark_layoutPlain hc

private theorem isExponentMark_floatChars {x : Float} {c : Char} (hc : c ∈ Value.floatChars x) :
    isExponentMark c = false := by
  have hword {w : String} (hw : w.toList.all (!isExponentMark ·) = true) (h : c ∈ w.toList) :
      isExponentMark c = false := by
    simpa using List.all_eq_true.mp hw c h
  rw [Value.floatChars, Number.Layout.writeFloat] at hc
  cases hx : Number.Binary.ofFloat? x with
  | some b =>
    rw [hx, String.toList_ofList] at hc
    exact isExponentMark_write hc
  | none =>
    rw [hx] at hc
    dsimp only at hc
    split at hc
    · exact hword (by decide) hc
    · split at hc
      · exact hword (by decide) hc
      · exact hword (by decide) hc

/-- The text of a number is never written with an exponent. -/
theorem Value.isExponentMark_display {v : Value} (hv : v.kind = .number) :
    v.display.toList.any isExponentMark = false := by
  rw [List.any_eq_false]
  intro c hc
  rw [Bool.not_eq_true]
  rw [display, String.toList_ofList] at hc
  cases v with
  | int n =>
    change c ∈ (Number.integerText n).toList at hc
    rcases Number.eq_minus_or_isDigit_of_mem hc with rfl | hdigit
    · rfl
    · exact isExponentMark_of_isDigit hdigit
  | float x =>
    change c ∈ floatChars x at hc
    exact isExponentMark_floatChars hc
  | undefined | null | bool | text | seq | map | regex => cases hv

/-! ### Words for numbers -/

/-- The tokens that are numbers, each with its value. -/
inductive Token.IsNumber : Token → Value → Prop where
  /-- An integer. -/
  | int (n : Int64) : IsNumber (.int n) (.int n)
  /-- A floating-point number. -/
  | float (x : Float) : IsNumber (.float x) (.float x)

/-- A token that is a constant number. -/
theorem Atom.isNumber {t : Token} {v : Value} (h : Atom t (.const v)) (hv : v.kind = .number) :
    t.IsNumber v := by
  cases h with
  | int n => exact .int n
  | float x => exact .float x
  | str | bool | null | undefined | regex => cases hv

namespace Token.IsNumber

variable {t : Token} {v : Value}

/-- A token for a number is an operand by itself. -/
theorem atom (h : t.IsNumber v) : Atom t (.const v) := by
  cases h with
  | int n => exact .int n
  | float x => exact .float x

/-- As the key of a map, a number stands for its text. -/
theorem key (h : t.IsNumber v) : Key t v.display := by
  cases h with
  | int n =>
    have hdisplay : (Value.int n).display = Number.integerText n := String.ofList_toList
    rw [hdisplay]
    exact .int n
  | float x => exact .float x

/-- The value of a token for a number is one. -/
theorem kind (h : t.IsNumber v) : v.kind = .number := by cases h <;> rfl

end Token.IsNumber

private theorem readNumeral?_cases {w : List Char} {x : Number.Numeral}
    (h : Number.readNumeral? w = some x) :
    w.any isExponentMark = true ∨ (∀ c ∈ w, c.isDigit = true) ∨
      ∃ whole fraction, w = whole ++ '.' :: fraction ∧ (∀ c ∈ whole, c.isDigit = true) ∧
        ∀ c ∈ fraction, c.isDigit = true := by
  have hsplit := List.takeWhile_append_dropWhile (p := Char.isDigit) (l := w)
  have hwhole : ∀ c ∈ w.takeWhile Char.isDigit, c.isDigit = true := fun c hc ↦
    List.mem_takeWhile_imp hc
  unfold Number.readNumeral? at h
  dsimp only at h
  generalize w.takeWhile Char.isDigit = whole at *
  generalize w.dropWhile Char.isDigit = behind at *
  subst hsplit
  split at h
  · next hrest =>
    right
    cases behind with
    | nil => exact .inl (by simpa using hwhole)
    | cons c rest =>
      by_cases hc : c = '.'
      · subst hc
        exact .inr ⟨whole, rest, rfl, hwhole, List.dropWhile_eq_nil_iff.mp hrest⟩
      · simp [hc] at hrest
  · next c exponent _ hrest =>
    left
    have hmem : c ∈ behind := by
      cases behind with
      | nil => cases hrest
      | cons d rest =>
        by_cases hd : d = '.'
        · subst hd
          have hdrop : rest.dropWhile Char.isDigit = c :: exponent := hrest
          have hsuffix := List.dropWhile_suffix Char.isDigit (l := rest)
          rw [hdrop] at hsuffix
          exact List.mem_cons_of_mem _ (hsuffix.subset List.mem_cons_self)
        · split at hrest
          · next heq => exact absurd (List.cons.inj heq).1 hd
          · simp [(List.cons.inj hrest).1]
    split at h
    · next hmark => exact List.any_eq_true.mpr ⟨c, List.mem_append_right _ hmem, hmark⟩
    · cases h
  · cases h

private theorem isPath_append_point (w : List Char) : isPath (w ++ ['.']) = false := by
  have hsplit (s : List Char) :
      Text.splitAtChar '.' (s ++ ['.']) = Text.splitAtChar '.' s ++ [[]] := by
    induction s with
    | nil => rfl
    | cons c cs ih =>
      obtain ⟨piece, pieces, hpieces⟩ :=
        List.exists_cons_of_ne_nil (Text.splitAtChar_ne_nil '.' cs)
      rw [List.cons_append, Text.splitAtChar, Text.splitAtChar, ih, hpieces]
      split <;> rfl
  obtain ⟨root, segments, hroot⟩ := List.exists_cons_of_ne_nil (Text.splitAtChar_ne_nil '.' w)
  simp [isPath, hsplit, hroot, isSegment]

private theorem isNumber_of_forall_isDigit {c : Char} {cs : List Char}
    (h : ∀ d ∈ c :: cs, d.isDigit = true) : isNumber (c :: cs) = true :=
  isNumber_iff.mpr (.inl (by simpa [isDigits] using h))

private theorem isNumber_of_readInt64? {c : Char} {cs : List Char} {n : Int64}
    (hc : isNameChar c = true) (h : Number.readInt64? (c :: cs) = some n) :
    isNumber (c :: cs) = true := by
  unfold Number.readInt64? at h
  split at h
  · next heq => exact absurd ((List.cons.inj heq).1 ▸ hc) (by decide)
  · next heq => exact absurd ((List.cons.inj heq).1 ▸ hc) (by decide)
  · obtain ⟨m, hm, -⟩ := Option.bind_eq_some_iff.mp h
    exact isNumber_of_forall_isDigit (Number.isDigit_of_natural? hm).2

private theorem isNumber_of_readNumeral? {c : Char} {cs : List Char} {x : Number.Numeral}
    (hc : isNameChar c = true) (hpath : isPath (c :: cs) = true)
    (h : Number.readNumeral? (c :: cs) = some x) :
    (c :: cs).any isExponentMark = true ∨ isNumber (c :: cs) = true := by
  rcases readNumeral?_cases h with hmark | hall | ⟨whole, fraction, hw, hwhole, hfraction⟩
  · exact .inl hmark
  · exact .inr (isNumber_of_forall_isDigit hall)
  · have hwhole : isDigits whole = true := by
      cases whole with
      | nil =>
        rw [(List.cons.inj hw).1] at hc
        cases hc
      | cons => simpa [isDigits] using hwhole
    rcases List.eq_nil_or_concat' fraction with rfl | ⟨front, last, rfl⟩
    · rw [hw, isPath_append_point] at hpath
      cases hpath
    · have hfraction : isDigits (front ++ [last]) = true := by
        simpa [isDigits, or_imp, forall_and] using hfraction
      exact .inr (isNumber_iff.mpr (.inr ⟨whole, _, hwhole, hfraction, hw⟩))

/-- A path that is a number has the mark of an exponent, as the other numbers are literals. -/
theorem any_isExponentMark_of_path {w : List Char} {t : Token} (hpath : classify w = .path)
    (h : Token.number? w = some t) : w.any isExponentMark = true := by
  obtain ⟨hliteral, hpath⟩ := isPath_of_classify hpath
  have hnumber : ¬isNumber w = true :=
    Bool.eq_false_iff.mp (Bool.or_eq_false_iff.mp hliteral).2
  obtain ⟨c, cs, rfl, hc⟩ := exists_head_of_isPath hpath
  unfold Token.number? at h
  split at h
  · next n hn => exact absurd (isNumber_of_readInt64? hc hn) hnumber
  · split at h
    · next hdigit =>
      obtain ⟨x, hx, -⟩ := Option.map_eq_some_iff.mp h
      rw [Number.readFloat?, Number.readSigned?_of_isDigit hdigit, Option.map_map] at hx
      obtain ⟨numeral, hnumeral, -⟩ := Option.map_eq_some_iff.mp hx
      exact (isNumber_of_readNumeral? hc hpath hnumeral).resolve_right hnumber
    · cases h

/-- The fragments that are words for numbers, each with its token. -/
inductive Fragment.IsNumber : Fragment → Token → Prop where
  /-- A literal. -/
  | literal {text : List Char} {t : Token} (hclass : classify text = .literal)
      (h : Token.ofLiteral text = .ok t) : IsNumber ⟨text, .literal⟩ t
  /-- A path. -/
  | path {text : List Char} {t : Token} (hclass : classify text = .path)
      (h : Token.number? text = some t) : IsNumber ⟨text, .path⟩ t

private theorem Fragment.isNumber_of_ofFragment {source : List Char} {f : Fragment} {t : Token}
    {v : Value} {ts : List Token} (hf : f ∈ Fragment.scan source)
    (h : Token.ofFragment f = .ok (t :: ts)) (ht : t.IsNumber v) : f.IsNumber t := by
  have hclass := Fragment.classify_text_of_mem_scan hf
  obtain ⟨text, kind⟩ := f
  cases kind with
  | literal =>
    obtain ⟨t', hliteral, heq⟩ := exists_of_map_eq_ok h
    cases heq
    exact .literal (hclass (.inl rfl)) hliteral
  | path =>
    simp only [Token.ofFragment, Except.ok.injEq, List.cons.injEq] at h
    cases hnumber : Token.number? text with
    | none =>
      rw [hnumber] at h
      obtain ⟨rfl, -⟩ := h
      cases ht
    | some t' =>
      rw [hnumber] at h
      obtain ⟨rfl, -⟩ := h
      exact .path (hclass (.inr rfl)) hnumber
  | operator =>
    cases hb : Token.bracket? text with
    | none => simp [Token.ofFragment, hb] at h
    | some t' =>
      obtain ⟨b, -, rfl⟩ := Option.map_eq_some_iff.mp hb
      simp only [Token.ofFragment, hb, Option.toList_some, Except.ok.injEq, List.cons.injEq] at h
      obtain ⟨rfl, -⟩ := h
      cases ht
  | str =>
    obtain ⟨x, -, heq⟩ := exists_of_map_eq_ok h
    cases heq
    cases ht
  | regex =>
    obtain ⟨t', hregex, heq⟩ := exists_of_map_eq_ok h
    cases heq
    unfold Token.ofRegex at hregex
    dsimp only at hregex
    split at hregex <;> cases hregex
    cases ht
  | objectKey =>
    cases h
    cases ht
  | other =>
    change Token.ofDottedNames text = .ok (t :: ts) at h
    unfold Token.ofDottedNames at h
    dsimp only at h
    split at h
    · next rest =>
      split at h
      · cases hnames : Text.splitAtChar '.' rest with
        | nil => exact absurd hnames (Text.splitAtChar_ne_nil '.' rest)
        | cons name names =>
          rw [hnames] at h
          cases h
          cases ht
      · cases h
    · cases h

namespace Fragment.IsNumber

variable {f : Fragment} {t : Token} {v : Value}

/-- A fragment for a number is neither an operator nor a regular expression. -/
theorem kind_ne (h : f.IsNumber t) : f.kind ≠ .operator ∧ f.kind ≠ .regex := by
  cases h <;> simp

private theorem literal_cases {text : List Char} (hclass : classify text = .literal)
    (h : Token.ofLiteral text = .ok t) (ht : t.IsNumber v) :
    text = "NaN".toList ∨ isNumber text = true := by
  refine (Bool.or_eq_true_iff.mp (isLiteral_of_classify hclass)).imp_left fun hword ↦ ?_
  have hmem : text ∈ literalWords := by simpa using hword
  simp only [literalWords, List.mem_cons, List.not_mem_nil, or_false] at hmem
  rcases hmem with rfl | rfl | rfl | rfl | rfl
  case inr.inr.inr.inl => rfl
  all_goals
    cases h
    cases ht

/-- The paths are the words with the mark of an exponent. -/
theorem any_isExponentMark (h : f.IsNumber t) (ht : t.IsNumber v) :
    f.text.any isExponentMark = (f.kind == .path) := by
  cases h with
  | path hclass h => exact any_isExponentMark_of_path hclass h
  | @literal text _ hclass h =>
    rcases literal_cases hclass h ht with rfl | hnumber
    · rfl
    · have hnone : text.any isExponentMark = false := by
        rw [List.any_eq_false]
        intro c hc
        rcases isDigit_or_point_of_isNumber hnumber c hc with hdigit | rfl
        · simp [isExponentMark_of_isDigit hdigit]
        · decide
      exact hnone

/-- No slash is in a word for a number. -/
theorem slash_notMem (h : f.IsNumber t) (ht : t.IsNumber v) : '/' ∉ f.text := by
  intro hmem
  cases h with
  | path hclass h => exact slash_notMem_of_isPath (isPath_of_classify hclass).2 hmem
  | @literal text _ hclass h =>
    rcases literal_cases hclass h ht with rfl | hnumber
    · revert hmem
      decide
    · rcases isDigit_or_point_of_isNumber hnumber '/' hmem with h | h <;> cases h

end Fragment.IsNumber

/-! ### Constants -/

/-- Whether the tokens are a constant by themselves or stand in parentheses, if the expression is a
constant. -/
private def ShowsConstant (ts : List Token) (e : Expr) : Prop :=
  ∀ v, e = .const v → (∃ t, ts = [t] ∧ Atom t (.const v)) ∨
    ∃ inner, ts = .symbol .parenOpen :: inner ++ [.symbol .parenClose]

/-- The same for the phrases that are single expressions. -/
private def Phrase.ShowsConstant : {α : Type} → Phrase α → List Token → α → Prop
  | _, .item .expression, ts, e => Stencil.ShowsConstant ts e
  | _, .binary _, ts, e => Stencil.ShowsConstant ts e
  | _, .operand, ts, e => Stencil.ShowsConstant ts e
  | _, .access, ts, e => Stencil.ShowsConstant ts e
  | _, .primary, ts, e => Stencil.ShowsConstant ts e
  | _, _, _, _ => True

private theorem Derives.showsConstant {α : Type} {p : Phrase α} {n : Nat} {ts : List Token} {x : α}
    (h : Derives p n ts x) : p.ShowsConstant ts x := by
  induction h with
  | test _ ih | stronger _ ih | operand _ ih | access _ ih | primary _ ih => exact ih
  | atom h =>
    rintro v rfl
    exact .inl ⟨_, rfl, h⟩
  | group => exact fun _ _ ↦ .inr ⟨_, rfl⟩
  | conditional | binary | unary | property | index | call | list | map => rintro v ⟨⟩
  | entry | one | more | none | row | trailing => trivial

/-! ### Sources of numbers -/

/-- A source is a word for a number with nothing but spaces around it. -/
structure Fragment.IsNumberIn (n : List Char) (before : List Fragment) (f : Fragment)
    (after : List Fragment) (t : Token) (v : Value) : Prop where
  /-- The fragments of the source. -/
  scan : Fragment.scan n = before ++ f :: after
  /-- Spaces stand in front of the word. -/
  before : ∀ g ∈ before, g.isSpace = true
  /-- Spaces stand behind the word. -/
  after : ∀ g ∈ after, g.isSpace = true
  /-- The word is one for a number. -/
  word : f.IsNumber t
  /-- The word has the token of the number. -/
  token : Token.ofFragment f = .ok [t]
  /-- The token has the value of the number. -/
  value : t.IsNumber v

namespace Fragment.IsNumberIn

variable {n : List Char} {before after : List Fragment} {f : Fragment} {t : Token} {v : Value}

private theorem mem_iff (h : IsNumberIn n before f after t v) {c : Char}
    (hc : Text.isKept c = true) : c ∈ n ↔ c ∈ f.text := by
  have hne : c ≠ ' ' := by
    rintro rfl
    cases hc
  have hspaces {gs : List Fragment} (hgs : ∀ g ∈ gs, g.isSpace = true) :
      c ∉ gs.flatMap Fragment.source := by
    intro hmem
    obtain ⟨g, hg, hmem⟩ := List.mem_flatMap.mp hmem
    have hkind : g.kind ≠ .regex := by
      have hspace := (Bool.and_eq_true_iff.mp (hgs g hg)).1
      simp_all
    rw [Fragment.source, if_neg (by simpa using hkind)] at hmem
    exact hne (Token.text_of_isSpace (hgs g hg) c hmem)
  have hsource : f.source = f.text := if_neg (by simpa using h.word.kind_ne.2)
  have hkept (s : List Char) : c ∈ s.filter Text.isKept ↔ c ∈ s := by simp [hc]
  rw [← hkept, ← Fragment.filter_flatMap_source_scan, hkept, h.scan, List.flatMap_append,
    List.flatMap_cons, hsource, List.mem_append, List.mem_append]
  simp [hspaces h.before, hspaces h.after]

/-- The word is a path just where there is the mark of an exponent. -/
theorem any_isExponentMark (h : IsNumberIn n before f after t v) :
    n.any isExponentMark = (f.kind == .path) := by
  rw [← h.word.any_isExponentMark h.value, Bool.eq_iff_iff, List.any_eq_true, List.any_eq_true]
  refine exists_congr fun c ↦ and_congr_left fun hc ↦ h.mem_iff ?_
  simp only [isExponentMark, Bool.or_eq_true, beq_iff_eq] at hc
  rcases hc with rfl | rfl <;> rfl

/-- There is no slash. -/
theorem slash_notMem (h : IsNumberIn n before f after t v) : '/' ∉ n := by
  rw [h.mem_iff rfl]
  exact h.word.slash_notMem h.value

end Fragment.IsNumberIn

namespace Expr.IsReadFrom

variable {n : List Char} {v : Value}

private theorem exists_tokens_const (h : (Expr.const v).IsReadFrom n) :
    ∃ ts, Token.ofFragments (Fragment.scan n) = .ok ts ∧
      ((∃ t, ts = [t] ∧ Atom t (.const v)) ∨
        ∃ inner, ts = .symbol .parenOpen :: inner ++ [.symbol .parenClose]) := by
  obtain ⟨ts, hts, he⟩ := exists_of_bind_eq_ok h
  obtain ⟨k, -, he⟩ := derives_of_ofTokens he
  exact ⟨ts, hts, he.showsConstant v rfl⟩

/-- A constant that is no regular expression leaves none open. -/
theorem not_leavesRegexOpen (h : (Expr.const v).IsReadFrom n) (hv : v.kind ≠ .regex) :
    ¬Text.LeavesRegexOpen n := by
  rintro ⟨escaped, hmode⟩
  obtain ⟨ts, hts, hshape⟩ := h.exists_tokens_const
  rw [Fragment.scan, Scanner.finish, hmode] at hts
  dsimp only at hts
  rw [Scanner.close, Scanner.toList_pushWord] at hts
  obtain ⟨here, hhere, -⟩ := Token.exists_of_mem hts List.mem_concat_self rfl
  rw [Token.ofFragments, Token.ofFragmentsAfter_append rfl hhere] at hts
  obtain ⟨front, -, rfl⟩ := exists_of_map_eq_ok hts
  obtain ⟨r, hr, rfl⟩ := exists_of_map_eq_ok hhere
  unfold Token.ofRegex at hr
  dsimp only at hr
  split at hr <;> cases hr
  rcases hshape with ⟨t, heq, hatom⟩ | ⟨inner, heq⟩
  · have hlast := congrArg List.getLast? heq
    rw [List.getLast?_concat] at hlast
    cases hlast
    cases hatom
    exact hv rfl
  · have hlast := congrArg List.getLast? heq
    rw [List.getLast?_concat, List.getLast?_concat] at hlast
    cases hlast

/-- A numeric constant is a word for it with nothing but spaces around it, or it begins with a
parenthesis. -/
theorem number_cases (h : (Expr.const v).IsReadFrom n) (hv : v.kind = .number) :
    (∃ before f after t, Fragment.IsNumberIn n before f after t v) ∨
      ∃ before after, Fragment.scan n = before ++ .ofOperator '(' :: after ∧
        ∀ g ∈ before, g.isSpace = true := by
  obtain ⟨ts, hts, ⟨t, rfl, hatom⟩ | ⟨inner, rfl⟩⟩ := h.exists_tokens_const
  · left
    have ht := hatom.isNumber hv
    have hsymbol : ∀ b ∈ operatorSymbols, t ≠ .symbol b := by
      rintro b - rfl
      cases ht
    obtain ⟨before, f, after, here, rest, hscan, hbefore, -, hhere, hrest, hnil⟩ :=
      Token.exists_of_ofFragments_eq_cons hts hsymbol
    obtain ⟨rfl, rfl⟩ := List.append_eq_nil_iff.mp hnil.symm
    have hmem : f ∈ Fragment.scan n := by simp [hscan]
    have hnumber := Fragment.isNumber_of_ofFragment hmem hhere ht
    exact ⟨before, f, after, t, hscan, hbefore, Token.isSpace_of_ofFragments hrest, hnumber,
      hhere, ht⟩
  · right
    obtain ⟨before, f, after, here, rest, hscan, hbefore, -, hhere, -⟩ :=
      Token.exists_of_ofFragments_eq_cons hts fun b hb heq ↦ by
        cases heq
        exact absurd hb (by decide)
    obtain rfl : f = .ofOperator '(' := Token.eq_bracket_of_ofFragment (by decide) hhere
    exact ⟨before, after, hscan, hbefore⟩

end Expr.IsReadFrom

end Stencil
