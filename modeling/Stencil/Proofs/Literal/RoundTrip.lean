import Mathlib.Data.List.Forall2
import Mathlib.Data.List.TakeWhile
import Stencil.Proofs.Grammar.Complete
import Stencil.Proofs.Literal.Scan
import Stencil.Proofs.Scanning.Words
import Stencil.Proofs.Segments
import Stencil.Rendering

/-!
# Literals are read as what they stand for

A value that is written as a literal is read back from it: the text is scanned, cut into tokens,
parsed and evaluated, and gives the value in any scope.
-/

namespace Stencil

/-! ### Tokens -/

namespace Token

/-- The fragments are cut into the tokens, whatever comes behind them. -/
structure Cuts (gs : List Fragment) (ts : List Token) : Prop where
  /-- The tokens come in front of those of what comes behind. -/
  ofFragments_append : ∀ fs rest, ofFragments fs = .ok rest →
    ofFragments (gs ++ fs) = .ok (ts ++ rest)
  /-- None of the fragments stands between the steps of a pipeline. -/
  isBar : ∀ g ∈ gs, Pipeline.isBar g = false

private theorem ofFragmentsAfter_cons {pending : List Char} {f : Fragment} {fs : List Fragment}
    {operators here rest : List Token} (hf : isJoined f = false)
    (hpending : cutOperators pending = .ok operators) (hhere : ofFragment f = .ok here)
    (hrest : ofFragments fs = .ok rest) :
    ofFragmentsAfter pending (f :: fs) = .ok (operators ++ here ++ rest) := by
  rw [ofFragments] at hrest
  rw [ofFragmentsAfter, hf, hpending, hhere, hrest]
  rfl

/-- Without fragments there are no tokens. -/
theorem cuts_nil : Cuts [] [] := ⟨fun _ _ h ↦ h, by simp⟩

/-- A fragment that is joined with no other one is cut by itself. -/
theorem cuts_fragment {f : Fragment} {ts : List Token} (hf : isJoined f = false)
    (hbar : Pipeline.isBar f = false) (h : ofFragment f = .ok ts) : Cuts [f] ts := by
  refine ⟨fun fs rest hrest ↦ ?_, by simpa using hbar⟩
  have hpending : cutOperators [] = .ok [] := rfl
  exact ofFragmentsAfter_cons hf hpending h hrest

/-- An operator in front of such a fragment is cut by itself as well. -/
theorem cuts_operator {c : Char} {s : Symbol} {f : Fragment} {ts : List Token}
    (hc : isJoined (.ofOperator c) = true) (hs : cutOperators [c] = .ok [.symbol s])
    (hbar : Pipeline.isBar (.ofOperator c) = false) (hf : isJoined f = false)
    (hbarf : Pipeline.isBar f = false) (h : ofFragment f = .ok ts) :
    Cuts [.ofOperator c, f] (.symbol s :: ts) := by
  refine ⟨fun fs rest hrest ↦ ?_, by simp [hbar, hbarf]⟩
  change ofFragmentsAfter [] (.ofOperator c :: f :: fs) = _
  rw [ofFragmentsAfter, hc]
  exact ofFragmentsAfter_cons hf hs h hrest

/-- A comma and a space have the token of the comma. -/
theorem cuts_comma : Cuts [.ofOperator ',', .ofOperator ' '] [.symbol .comma] :=
  cuts_operator rfl rfl rfl rfl rfl rfl

/-- A colon and a space have the token of the colon. -/
theorem cuts_colon : Cuts [.ofOperator ':', .ofOperator ' '] [.symbol .colon] :=
  cuts_operator rfl rfl rfl rfl rfl rfl

/-- A word that is a literal is one token. -/
theorem cuts_word {w : List Char} {t : Token} (h : ofLiteral w = .ok t) :
    Cuts [⟨w, .literal⟩] [t] := by
  refine cuts_fragment rfl rfl ?_
  change (ofLiteral w).map ([·]) = _
  rw [h]
  rfl

/-- A minus sign and a word have a token each. -/
theorem cuts_minus {w : List Char} {t : Token} (h : ofLiteral w = .ok t) :
    Cuts [.ofOperator '-', ⟨w, .literal⟩] [.symbol .minus, t] := by
  refine cuts_operator rfl rfl rfl rfl rfl ?_
  change (ofLiteral w).map ([·]) = _
  rw [h]
  rfl

/-- A string is the token of its text. -/
theorem cuts_string (s : List Char) :
    Cuts [⟨Text.singleQuoted s, .str⟩] [.str (String.ofList s)] := by
  refine cuts_fragment rfl rfl ?_
  change (Text.readLiteral (Text.singleQuoted s)).map _ = _
  rw [Text.readLiteral_singleQuoted]
  rfl

/-- Fragments in a row have their tokens in a row. -/
theorem Cuts.append {gs gs' : List Fragment} {ts ts' : List Token} (h : Cuts gs ts)
    (h' : Cuts gs' ts') : Cuts (gs ++ gs') (ts ++ ts') := by
  refine ⟨fun fs rest hrest ↦ ?_, ?_⟩
  · rw [List.append_assoc, List.append_assoc]
    exact h.ofFragments_append _ _ (h'.ofFragments_append fs rest hrest)
  · intro g hg
    exact (List.mem_append.mp hg).elim (h.isBar g) (h'.isBar g)

/-- Fragments that nothing stands behind have their tokens. -/
theorem Cuts.ofFragments {gs : List Fragment} {ts : List Token} (h : Cuts gs ts) :
    Token.ofFragments gs = .ok ts := by
  have hall := h.ofFragments_append [] [] rfl
  rwa [List.append_nil, List.append_nil] at hall

end Token

/-! ### Parts of literals -/

/-- The text is a part of a literal and consists of the tokens. -/
def Lexes (cs : List Char) (ts : List Token) : Prop :=
  ∃ gs, Scanner.Spells cs gs ∧ Token.Cuts gs ts

/-- The text stands between brackets and consists of the tokens. -/
def LexesClosed (cs : List Char) (ts : List Token) : Prop :=
  ∃ gs r, (r = ']' ∨ r = '\x7d') ∧ Scanner.Settles cs (gs ++ [.ofOperator r]) ∧
    Token.Cuts (gs ++ [.ofOperator r]) ts

/-- A text that is closed by its last bracket has its tokens wherever it stands. -/
theorem LexesClosed.lexes {cs : List Char} {ts : List Token} (h : LexesClosed cs ts) :
    Lexes cs ts := by
  obtain ⟨gs, r, hr, hsettle, hcut⟩ := h
  exact ⟨_, hsettle.spells hr, hcut⟩

/-- The empty text has no tokens. -/
theorem lexes_nil : Lexes [] [] := ⟨[], Scanner.spells_nil, Token.cuts_nil⟩

/-- A word has its token. -/
theorem lexes_word {w : List Char} {t : Token} (hw : Scanner.IsWord w)
    (ht : Token.ofLiteral w = .ok t) : Lexes w [t] :=
  ⟨_, Scanner.spells_word hw, Token.cuts_word ht⟩

/-- A word behind a minus sign has its token and that of the sign. -/
theorem lexes_minus {w : List Char} {t : Token} (hw : Scanner.IsWord w)
    (ht : Token.ofLiteral w = .ok t) : Lexes ('-' :: w) [.symbol .minus, t] :=
  ⟨_, Scanner.spells_minus hw, Token.cuts_minus ht⟩

/-- A quoted text is the token of the text. -/
theorem lexes_string (s : List Char) : Lexes (Text.singleQuoted s) [.str (String.ofList s)] :=
  ⟨_, Scanner.spells_string s, Token.cuts_string s⟩

/-- Between texts a comma and a space are the token of the comma. -/
theorem Lexes.comma {cs cs' : List Char} {ts ts' : List Token} (h : Lexes cs ts)
    (h' : Lexes cs' ts') : Lexes (cs ++ [',', ' '] ++ cs') (ts ++ .symbol .comma :: ts') := by
  obtain ⟨gs, hspell, hcut⟩ := h
  obtain ⟨gs', hspell', hcut'⟩ := h'
  have hall := (hcut.append Token.cuts_comma).append hcut'
  rw [List.append_assoc ts] at hall
  exact ⟨_, hspell.comma hspell', hall⟩

/-- Behind a quoted key a colon and a space are the token of the colon. -/
theorem Lexes.colon {cs : List Char} {ts : List Token} (key : List Char) (h : Lexes cs ts) :
    Lexes (Text.singleQuoted key ++ [':', ' '] ++ cs)
      (.str (String.ofList key) :: .symbol .colon :: ts) := by
  obtain ⟨gs, hspell, hcut⟩ := h
  exact ⟨_, hspell.colon key, ((Token.cuts_string key).append Token.cuts_colon).append hcut⟩

/-- Brackets around a text are tokens of their own. -/
theorem Lexes.brackets {cs : List Char} {ts : List Token} (h : Lexes cs ts) :
    LexesClosed ('[' :: cs ++ [']']) (.symbol .bracketOpen :: ts ++ [.symbol .bracketClose]) := by
  obtain ⟨gs, hspell, hcut⟩ := h
  have hopen : Token.Cuts [.ofOperator '['] [.symbol .bracketOpen] :=
    Token.cuts_fragment rfl rfl rfl
  have hclose : Token.Cuts [.ofOperator ']'] [.symbol .bracketClose] :=
    Token.cuts_fragment rfl rfl rfl
  exact ⟨_, ']', .inl rfl, hspell.enclosed (.inl rfl) (.inl rfl),
    (hopen.append hcut).append hclose⟩

/-- Braces around a text are tokens of their own. -/
theorem Lexes.braces {cs : List Char} {ts : List Token} (h : Lexes cs ts) :
    LexesClosed ('\x7b' :: cs ++ ['\x7d'])
      (.symbol .braceOpen :: ts ++ [.symbol .braceClose]) := by
  obtain ⟨gs, hspell, hcut⟩ := h
  have hopen : Token.Cuts [.ofOperator '\x7b'] [.symbol .braceOpen] :=
    Token.cuts_fragment rfl rfl rfl
  have hclose : Token.Cuts [.ofOperator '\x7d'] [.symbol .braceClose] :=
    Token.cuts_fragment rfl rfl rfl
  exact ⟨_, '\x7d', .inr rfl, hspell.enclosed (.inr rfl) (.inr rfl),
    (hopen.append hcut).append hclose⟩

/-- What is closed by a bracket may stand in front of more of its kind. -/
theorem LexesClosed.append {cs cs' : List Char} {ts ts' : List Token} (h : LexesClosed cs ts)
    (h' : LexesClosed cs' ts') : LexesClosed (cs ++ cs') (ts ++ ts') := by
  obtain ⟨gs, r, -, hsettle, hcut⟩ := h
  obtain ⟨gs', r', hr', hsettle', hcut'⟩ := h'
  refine ⟨gs ++ [.ofOperator r] ++ gs', r', hr', fun s fs hs ↦ ?_, ?_⟩
  · rw [List.foldl_append, List.append_assoc _ gs', ← List.append_assoc fs]
    exact hsettle' _ _ (hsettle s fs hs)
  · rw [List.append_assoc _ gs']
    exact hcut.append hcut'

/-! ### Words -/

private theorem eq_false_of_any {p : Char → Bool} {w : List Char} (h : w.any p = false) :
    ∀ c ∈ w, p c = false := by simpa using h

private theorem isWord_constant {w : List Char}
    (hw : w ∈ ["null".toList, "true".toList, "false".toList]) : Scanner.IsWord w := by
  simp only [List.mem_cons, List.not_mem_nil, or_false] at hw
  rcases hw with rfl | rfl | rfl <;>
    exact ⟨by decide, eq_false_of_any (by decide), eq_false_of_any (by decide), by decide,
      by decide⟩

private theorem ne_of_isDigit {w : List Char} (hne : w ≠ []) (hw : ∀ c ∈ w, c.isDigit)
    {t : List Char} (ht : t.any Char.isDigit = false) : w ≠ t := by
  rintro rfl
  obtain ⟨c, hc⟩ := List.exists_mem_of_ne_nil w hne
  have := hw c hc
  rw [eq_false_of_any ht c hc] at this
  cases this

/-- The digits of a number are a word. -/
theorem isWord_toDigits (n : Nat) : Scanner.IsWord (Nat.toDigits 10 n) := by
  have hdigit (c : Char) (hc : c ∈ Nat.toDigits 10 n) : c.isDigit :=
    Number.isDigit_of_mem_toDigits hc
  have hne : Nat.toDigits 10 n ≠ [] := Nat.toDigits_ne_nil
  refine ⟨hne, ?_, ?_, ?_, ?_⟩
  · intro c hc
    have := hdigit c hc
    simp only [Text.isQuote, Bool.or_eq_false_iff, beq_eq_false_iff_ne, ne_eq]
    constructor <;> (rintro rfl; revert this; decide)
  · intro c hc
    rw [isOperatorChar, List.contains_eq_mem, decide_eq_false_iff_not]
    intro hop
    have hall : ∀ d ∈ operatorChars, d.isDigit = false := eq_false_of_any (by decide)
    have := hdigit c hc
    rw [hall c hop] at this
    cases this
  · exact ⟨ne_of_isDigit hne hdigit (by decide), ne_of_isDigit hne hdigit (by decide),
      ne_of_isDigit hne hdigit (by decide)⟩
  · have hnumber : isNumber (Nat.toDigits 10 n) = true :=
      isNumber_iff.mpr (.inl (by simpa [isDigits, hne] using hdigit))
    simp [classify, isLiteral, hnumber]

/-- The digits of a number are the token that the number is. -/
theorem ofLiteral_toDigits {n : Nat} {t : Token}
    (h : Token.number? (Nat.toDigits 10 n) = some t) :
    Token.ofLiteral (Nat.toDigits 10 n) = .ok t := by
  have hdigit (c : Char) (hc : c ∈ Nat.toDigits 10 n) : c.isDigit :=
    Number.isDigit_of_mem_toDigits hc
  have hword {t : List Char} (ht : t.any Char.isDigit = false) :
      (Nat.toDigits 10 n == t) = false :=
    beq_eq_false_iff_ne.mpr (ne_of_isDigit Nat.toDigits_ne_nil hdigit ht)
  simp only [Token.ofLiteral]
  rw [hword (by decide), hword (by decide), hword (by decide), hword (by decide),
    hword (by decide)]
  simp [h]

/-- A number that fits is an integer. -/
theorem number?_toDigits {n : Nat} {i : Int64} (h : Number.int64? n = some i) :
    Token.number? (Nat.toDigits 10 n) = some (.int i) := by
  rw [Token.number?, Number.readInt64?_toDigits, h]

/-! ### Expressions that are literals -/

/-- The text is written for an item that is nested at most `n` deep. -/
def Writes {α : Type} (i : Item α) (n : Nat) (cs : List Char) (x : α) : Prop :=
  ∃ ts, Lexes cs ts ∧ ∃ k ≤ n, Derives (.item i) k ts x

/-- The text is written for an expression that is nested at most `n` deep and has the value. -/
def Denotes (n : Nat) (cs : List Char) (v : Value) : Prop :=
  ∃ e, Writes .expression n cs e ∧ ∀ s : Setting, e.eval s = pure v

/-- An operand is an expression, nested one deeper. -/
theorem Derives.expression_of_operand {n : Nat} {ts : List Token} {e : Expr}
    (h : Derives .operand n ts e) : Derives (.item .expression) (n + 1) ts e :=
  .test (.stronger (.stronger (.stronger (.stronger (.stronger (.stronger (.operand h)))))))

/-- A primary expression is an expression, nested one deeper. -/
theorem Derives.expression_of_primary {n : Nat} {ts : List Token} {e : Expr}
    (h : Derives .primary n ts e) : Derives (.item .expression) (n + 1) ts e :=
  Derives.expression_of_operand (.access (.primary h))

private theorem denotes_atom {n : Nat} {cs : List Char} {t : Token} {v : Value} (hn : 2 ≤ n)
    (hlex : Lexes cs [t]) (ht : Atom t (.const v)) : Denotes n cs v := by
  refine ⟨.const v, ⟨[t], hlex, 2, hn, ?_⟩, fun s ↦ ?_⟩
  · exact Derives.expression_of_primary (.atom ht)
  · rw [Expr.eval]

private theorem denotes_constant {n : Nat} {w : List Char} {t : Token} {v : Value} (hn : 2 ≤ n)
    (hw : w ∈ ["null".toList, "true".toList, "false".toList]) (hread : Token.ofLiteral w = .ok t)
    (ht : Atom t (.const v)) : Denotes n w v :=
  denotes_atom hn (lexes_word (isWord_constant hw) hread) ht

/-- An integer that has an opposite is the opposite of it. -/
theorem exists_opposite {i : Int64} {n : Nat} (hi : i ≠ Int64.minValue)
    (hn : i.toInt = Int.negSucc n) :
    ∃ j, Number.int64? ((n + 1 : Nat) : Int) = some j ∧
      (Value.int j).negate = .ok (.int i) := by
  have hmin : Int64.minValue.toInt = -9223372036854775808 := by decide
  have hmax : Int64.maxValue.toInt = 9223372036854775807 := by decide
  have hne : i.toInt ≠ Int64.minValue.toInt := fun h ↦ hi (Int64.toInt_inj.mp h)
  have hle := i.minValue_le_toInt
  have hfits : Number.int64? ((n + 1 : Nat) : Int) = some (Int64.ofInt ((n + 1 : Nat) : Int)) := by
    rw [Number.int64?, if_pos]
    omega
  have hback : (Int64.ofInt ((n + 1 : Nat) : Int)).toInt = ((n + 1 : Nat) : Int) := by
    apply Int64.toInt_ofInt_of_le <;> omega
  refine ⟨_, hfits, ?_⟩
  have hopposite : -((n + 1 : Nat) : Int) = i.toInt := by omega
  rw [Value.negate, hback, hopposite, Number.int64?_toInt]

private theorem denotes_int {n : Nat} {i : Int64} (hn : 3 ≤ n) (hi : i ≠ Int64.minValue) :
    Denotes n (Value.int i).source (.int i) := by
  change Denotes n (Number.integerText i).toList _
  cases h : i.toInt with
  | ofNat m =>
    have hread : Number.int64? (m : Int) = some i := by
      have := Number.int64?_toInt i
      rwa [h] at this
    rw [Number.toList_integerText_of_ofNat h]
    exact denotes_atom (by omega)
      (lexes_word (isWord_toDigits m) (ofLiteral_toDigits (number?_toDigits hread))) (.int i)
  | negSucc m =>
    obtain ⟨j, hread, hnegate⟩ := exists_opposite hi h
    rw [Number.toList_integerText_of_negSucc h]
    refine ⟨.unary .negate (.const (.int j)), ⟨[.symbol .minus, .int j], ?_, 3, hn, ?_⟩, ?_⟩
    · exact lexes_minus (isWord_toDigits (m + 1)) (ofLiteral_toDigits (number?_toDigits hread))
    · exact Derives.expression_of_operand (.unary .negate (.access (.primary (.atom (.int j)))))
    · intro s
      rw [Expr.eval, Expr.eval, pure_bind, UnaryOp.apply, hnegate]
      rfl

private theorem denotes_text {n : Nat} (hn : 2 ≤ n) (t : String) :
    Denotes n (Value.plain t).source (.plain t) := by
  have hlex := lexes_string t.toList
  rw [String.ofList_toList] at hlex
  exact denotes_atom hn hlex (.str t)

/-! ### Sequences and maps -/

/-- Items with commas between them are written one after the other. -/
theorem exists_items {α : Type} {i : Item α} {n : Nat} {css : List (List Char)} {xs : List α}
    (h : List.Forall₂ (Writes i n) css xs) :
    ∃ ts, Lexes (List.intercalate [',', ' '] css) ts ∧ ∃ k ≤ n, Derives (.items i) k ts xs := by
  have hrow {cs : List Char} {css : List (List Char)} {x : α} {xs : List α}
      (hx : Writes i n cs x) (hxs : List.Forall₂ (Writes i n) css xs) :
      ∃ ts, Lexes (List.intercalate [',', ' '] (cs :: css)) ts ∧
        ∃ k ≤ n, Derives (.row i) k ts (x :: xs) := by
    induction hxs generalizing cs x with
    | nil =>
      obtain ⟨ts, hlex, k, hk, hx⟩ := hx
      exact ⟨ts, by simpa using hlex, k, hk, .one hx⟩
    | cons hy _ ih =>
      obtain ⟨ts, hlex, k, hk, hx⟩ := hx
      obtain ⟨ts', hlex', k', hk', hmore⟩ := ih hy
      refine ⟨ts ++ .symbol .comma :: ts', ?_, max k k', Nat.max_le.mpr ⟨hk, hk'⟩, .more hx hmore⟩
      simpa using hlex.comma hlex'
  cases h with
  | nil => exact ⟨[], lexes_nil, 0, Nat.zero_le n, .none⟩
  | cons hx hxs =>
    obtain ⟨ts, hlex, k, hk, hrow⟩ := hrow hx hxs
    exact ⟨ts, hlex, k, hk, .row hrow⟩

/-- The text between brackets is written for an expression that is nested at most `n` deep and has
the value. -/
def DenotesClosed (n : Nat) (cs : List Char) (v : Value) : Prop :=
  ∃ ts e, LexesClosed cs ts ∧ (∃ k ≤ n, Derives (.item .expression) k ts e) ∧
    ∀ s : Setting, e.eval s = pure v

private theorem DenotesClosed.denotes {n : Nat} {cs : List Char} {v : Value}
    (h : DenotesClosed n cs v) : Denotes n cs v := by
  obtain ⟨ts, e, hlex, he, heval⟩ := h
  exact ⟨e, ⟨ts, hlex.lexes, he⟩, heval⟩

private theorem denotes_items {n : Nat} {items : List Value}
    (h : ∀ v ∈ items, Denotes n v.source v) :
    ∃ es, List.Forall₂ (Writes .expression n) (Value.itemSources items) es ∧
      ∀ s, Expr.evalAll s es = pure items := by
  induction items with
  | nil => exact ⟨[], .nil, fun s ↦ by rw [Expr.evalAll]⟩
  | cons v vs ih =>
    obtain ⟨e, hwrites, heval⟩ := h v List.mem_cons_self
    obtain ⟨es, hall, hevals⟩ := ih fun w hw ↦ h w (.tail v hw)
    refine ⟨e :: es, .cons hwrites hall, fun s ↦ ?_⟩
    rw [Expr.evalAll, heval, pure_bind, hevals, pure_bind]

/-- Sequences of literals are literals. -/
theorem denotes_seq {n : Nat} {items : List Value} (h : ∀ v ∈ items, Denotes n v.source v) :
    DenotesClosed (n + 2) (Value.seq items).source (.seq items) := by
  obtain ⟨es, hall, heval⟩ := denotes_items h
  obtain ⟨ts, hlex, k, hk, hts⟩ := exists_items hall
  refine ⟨_, .list es, hlex.brackets, ⟨k + 2, by omega, ?_⟩, fun s ↦ ?_⟩
  · exact Derives.expression_of_primary (.list hts)
  · rw [Expr.eval, heval, pure_bind]

private theorem writes_entry {n : Nat} {key : String} {cs : List Char} {e : Expr}
    (h : Writes .expression n cs e) :
    Writes .entry n (Text.singleQuoted key.toList ++ [':', ' '] ++ cs) (key, e) := by
  obtain ⟨ts, hlex, k, hk, hts⟩ := h
  have hcolon := hlex.colon key.toList
  rw [String.ofList_toList] at hcolon
  exact ⟨_, hcolon, k, hk, .entry (.str key) hts⟩

-- The entries of a map come behind those that are in the table already, as their names are
-- different.
private theorem denotes_entries {n : Nat} {names : List String} {rows : Rows names}
    (h : ∀ e ∈ rows.entries, Denotes n e.2.source e.2) :
    ∃ es, List.Forall₂ (Writes .entry n) (Value.entrySources rows) es ∧
      ∀ s (table : Table Value), (∀ name ∈ names, name ∉ table.entries.map (·.1)) →
        ∃ out, Expr.evalEntries s table es = pure out ∧
          out.entries = table.entries ++ rows.entries := by
  induction rows with
  | nil =>
    refine ⟨[], .nil, fun s table _ ↦ ⟨table, ?_, (List.append_nil _).symm⟩⟩
    rw [Expr.evalEntries]
  | @cons names key v hfresh rest ih =>
    obtain ⟨e, hwrites, heval⟩ := h (key, v) List.mem_cons_self
    obtain ⟨es, hall, hevals⟩ := ih fun e he ↦ h e (.tail _ he)
    refine ⟨(key, e) :: es, .cons (writes_entry hwrites) hall, fun s table htable ↦ ?_⟩
    have hnew : key ∉ table.entries.map (·.1) := htable key List.mem_cons_self
    have hinsert : (table.insert key v).entries = table.entries ++ [(key, v)] :=
      Entries.insert_of_notMem v hnew
    have hrest : ∀ name ∈ names, name ∉ (table.insert key v).entries.map (·.1) := by
      intro name hname
      have hne : name ≠ key := by
        rintro rfl
        exact hfresh hname
      have hold := htable name (.tail _ hname)
      rw [hinsert]
      simp only [List.map_append, List.map_cons, List.map_nil, List.mem_append,
        List.mem_singleton, not_or]
      exact ⟨hold, hne⟩
    obtain ⟨out, hout, hentries⟩ := hevals s _ hrest
    refine ⟨out, ?_, ?_⟩
    · rw [Expr.evalEntries, heval, pure_bind, hout]
    · rw [hentries, hinsert, List.append_assoc, List.singleton_append, Rows.entries]

/-- Maps of literals are literals. -/
theorem denotes_map {n : Nat} {names : List String} {rows : Rows names}
    (h : ∀ e ∈ rows.entries, Denotes n e.2.source e.2) :
    DenotesClosed (n + 2) (Value.map rows).source (.map rows) := by
  obtain ⟨es, hall, heval⟩ := denotes_entries h
  obtain ⟨ts, hlex, k, hk, hts⟩ := exists_items hall
  refine ⟨_, .map es, hlex.braces, ⟨k + 2, by omega, ?_⟩, fun s ↦ ?_⟩
  · exact Derives.expression_of_primary (.map hts)
  · obtain ⟨out, hout, hentries⟩ := heval s .empty fun _ _ ↦ List.not_mem_nil
    have hmap : Value.ofTable out = .map rows :=
      Value.map_eq_map ((Rows.entries_ofList out.distinct).trans hentries)
    rw [Expr.eval, hout, pure_bind, hmap]

/-- A literal that is nested at most `n` deep is written as an expression that has its value. -/
theorem Value.IsLiteral.denotes {n : Nat} {v : Value} (h : v.IsLiteral n) :
    Denotes (2 * n + 3) v.source v := by
  induction h with
  | null => exact denotes_constant (w := "null".toList) (by omega) (by simp) rfl .null
  | bool b =>
    cases b with
    | false => exact denotes_constant (w := "false".toList) (by omega) (by simp) rfl (.bool false)
    | true => exact denotes_constant (w := "true".toList) (by omega) (by simp) rfl (.bool true)
  | int hi => exact denotes_int (by omega) hi
  | text t => exact denotes_text (by omega) t
  | seq _ ih => exact (denotes_seq ih).denotes
  | map _ ih => exact (denotes_map ih).denotes

/-! ### Pipelines -/

namespace Pipeline

/-- Fragments without a bar are a pipeline without filters. -/
theorem read_of_cuts {cs : List Char} {gs : List Fragment} {ts : List Token} {e : Expr}
    (hscan : Fragment.scan cs = gs) (hcut : Token.Cuts gs ts) (he : Expr.ofTokens ts = .ok e)
    (htrim : Text.trim cs = cs) (hne : cs ≠ []) :
    read (String.ofList cs) = .ok ⟨String.ofList cs, e, [], false⟩ := by
  have htokens : Expr.ofFragments gs = .ok e := by
    rw [Expr.ofFragments, hcut.ofFragments]
    exact he
  simp only [read, String.toList_ofList, htrim, hscan, Fragment.splitBy_eq_singleton hcut.isBar]
  rw [if_neg (by simpa using hne)]
  simp only [List.head?_cons, Option.getD_some, htokens]
  rfl

/-- A literal between brackets is a pipeline without filters. -/
theorem read_of_lexesClosed {cs : List Char} {ts : List Token} {e : Expr}
    (hlex : LexesClosed cs ts) (he : Expr.ofTokens ts = .ok e) (htrim : Text.trim cs = cs)
    (hne : cs ≠ []) :
    read (String.ofList cs) = .ok ⟨String.ofList cs, e, [], false⟩ := by
  obtain ⟨gs, r, -, hsettle, hcut⟩ := hlex
  exact read_of_cuts hsettle.scan hcut he htrim hne

/-- Without filters the value of a pipeline is that of its expression. -/
theorem eval_of_no_filters {p : Pipeline} {v : Value} {s : Setting} (hp : p.filters = [])
    (hv : v.isMissing = false) (h : p.base.eval s = pure v) : p.eval s = pure v := by
  have hsome : v.orEmpty = v := by
    rw [Value.orEmpty, hv]
    rfl
  have hstrict : p.evalStrict s = pure v := by
    rw [evalStrict, hp, h]
    change (do return (← runFilters s v.orEmpty []).orEmpty : Action Value) = _
    rw [hsome, runFilters, pure_bind, hsome]
  rw [eval, hstrict]
  rfl

/-- A text between characters that are not blank has no blanks to lose. -/
theorem trim_enclosed {l r : Char} (hl : Text.isBlank l = false)
    (hr : Text.isBlank r = false) (cs : List Char) :
    Text.trim (l :: cs ++ [r]) = l :: cs ++ [r] := by
  simp [Text.trim, Text.trimWhile, Text.dropEndWhile, hl, hr]

private theorem exists_read {n : Nat} {v : Value} {l r : Char} {cs : List Char}
    (h : DenotesClosed n (l :: cs ++ [r]) v) (hn : n ≤ Parser.maxNesting)
    (hl : Text.isBlank l = false) (hr : Text.isBlank r = false) (hv : v.isMissing = false) :
    ∃ p, read (String.ofList (l :: cs ++ [r])) = .ok p ∧ ∀ s : Setting, p.eval s = pure v := by
  obtain ⟨ts, e, hlex, ⟨k, hk, hts⟩, heval⟩ := h
  have he := Expr.ofTokens_of_derives hts (Nat.le_trans hk hn)
  have hread := read_of_lexesClosed hlex he (trim_enclosed hl hr cs) (by simp)
  exact ⟨_, hread, fun s ↦ eval_of_no_filters rfl hv (heval s)⟩

/-- Literals survive being written and read: a sequence or a map of literals that is nested at most
70 deep is read from its source as a pipeline that has this value in every scope, and so it has this
value in every environment and every context that makes up a scope. -/
theorem run_read_source {v : Value} (h : v.IsLiteral 70)
    (hv : v.kind = .sequence ∨ v.kind = .map) :
    ∃ p, read (String.ofList v.source) = .ok p ∧ (∀ s : Setting, p.eval s = pure v) ∧
      ∀ env context, p.run env context =
        (do
          let _ ← Scope.ofContext (← Value.ofDatum context)
          return v) := by
  have hread : ∃ p, read (String.ofList v.source) = .ok p ∧ ∀ s : Setting, p.eval s = pure v := by
    cases h with
    | seq hitems =>
      have hclosed := denotes_seq fun v hv ↦ (hitems v hv).denotes
      exact exists_read hclosed (by decide) (by decide) (by decide) rfl
    | map hentries =>
      have hclosed := denotes_map fun e he ↦ (hentries e he).denotes
      exact exists_read hclosed (by decide) (by decide) (by decide) rfl
    | null | bool | int | text => simp [Value.kind, Value.plain] at hv
  obtain ⟨p, hp, heval⟩ := hread
  refine ⟨p, hp, heval, fun env context ↦ ?_⟩
  rw [run, heval]
  rfl

/-- A quote, a bar and a backslash in a name disturb nothing. -/
theorem run_read_source_quote :
    (Value.single "it's | \\" (.int (-5))).IsLiteral 70 ∧
      ∃ p, read (String.ofList (Value.single "it's | \\" (.int (-5))).source) = .ok p ∧
        (∀ s : Setting, p.eval s = pure (.single "it's | \\" (.int (-5)))) ∧
        ∀ env context, p.run env context =
          (do
            let _ ← Scope.ofContext (← Value.ofDatum context)
            return .single "it's | \\" (.int (-5))) := by
  have h : (Value.single "it's | \\" (.int (-5))).IsLiteral 70 := by
    refine .map fun e he ↦ ?_
    cases List.mem_singleton.mp he
    exact .int (by decide)
  exact ⟨h, run_read_source h (.inr rfl)⟩

end Pipeline

end Stencil
