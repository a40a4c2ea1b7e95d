import Stencil.Proofs.Grammar.Fragments
import Stencil.Proofs.Scanning.Context

/-!
# Colons of expressions

In an expression the first colon stands behind a question mark or an opening brace, and no colon
stands where an operand is due. So no colon of an expression could mark a word in front of it.
-/

namespace Stencil

open Fragment (HasStrayColon)

/-! ### What stands in front of colons -/

/-- Whether the token is a colon, or else lets one stand behind it. -/
def Token.colon? : Token → Option Bool
  | .symbol .colon => some true
  | .symbol .question | .symbol .braceOpen => some false
  | _ => none

/-- Whether no colon is the first of the tokens that have to do with colons. -/
def ColonsFollow (ts : List Token) : Prop := ts.findSome? Token.colon? ≠ some true

private theorem colonsFollow_nil : ColonsFollow [] := by simp [ColonsFollow]

private theorem ColonsFollow.append {ts ts' : List Token} (h : ColonsFollow ts)
    (h' : ColonsFollow ts') : ColonsFollow (ts ++ ts') := by
  rw [ColonsFollow, List.findSome?_append]
  rw [ColonsFollow] at h
  cases hts : ts.findSome? Token.colon? with
  | none => exact h'
  | some b => rwa [hts] at h

private theorem ColonsFollow.cons {t : Token} {ts : List Token} (h : ColonsFollow ts)
    (ht : t.colon? = none) : ColonsFollow (t :: ts) := by
  rw [ColonsFollow, List.findSome?_cons, ht]
  exact h

private theorem colonsFollow_cons {t : Token} (ht : t.colon? = some false) (ts : List Token) :
    ColonsFollow (t :: ts) := by
  rw [ColonsFollow, List.findSome?_cons, ht]
  simp

/-- Whether colons follow in the tokens of a phrase, unless it belongs to a map. -/
def Phrase.ColonsFollow : {α : Type} → Phrase α → List Token → Prop
  | _, .item .entry, _ | _, .row .entry, _ | _, .items .entry, _ => True
  | _, _, ts => Stencil.ColonsFollow ts

private theorem UnaryOp.colon?_symbol (op : UnaryOp) : (Token.symbol op.symbol).colon? = none := by
  cases op <;> rfl

private theorem BinaryOp.colon?_symbol (op : BinaryOp) :
    (Token.symbol op.symbol).colon? = none := by
  cases op <;> rfl

private theorem Atom.colon?_eq_none {t : Token} {e : Expr} (h : Atom t e) : t.colon? = none := by
  cases h <;> rfl

/-- Colons follow in every phrase that does not belong to a map. -/
theorem Derives.colonsFollow {α : Type} {p : Phrase α} {n : Nat} {ts : List Token} {x : α}
    (h : Derives p n ts x) : p.ColonsFollow ts := by
  induction h with
  | test _ ih | stronger _ ih | operand _ ih | access _ ih | primary _ ih => exact ih
  | conditional _ _ _ ih _ _ =>
    rw [List.append_assoc]
    exact ih.append (colonsFollow_cons rfl _)
  | binary op _ _ ihleft ihright => exact ihleft.append (ihright.cons op.colon?_symbol)
  | unary op _ ih => exact ih.cons op.colon?_symbol
  | property _ _ ih => exact ih.append ((colonsFollow_nil.cons rfl).cons rfl)
  | index _ _ ih ihrest | call _ _ ih ihrest =>
    exact (ih.append (ihrest.cons rfl)).append (colonsFollow_nil.cons rfl)
  | atom h => exact colonsFollow_nil.cons h.colon?_eq_none
  | group _ ih | list _ ih => exact (ih.cons rfl).append (colonsFollow_nil.cons rfl)
  | map _ _ => exact colonsFollow_cons rfl _
  | entry _ _ _ => trivial
  | @one _ i _ _ _ _ ih => cases i <;> exact ih
  | @more _ i _ _ _ _ _ _ _ _ ih ihmore =>
    cases i with
    | expression => exact ih.append (ihmore.cons rfl)
    | entry => trivial
  | @none _ i =>
    cases i with
    | expression => exact colonsFollow_nil
    | entry => trivial
  | @row _ i _ _ _ _ ih => cases i <;> exact ih
  | @trailing _ i _ _ _ _ ih =>
    cases i with
    | expression => exact ih.append (colonsFollow_nil.cons rfl)
    | entry => trivial

/-! ### Colons among fragments -/

namespace Token

private theorem colon?_eq_none_of_isWord {t : Token} (h : t.IsWord) : t.colon? = none := by
  cases t with
  | symbol s =>
    obtain rfl := h s rfl
    rfl
  | _ => rfl

private theorem colon?_eq_none_of_isVisible {fs : List Fragment} {ts : List Token}
    (h : ofFragments fs = .ok ts) (hfs : ∀ f ∈ fs, f.isVisible = false) :
    ts.findSome? colon? = none := by
  induction fs generalizing ts with
  | nil =>
    cases h
    rfl
  | cons f fs ih =>
    obtain ⟨hf, hfs⟩ := List.forall_mem_cons.mp hfs
    by_cases hspace : f.isSpace = true
    · rw [ofFragments_space_cons hspace] at h
      exact ih h hfs
    · have hkind : f.kind ≠ .operator := by simpa [Fragment.isVisible, hspace] using hf
      have hjoined : isJoined f = false := by simp [isJoined, hkind]
      rw [ofFragments, ofFragmentsAfter, hjoined] at h
      obtain ⟨operators, hoperators, h⟩ := exists_of_bind_eq_ok h
      obtain ⟨here, hhere, h⟩ := exists_of_bind_eq_ok h
      obtain ⟨rest, hrest, h⟩ := exists_of_bind_eq_ok h
      cases hoperators
      cases h
      have hwords : here.findSome? colon? = none := List.findSome?_eq_none_iff.mpr fun t ht ↦
        colon?_eq_none_of_isWord (isWord_ofFragment hkind hhere t ht)
      rw [List.nil_append, List.findSome?_append, hwords, ih hrest hfs]
      rfl

private theorem exists_cons_of_colon {pending : List Char} {after : List Fragment} {f : Fragment}
    {ts : List Token} {p q : Place} (h : ofFragmentsAfter pending (f :: after) = .ok ts)
    (hwalk : p.walk ts = some q) (hkind : f.kind = .operator) (htext : f.text.head? = some ':') :
    pending = [] ∧ ∃ ts₁, ts = .symbol .colon :: ts₁ := by
  obtain ⟨cs, htext⟩ := List.head?_eq_some_iff.mp htext
  have hjoined : isJoined f = true :=
    isJoined_of_mem hkind (by rw [htext]; exact List.mem_cons_self) (by decide) (by decide)
  obtain ⟨operators, more, hcut, -, rfl⟩ := ofFragmentsAfter_eq_ok.mp h
  rw [List.takeWhile_cons_of_pos hjoined, Fragment.joinText, List.flatMap_cons, htext,
    List.cons_append] at hcut
  rw [Place.walk_append] at hwalk
  obtain ⟨q', hoperators, -⟩ := Option.bind_eq_some_iff.mp hwalk
  obtain ⟨b, w, -, -, hb, -, -, more', rfl⟩ :=
    exists_symbol_of_cutOperators (by decide) hcut hoperators
  have hmem : ':' ∈ b.text := by simp [hb]
  obtain rfl : b = .colon := by cases b <;> simp [Symbol.text] at hmem ⊢
  have hpending : pending = [] := by
    cases pending with
    | nil => rfl
    | cons c cs => simp [Symbol.text] at hb
  exact ⟨hpending, more' ++ more, rfl⟩

private theorem exists_of_colon {pending : List Char} {before after : List Fragment} {f : Fragment}
    {ts : List Token} {p q : Place} (h : ofFragmentsAfter pending (before ++ f :: after) = .ok ts)
    (hwalk : p.walk ts = some q) (hkind : f.kind = .operator) (htext : f.text.head? = some ':') :
    ∃ ts₀ ts₁, ofFragmentsAfter pending before = .ok ts₀ ∧ ts = ts₀ ++ .symbol .colon :: ts₁ := by
  induction before generalizing pending ts p with
  | nil =>
    obtain ⟨rfl, ts₁, rfl⟩ := exists_cons_of_colon h hwalk hkind htext
    exact ⟨[], ts₁, rfl, rfl⟩
  | cons g before ih =>
    rw [List.cons_append, ofFragmentsAfter] at h
    rw [ofFragmentsAfter]
    split at h
    · next hg =>
      rw [if_pos hg]
      exact ih h hwalk
    · next hg =>
      rw [if_neg hg]
      obtain ⟨operators, hoperators, h⟩ := exists_of_bind_eq_ok h
      obtain ⟨here, hhere, h⟩ := exists_of_bind_eq_ok h
      obtain ⟨rest, hrest, h⟩ := exists_of_bind_eq_ok h
      cases h
      rw [Place.walk_append] at hwalk
      obtain ⟨p', -, hwalk⟩ := Option.bind_eq_some_iff.mp hwalk
      obtain ⟨ts₀, ts₁, hts₀, rfl⟩ := ih hrest hwalk
      refine ⟨operators ++ here ++ ts₀, ts₁, ?_, by simp⟩
      rw [hoperators, hhere, hts₀]
      rfl

private theorem turn_of_startsEntry {front spaces : List Fragment} {g : Fragment} {ts : List Token}
    {p q : Place} (h : ofFragments (front ++ g :: spaces) = .ok ts) (hwalk : p.walk ts = some q)
    (hspaces : ∀ f ∈ spaces, f.isSpace = true)
    (hg : g = .ofOperator '\x7b' ∨ g = .ofOperator ',') : q.turn = .operand := by
  rw [List.append_cons, ofFragments, ofFragmentsAfter_append_spaces hspaces] at h
  have hlast : ∃ before s, ts = before ++ [.symbol s] ∧
      ∀ p q : Place, p.after (.symbol s) = some q → q.turn = .operand := by
    rcases hg with rfl | rfl
    · have hbrace : ofFragment (.ofOperator '\x7b') = .ok [.symbol .braceOpen] := rfl
      rw [ofFragmentsAfter_append rfl hbrace] at h
      obtain ⟨before, -, rfl⟩ := exists_of_map_eq_ok h
      refine ⟨before, _, rfl, fun p q hq ↦ ?_⟩
      cases hq
      rfl
    · obtain ⟨before, b, hb, rfl, -⟩ := exists_last_of_isJoined rfl h
      exact ⟨before, b, rfl, fun p q hq ↦ (Place.after_operator hb hq).1⟩
  obtain ⟨before, s, rfl, hs⟩ := hlast
  rw [Place.walk_append] at hwalk
  obtain ⟨p', -, hwalk⟩ := Option.bind_eq_some_iff.mp hwalk
  rw [Place.walk_cons] at hwalk
  obtain ⟨q', hq', hwalk⟩ := Option.bind_eq_some_iff.mp hwalk
  cases hwalk
  exact hs p' q hq'

end Token

/-- No colon in an expression could mark a word in front of it. -/
theorem Expr.not_hasStrayColon {fs : List Fragment} {e : Expr} (h : ofFragments fs = .ok e) :
    ¬HasStrayColon fs := by
  rintro ⟨before, f, after, rfl, hkind, htext, hbefore⟩
  obtain ⟨ts, hts, h⟩ := exists_of_bind_eq_ok h
  obtain ⟨n, -, hderives⟩ := derives_of_ofTokens h
  have hwalk := hderives.takesTurns []
  obtain ⟨ts₀, ts₁, hts₀, rfl⟩ := Token.exists_of_colon hts hwalk hkind htext
  rcases hbefore with hwords | ⟨front, g, spaces, rfl, hspaces, hg⟩
  · have hcolons : ColonsFollow _ := hderives.colonsFollow
    rw [ColonsFollow, List.findSome?_append,
      Token.colon?_eq_none_of_isVisible hts₀ hwords] at hcolons
    exact hcolons rfl
  · rw [Place.walk_append] at hwalk
    obtain ⟨p, hp, hwalk⟩ := Option.bind_eq_some_iff.mp hwalk
    have hturn := Token.turn_of_startsEntry hts₀ hp hspaces hg
    obtain ⟨turn, closing⟩ := p
    cases hturn
    cases hwalk

end Stencil
