import Stencil.Proofs.Grammar

/-!
# What tokens are for

A phrase is derived from its parts and the tokens between them. Going down from part to part, every
token of an expression that is no symbol and no name behind a dot is met once: as an operand or as
the key of an entry of a map. In front of a key stands an opening brace or a comma, and a colon
stands behind it.
-/

namespace Stencil

/-- What a token is for. -/
inductive Role where
  /-- It is an operand. -/
  | operand
  /-- It is the key of an entry of a map. -/
  | key
deriving DecidableEq, Repr

/-- The parts of phrases: `Part q y front back p x` says that a phrase `q` that stands for `y` makes
up a phrase `p` that stands for `x`, with the tokens `front` and `back` around it. -/
inductive Part : {α β : Type} → Phrase α → α → List Token → List Token → Phrase β → β → Prop where
  /-- The operators between operands that are an expression. -/
  | test (e : Expr) : Part (.binary 0) e [] [] (.item .expression) e
  /-- The test of a condition. -/
  | condition {n₂ n₃ : Nat} {ts₂ ts₃ : List Token} (test : Expr) {yes no : Expr}
      (hyes : Derives (.item .expression) n₂ ts₂ yes)
      (hno : Derives (.item .expression) n₃ ts₃ no) :
      Part (.binary 0) test [] (.symbol .question :: ts₂ ++ .symbol .colon :: ts₃)
        (.item .expression) (.conditional test yes no)
  /-- The first branch of a condition. -/
  | yes {n₁ n₃ : Nat} {ts₁ ts₃ : List Token} {test : Expr} (yes : Expr) {no : Expr}
      (htest : Derives (.binary 0) n₁ ts₁ test) (hno : Derives (.item .expression) n₃ ts₃ no) :
      Part (.item .expression) yes (ts₁ ++ [.symbol .question]) (.symbol .colon :: ts₃)
        (.item .expression) (.conditional test yes no)
  /-- The second branch of a condition. -/
  | no {n₁ n₂ : Nat} {ts₁ ts₂ : List Token} {test yes : Expr} (no : Expr)
      (htest : Derives (.binary 0) n₁ ts₁ test) (hyes : Derives (.item .expression) n₂ ts₂ yes) :
      Part (.item .expression) no (ts₁ ++ .symbol .question :: ts₂ ++ [.symbol .colon]) []
        (.item .expression) (.conditional test yes no)
  /-- What no operator of the strength belongs to. -/
  | stronger (k : Nat) (e : Expr) : Part (.binary (k + 1)) e [] [] (.binary k) e
  /-- The operand in front of an operator. -/
  | left {n : Nat} {ts : List Token} (op : BinaryOp) (left : Expr) {right : Expr}
      (hright : Derives (.binary (op.strength + 1)) n ts right) :
      Part (.binary op.strength) left [] (.symbol op.symbol :: ts) (.binary op.strength)
        (.binary op left right)
  /-- The operand behind an operator. -/
  | right {n : Nat} {ts : List Token} (op : BinaryOp) {left : Expr} (right : Expr)
      (hleft : Derives (.binary op.strength) n ts left) :
      Part (.binary (op.strength + 1)) right (ts ++ [.symbol op.symbol]) [] (.binary op.strength)
        (.binary op left right)
  /-- An operand that stands alone. -/
  | operand (e : Expr) : Part .operand e [] [] (.binary 6) e
  /-- The operand behind an operator that belongs to it alone. -/
  | unary (op : UnaryOp) (e : Expr) :
      Part .operand e [.symbol op.symbol] [] .operand (.unary op e)
  /-- What no operator belongs to. -/
  | access (e : Expr) : Part .access e [] [] .operand e
  /-- What no access and no call belongs to. -/
  | primary (e : Expr) : Part .primary e [] [] .access e
  /-- What a property is taken of. -/
  | property (e : Expr) (name : List Char) :
      Part .access e [] [.symbol .dot, .identifier name] .access
        (.property e (String.ofList name))
  /-- What an item is taken of. -/
  | indexed {n : Nat} {ts : List Token} (e : Expr) {key : Expr}
      (hkey : Derives (.item .expression) n ts key) :
      Part .access e [] (.symbol .bracketOpen :: ts ++ [.symbol .bracketClose]) .access
        (.item e key)
  /-- Which item is taken. -/
  | index {n : Nat} {ts : List Token} {e : Expr} (key : Expr) (h : Derives .access n ts e) :
      Part (.item .expression) key (ts ++ [.symbol .bracketOpen]) [.symbol .bracketClose] .access
        (.item e key)
  /-- What is called. -/
  | callee {n : Nat} {ts : List Token} (e : Expr) {args : List Expr}
      (hargs : Derives (.items .expression) n ts args) :
      Part .access e [] (.symbol .parenOpen :: ts ++ [.symbol .parenClose]) .access (.call e args)
  /-- The arguments of a call. -/
  | arguments {n : Nat} {ts : List Token} {e : Expr} (args : List Expr)
      (h : Derives .access n ts e) :
      Part (.items .expression) args (ts ++ [.symbol .parenOpen]) [.symbol .parenClose] .access
        (.call e args)
  /-- An expression between parentheses. -/
  | group (e : Expr) :
      Part (.item .expression) e [.symbol .parenOpen] [.symbol .parenClose] .primary e
  /-- The items of a list. -/
  | list (es : List Expr) :
      Part (.items .expression) es [.symbol .bracketOpen] [.symbol .bracketClose] .primary
        (.list es)
  /-- The entries of a map. -/
  | map (es : List (String × Expr)) :
      Part (.items .entry) es [.symbol .braceOpen] [.symbol .braceClose] .primary (.map es)
  /-- The value of an entry. -/
  | value {t : Token} {key : String} (hkey : Key t key) (e : Expr) :
      Part (.item .expression) e [t, .symbol .colon] [] (.item .entry) (key, e)
  /-- The only item. -/
  | one {α : Type} {i : Item α} (x : α) : Part (.item i) x [] [] (.row i) [x]
  /-- The first item. -/
  | first {α : Type} {i : Item α} {n : Nat} {ts : List Token} (x : α) {xs : List α}
      (hmore : Derives (.row i) n ts xs) :
      Part (.item i) x [] (.symbol .comma :: ts) (.row i) (x :: xs)
  /-- The items behind the first one. -/
  | more {α : Type} {i : Item α} {n : Nat} {ts : List Token} {x : α} (xs : List α)
      (h : Derives (.item i) n ts x) :
      Part (.row i) xs (ts ++ [.symbol .comma]) [] (.row i) (x :: xs)
  /-- Items without one more comma. -/
  | row {α : Type} {i : Item α} (xs : List α) : Part (.row i) xs [] [] (.items i) xs
  /-- Items with one more comma. -/
  | trailing {α : Type} {i : Item α} (xs : List α) :
      Part (.row i) xs [] [.symbol .comma] (.items i) xs

/-- What a token between others is for in a phrase. -/
inductive StandsAs : {α : Type} → Role → Phrase α → List Token → Token → List Token → α → Prop where
  /-- It is an expression. -/
  | operand {t : Token} {e : Expr} (h : Atom t e) : StandsAs .operand .primary [] t [] e
  /-- It is the key of an entry. -/
  | key {t : Token} {key : String} {n : Nat} {ts : List Token} {e : Expr} (hkey : Key t key)
      (h : Derives (.item .expression) n ts e) :
      StandsAs .key (.item .entry) [] t (.symbol .colon :: ts) (key, e)
  /-- It is what it is for in a part. -/
  | part {α β : Type} {role : Role} {q : Phrase α} {y : α} {front back : List Token} {p : Phrase β}
      {x : β} {before after : List Token} {t : Token} (hpart : Part q y front back p x)
      (h : StandsAs role q before t after y) : StandsAs role p (front ++ before) t (after ++ back) x

/-! ### Derivations -/

/-- A phrase is derived from its part. -/
theorem Part.exists_derives {α β : Type} {q : Phrase α} {y : α} {front back : List Token}
    {p : Phrase β} {x : β} (hpart : Part q y front back p x) {n : Nat} {ts : List Token}
    (h : Derives q n ts y) : ∃ m, Derives p m (front ++ ts ++ back) x := by
  cases hpart with
  | test e => exact ⟨_, by simpa using h.test⟩
  | condition test hyes hno => exact ⟨_, by simpa using h.conditional hyes hno⟩
  | yes yes htest hno => exact ⟨_, by simpa using htest.conditional h hno⟩
  | no no htest hyes => exact ⟨_, by simpa using htest.conditional hyes h⟩
  | stronger k e => exact ⟨_, by simpa using h.stronger⟩
  | left op left hright => exact ⟨_, by simpa using h.binary op hright⟩
  | right op right hleft => exact ⟨_, by simpa using hleft.binary op h⟩
  | operand e => exact ⟨_, by simpa using h.operand⟩
  | unary op e => exact ⟨_, by simpa using h.unary op⟩
  | access e => exact ⟨_, by simpa using h.access⟩
  | primary e => exact ⟨_, by simpa using h.primary⟩
  | property e name => exact ⟨_, by simpa using h.property name⟩
  | indexed e hkey => exact ⟨_, by simpa using h.index hkey⟩
  | index key he => exact ⟨_, by simpa using he.index h⟩
  | callee e hargs => exact ⟨_, by simpa using h.call hargs⟩
  | arguments args he => exact ⟨_, by simpa using he.call h⟩
  | group e => exact ⟨_, by simpa using h.group⟩
  | list es => exact ⟨_, by simpa using h.list⟩
  | map es => exact ⟨_, by simpa using h.map⟩
  | value hkey e => exact ⟨_, by simpa using h.entry hkey⟩
  | one x => exact ⟨_, by simpa using h.one⟩
  | first x hmore => exact ⟨_, by simpa using h.more hmore⟩
  | more xs hfirst => exact ⟨_, by simpa using hfirst.more h⟩
  | row xs => exact ⟨_, by simpa using h.row⟩
  | trailing xs => exact ⟨_, by simpa using h.trailing⟩

/-- Whether the token is for something by itself: it is no symbol and no name behind a dot. -/
def Token.HasRole : Token → Prop
  | .symbol _ | .identifier _ => False
  | _ => True

section

variable {xs ys before after : List Token} {t : Token} {s l r : Symbol}

private theorem split_append (h : xs ++ ys = before ++ t :: after) :
    (∃ after', xs = before ++ t :: after' ∧ after = after' ++ ys) ∨
      ∃ before', ys = before' ++ t :: after ∧ before = xs ++ before' := by
  rcases List.append_eq_append_iff.mp h with ⟨before', rfl, hys⟩ | ⟨rest, rfl, hrest⟩
  · exact .inr ⟨before', hys, rfl⟩
  · cases rest with
    | nil => exact .inr ⟨[], hrest.symm, by simp⟩
    | cons t' after' =>
      obtain ⟨rfl, rfl⟩ := List.cons.inj hrest
      exact .inl ⟨after', rfl, rfl⟩

private theorem split_singleton {t' : Token} (h : [t'] = before ++ t :: after) :
    before = [] ∧ t' = t ∧ after = [] := by
  cases before with
  | nil => simpa [eq_comm] using h
  | cons t'' before => simp at h

private theorem split_symbol (ht : t.HasRole) (h : .symbol s :: ys = before ++ t :: after) :
    ∃ before', ys = before' ++ t :: after ∧ before = .symbol s :: before' := by
  cases before with
  | nil =>
    cases h
    cases ht
  | cons t' before' =>
    obtain ⟨rfl, rfl⟩ := List.cons.inj h
    exact ⟨before', rfl, rfl⟩

private theorem split_separated (ht : t.HasRole)
    (h : xs ++ .symbol s :: ys = before ++ t :: after) :
    (∃ after', xs = before ++ t :: after' ∧ after = after' ++ .symbol s :: ys) ∨
      ∃ before', ys = before' ++ t :: after ∧ before = xs ++ .symbol s :: before' := by
  refine (split_append h).imp_right ?_
  rintro ⟨rest, hrest, rfl⟩
  obtain ⟨before', rfl, rfl⟩ := split_symbol ht hrest
  exact ⟨before', rfl, rfl⟩

private theorem split_concat (ht : t.HasRole) (h : xs ++ [.symbol s] = before ++ t :: after) :
    ∃ after', xs = before ++ t :: after' ∧ after = after' ++ [.symbol s] := by
  rcases split_separated ht h with hxs | ⟨before', hnil, -⟩
  · exact hxs
  · simp at hnil

private theorem split_enclosed (ht : t.HasRole)
    (h : .symbol l :: xs ++ [.symbol r] = before ++ t :: after) :
    ∃ before' after', xs = before' ++ t :: after' ∧ before = .symbol l :: before' ∧
      after = after' ++ [.symbol r] := by
  obtain ⟨after', hxs, rfl⟩ := split_concat ht h
  obtain ⟨before', rfl, rfl⟩ := split_symbol ht hxs
  exact ⟨before', after', rfl, rfl, rfl⟩

end

private theorem exists_of_part {α β : Type} {q : Phrase α} {y : α} {front back : List Token}
    {p : Phrase β} {x : β} {before after : List Token} {t : Token}
    (h : ∃ role, StandsAs role q before t after y) (hpart : Part q y front back p x) :
    ∃ role, StandsAs role p (front ++ before) t (after ++ back) x :=
  h.imp fun _ ↦ .part hpart

private theorem Derives.exists_standsAs {α : Type} {p : Phrase α} {n : Nat} {ts : List Token}
    {x : α} (h : Derives p n ts x) {t : Token} (ht : t.HasRole) {before after : List Token}
    (hts : ts = before ++ t :: after) : ∃ role, StandsAs role p before t after x := by
  induction h generalizing before after with
  | test _ ih => simpa using exists_of_part (ih hts) (.test _)
  | conditional htest hyes hno ihtest ihyes ihno =>
    rw [List.append_assoc] at hts
    rcases split_separated ht hts with ⟨after', hin, rfl⟩ | ⟨before', hin, rfl⟩
    · simpa using exists_of_part (ihtest hin) (.condition _ hyes hno)
    · rcases split_separated ht hin with ⟨after', hyesin, rfl⟩ | ⟨before'', hnoin, rfl⟩
      · simpa using exists_of_part (ihyes hyesin) (.yes _ htest hno)
      · simpa using exists_of_part (ihno hnoin) (.no _ htest hyes)
  | stronger _ ih => simpa using exists_of_part (ih hts) (.stronger _ _)
  | binary op hleft hright ihleft ihright =>
    rcases split_separated ht hts with ⟨after', hin, rfl⟩ | ⟨before', hin, rfl⟩
    · simpa using exists_of_part (ihleft hin) (.left op _ hright)
    · simpa using exists_of_part (ihright hin) (.right op _ hleft)
  | operand _ ih => simpa using exists_of_part (ih hts) (.operand _)
  | unary op _ ih =>
    obtain ⟨before', hin, rfl⟩ := split_symbol ht hts
    simpa using exists_of_part (ih hin) (.unary op _)
  | access _ ih => simpa using exists_of_part (ih hts) (.access _)
  | primary _ ih => simpa using exists_of_part (ih hts) (.primary _)
  | property name _ ih =>
    rcases split_separated ht hts with ⟨after', hin, rfl⟩ | ⟨before', hin, rfl⟩
    · simpa using exists_of_part (ih hin) (.property _ name)
    · -- The only token behind the dot is the name.
      obtain ⟨-, rfl, -⟩ := split_singleton hin
      exact ht.elim
  | index he hkey ih ihkey =>
    obtain ⟨after', hfront, rfl⟩ := split_concat ht hts
    rcases split_separated ht hfront with ⟨after'', hin, rfl⟩ | ⟨before', hin, rfl⟩
    · simpa using exists_of_part (ih hin) (.indexed _ hkey)
    · simpa using exists_of_part (ihkey hin) (.index _ he)
  | call he hargs ih ihargs =>
    obtain ⟨after', hfront, rfl⟩ := split_concat ht hts
    rcases split_separated ht hfront with ⟨after'', hin, rfl⟩ | ⟨before', hin, rfl⟩
    · simpa using exists_of_part (ih hin) (.callee _ hargs)
    · simpa using exists_of_part (ihargs hin) (.arguments _ he)
  | atom h =>
    obtain ⟨rfl, rfl, rfl⟩ := split_singleton hts
    exact ⟨.operand, .operand h⟩
  | group _ ih =>
    obtain ⟨before', after', hin, rfl, rfl⟩ := split_enclosed ht hts
    simpa using exists_of_part (ih hin) (.group _)
  | list _ ih =>
    obtain ⟨before', after', hin, rfl, rfl⟩ := split_enclosed ht hts
    simpa using exists_of_part (ih hin) (.list _)
  | map _ ih =>
    obtain ⟨before', after', hin, rfl, rfl⟩ := split_enclosed ht hts
    simpa using exists_of_part (ih hin) (.map _)
  | entry hkey hvalue ih =>
    cases before with
    | nil =>
      cases hts
      exact ⟨.key, .key hkey hvalue⟩
    | cons t' before =>
      obtain ⟨rfl, hbehind⟩ := List.cons.inj hts
      obtain ⟨before', hin, rfl⟩ := split_symbol ht hbehind
      simpa using exists_of_part (ih hin) (.value hkey _)
  | one _ ih => simpa using exists_of_part (ih hts) (.one _)
  | more hfirst hmore ih ihmore =>
    rcases split_separated ht hts with ⟨after', hin, rfl⟩ | ⟨before', hin, rfl⟩
    · simpa using exists_of_part (ih hin) (.first _ hmore)
    · simpa using exists_of_part (ihmore hin) (.more _ hfirst)
  | none => simp at hts
  | row _ ih => simpa using exists_of_part (ih hts) (.row _)
  | trailing _ ih =>
    obtain ⟨after', hin, rfl⟩ := split_concat ht hts
    simpa using exists_of_part (ih hin) (.trailing _)

section

variable {α : Type} {role : Role} {p : Phrase α} {before after : List Token} {t : Token} {x : α}

private theorem StandsAs.exists_derives (h : StandsAs role p before t after x) :
    ∃ n, Derives p n (before ++ t :: after) x := by
  induction h with
  | operand h => exact ⟨1, .atom h⟩
  | key hkey h => exact ⟨_, .entry hkey h⟩
  | part hpart _ ih =>
    obtain ⟨n, h⟩ := ih
    obtain ⟨m, h⟩ := hpart.exists_derives h
    exact ⟨m, by simpa using h⟩

/-- A phrase with a token that is for something is derived just where the token is an operand or a
key in it. -/
theorem exists_derives_iff_standsAs (ht : t.HasRole) :
    (∃ n, Derives p n (before ++ t :: after) x) ↔ ∃ role, StandsAs role p before t after x :=
  ⟨fun ⟨_, h⟩ ↦ h.exists_standsAs ht rfl, fun ⟨_, h⟩ ↦ h.exists_derives⟩

/-! ### Around a token -/

/-- Whether a token may be for it. -/
def Role.Admits : Role → Token → Prop
  | .operand, t => ∃ e, Atom t e
  | .key, t => ∃ key, Key t key

/-- A token that may be for something is neither a symbol nor a name behind a dot. -/
theorem Role.Admits.hasRole (h : role.Admits t) : t.HasRole := by
  cases role <;> obtain ⟨_, h⟩ := h <;> cases h <;> trivial

/-- A token is for something that it may be for. -/
theorem StandsAs.admits (h : StandsAs role p before t after x) : role.Admits t := by
  induction h with
  | operand h => exact ⟨_, h⟩
  | key hkey _ => exact ⟨_, hkey⟩
  | part _ _ ih => exact ih

/-- A colon stands behind a key. -/
theorem StandsAs.exists_colon (h : StandsAs .key p before t after x) :
    ∃ ts, after = .symbol .colon :: ts := by
  generalize hrole : Role.key = role at h
  induction h with
  | operand _ => cases hrole
  | key _ _ => exact ⟨_, rfl⟩
  | part _ _ ih =>
    obtain ⟨ts, rfl⟩ := ih hrole
    exact ⟨_, rfl⟩

/-- Whether a phrase is made of entries of maps. -/
private def Phrase.HasEntries : {α : Type} → Phrase α → Prop
  | _, .item .entry | _, .row .entry | _, .items .entry => True
  | _, _ => False

private theorem Part.ends_with_separator {β : Type} {q : Phrase β} {y : β} {front back : List Token}
    (h : Part q y front back p x) (hq : q.HasEntries) :
    (∃ ts, front = ts ++ [.symbol .braceOpen] ∨ front = ts ++ [.symbol .comma]) ∨
      front = [] ∧ p.HasEntries := by
  cases h with
  | @one _ i _ => cases i <;> first | exact .inr ⟨rfl, trivial⟩ | cases hq
  | @first _ i _ _ _ _ _ => cases i <;> first | exact .inr ⟨rfl, trivial⟩ | cases hq
  | more _ _ => exact .inl ⟨_, .inr rfl⟩
  | @row _ i _ => cases i <;> first | exact .inr ⟨rfl, trivial⟩ | cases hq
  | @trailing _ i _ => cases i <;> first | exact .inr ⟨rfl, trivial⟩ | cases hq
  | map es => exact .inl ⟨[], .inl rfl⟩
  | _ => cases hq

private theorem StandsAs.ends_with_separator (h : StandsAs .key p before t after x) :
    (∃ ts, before = ts ++ [.symbol .braceOpen] ∨ before = ts ++ [.symbol .comma]) ∨
      before = [] ∧ p.HasEntries := by
  generalize hrole : Role.key = role at h
  induction h with
  | operand _ => cases hrole
  | key _ _ => exact .inr ⟨rfl, trivial⟩
  | part hpart _ ih =>
    rcases ih hrole with ⟨ts, rfl | rfl⟩ | ⟨rfl, hentries⟩
    · exact .inl ⟨_, .inl (List.append_assoc _ _ _).symm⟩
    · exact .inl ⟨_, .inr (List.append_assoc _ _ _).symm⟩
    · rw [List.append_nil]
      exact hpart.ends_with_separator hentries

end

/-- In an expression an opening brace or a comma stands in front of a key. -/
theorem StandsAs.exists_separator {before after : List Token} {t : Token} {e : Expr}
    (h : StandsAs .key (.item .expression) before t after e) :
    ∃ ts, before = ts ++ [.symbol .braceOpen] ∨ before = ts ++ [.symbol .comma] :=
  h.ends_with_separator.resolve_right fun ⟨_, hentries⟩ ↦ hentries

end Stencil
