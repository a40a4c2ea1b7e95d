import Stencil.Expr.Parser

/-!
# The grammar of expressions

The grammar says which tokens make up an expression, and how deeply that expression is nested. The
parser reads what the grammar says: whatever it reads has been derived, and whatever is derived, and
not nested too deeply, is read. So no tokens make up two expressions.
-/

namespace Stencil

/-! ### Operators -/

/-- The symbol of an operator in front of its operand. -/
def UnaryOp.symbol : UnaryOp → Symbol
  | .not => .bang
  | .negate => .minus
  | .number => .plus

/-- The symbol of an operator between its operands. -/
def BinaryOp.symbol : BinaryOp → Symbol
  | .eq => .eq
  | .ne => .ne
  | .strictEq => .strictEq
  | .strictNe => .strictNe
  | .lt => .lt
  | .le => .le
  | .gt => .gt
  | .ge => .ge
  | .and => .and
  | .or => .or
  | .add => .plus
  | .sub => .minus
  | .mul => .times
  | .div => .slash
  | .rem => .percent

/-- How strongly an operator binds its operands, from 0 to 5. -/
def BinaryOp.strength : BinaryOp → Nat
  | .or => 0
  | .and => 1
  | .eq | .ne | .strictEq | .strictNe => 2
  | .lt | .le | .gt | .ge => 3
  | .add | .sub => 4
  | .mul | .div | .rem => 5

/-- How strongly a symbol binds to what stands in front of it; zero is not at all. -/
def Symbol.strength : Symbol → Nat
  | .question => 1
  | .or => 2
  | .and => 3
  | .eq | .ne | .strictEq | .strictNe => 4
  | .lt | .le | .gt | .ge => 5
  | .plus | .minus => 6
  | .times | .slash | .percent => 7
  | .dot | .bracketOpen | .parenOpen => 8
  | _ => 0

/-- An operator binds what stands in front of it by its strength. -/
theorem BinaryOp.strength_symbol (op : BinaryOp) : op.symbol.strength = op.strength + 2 := by
  cases op <;> rfl

namespace Parser

/-- The operators in front of operands are read by their symbols. -/
theorem unaryOp?_eq_some {s : Symbol} {op : UnaryOp} :
    unaryOp? s = some op ↔ op.symbol = s := by
  cases s <;> cases op <;> simp [unaryOp?, UnaryOp.symbol]

/-- The operators of the levels that are left bind with the strengths that are left. -/
theorem exists_level {k : Nat} (hk : k < 6) :
    ∃ op?, levels.drop k = op? :: levels.drop (k + 1) ∧
      ∀ s op, op? s = some op ↔ op.symbol = s ∧ op.strength = k := by
  match k with
  | 0 | 1 | 2 | 3 | 4 | 5 =>
    refine ⟨_, rfl, fun s op ↦ ⟨fun h ↦ ?_, ?_⟩⟩
    · cases s <;> cases h <;> exact ⟨rfl, rfl⟩
    · rintro ⟨rfl, h⟩
      cases op <;> first | rfl | exact absurd h (by decide)

/-- Reads operators of the strength and stronger ones between operands. -/
def binaryFrom (k : Nat) (operand : Parser Expr) : Parser Expr :=
  (levels.drop k).foldr level operand

end Parser

/-! ### Phrases and their derivations -/

/-- What commas separate. -/
inductive Item : Type → Type where
  /-- An expression. -/
  | expression : Item Expr
  /-- An entry of a map. -/
  | entry : Item (String × Expr)

/-- The phrases of the grammar, by the type of what they stand for. -/
inductive Phrase : Type → Type 1 where
  /-- An expression or an entry of a map. -/
  | item {α : Type} (i : Item α) : Phrase α
  /-- Operators that bind at least as strongly as given, between operands. -/
  | binary (strength : Nat) : Phrase Expr
  /-- Operators in front of an operand. -/
  | operand : Phrase Expr
  /-- Access and calls behind a primary expression. -/
  | access : Phrase Expr
  /-- A primary expression. -/
  | primary : Phrase Expr
  /-- Items with commas between them. -/
  | row {α : Type} (i : Item α) : Phrase (List α)
  /-- What stands between brackets: nothing, or items and maybe one more comma. -/
  | items {α : Type} (i : Item α) : Phrase (List α)

/-- The tokens that are expressions. -/
inductive Atom : Token → Expr → Prop where
  /-- Names joined by dots. -/
  | path {text root : List Char} {names : List (List Char)}
      (h : Text.splitAtChar '.' text = root :: names) :
      Atom (.path text) (.path (String.ofList root) (names.map String.ofList))
  /-- A string. -/
  | str (s : String) : Atom (.str s) (.const (.plain s))
  /-- An integer. -/
  | int (n : Int64) : Atom (.int n) (.const (.int n))
  /-- A floating-point number. -/
  | float (x : Float) : Atom (.float x) (.const (.float x))
  /-- A truth value. -/
  | bool (b : Bool) : Atom (.bool b) (.const (.bool b))
  /-- The word `null`. -/
  | null : Atom .null (.const .null)
  /-- The word `undefined`. -/
  | undefined : Atom .undefined (.const .undefined)
  /-- A regular expression that is valid. -/
  | regex {source flags : List Char} {r : Regex}
      (h : Regex.read (String.ofList source) (String.ofList flags) = .ok r) :
      Atom (.regex source flags) (.const (.regex r))

/-- The tokens that are keys of maps. -/
inductive Key : Token → String → Prop where
  /-- A name in front of a colon. -/
  | objectKey (text : List Char) : Key (.objectKey text) (String.ofList text)
  /-- A name. -/
  | path (text : List Char) : Key (.path text) (String.ofList text)
  /-- A string. -/
  | str (s : String) : Key (.str s) s
  /-- An integer. -/
  | int (n : Int64) : Key (.int n) (Number.integerText n)
  /-- A floating-point number. -/
  | float (x : Float) : Key (.float x) (Value.float x).display

/-- The tokens that make up a phrase, what the phrase stands for, and how deeply it is nested:
expressions, primary expressions and operators in front of an operand each count once. -/
inductive Derives : {α : Type} → Phrase α → Nat → List Token → α → Prop where
  /-- Operators between operands are an expression. -/
  | test {n : Nat} {ts : List Token} {e : Expr} (htest : Derives (.binary 0) n ts e) :
      Derives (.item .expression) (n + 1) ts e
  /-- A condition. -/
  | conditional {n₁ n₂ n₃ : Nat} {ts₁ ts₂ ts₃ : List Token} {test yes no : Expr}
      (htest : Derives (.binary 0) n₁ ts₁ test) (hyes : Derives (.item .expression) n₂ ts₂ yes)
      (hno : Derives (.item .expression) n₃ ts₃ no) :
      Derives (.item .expression) (max n₁ (max n₂ n₃) + 1)
        (ts₁ ++ .symbol .question :: ts₂ ++ .symbol .colon :: ts₃) (.conditional test yes no)
  /-- No operator of the strength. -/
  | stronger {k n : Nat} {ts : List Token} {e : Expr} (h : Derives (.binary (k + 1)) n ts e) :
      Derives (.binary k) n ts e
  /-- Operators of one strength associate to the left. -/
  | binary {n₁ n₂ : Nat} {ts₁ ts₂ : List Token} (op : BinaryOp) {left right : Expr}
      (hleft : Derives (.binary op.strength) n₁ ts₁ left)
      (hright : Derives (.binary (op.strength + 1)) n₂ ts₂ right) :
      Derives (.binary op.strength) (max n₁ n₂) (ts₁ ++ .symbol op.symbol :: ts₂)
        (.binary op left right)
  /-- An operand stands alone. -/
  | operand {n : Nat} {ts : List Token} {e : Expr} (h : Derives .operand n ts e) :
      Derives (.binary 6) n ts e
  /-- An operator in front of an operand. -/
  | unary {n : Nat} {ts : List Token} (op : UnaryOp) {e : Expr} (h : Derives .operand n ts e) :
      Derives .operand (n + 1) (.symbol op.symbol :: ts) (.unary op e)
  /-- No operator. -/
  | access {n : Nat} {ts : List Token} {e : Expr} (h : Derives .access n ts e) :
      Derives .operand n ts e
  /-- No access and no call. -/
  | primary {n : Nat} {ts : List Token} {e : Expr} (h : Derives .primary n ts e) :
      Derives .access n ts e
  /-- Access to a property. -/
  | property {n : Nat} {ts : List Token} {e : Expr} (name : List Char)
      (h : Derives .access n ts e) :
      Derives .access n (ts ++ [.symbol .dot, .identifier name])
        (.property e (String.ofList name))
  /-- Access to an item. -/
  | index {n₁ n₂ : Nat} {ts₁ ts₂ : List Token} {e key : Expr} (h : Derives .access n₁ ts₁ e)
      (hkey : Derives (.item .expression) n₂ ts₂ key) :
      Derives .access (max n₁ n₂)
        (ts₁ ++ .symbol .bracketOpen :: ts₂ ++ [.symbol .bracketClose]) (.item e key)
  /-- A call. -/
  | call {n₁ n₂ : Nat} {ts₁ ts₂ : List Token} {e : Expr} {args : List Expr}
      (h : Derives .access n₁ ts₁ e) (hargs : Derives (.items .expression) n₂ ts₂ args) :
      Derives .access (max n₁ n₂) (ts₁ ++ .symbol .parenOpen :: ts₂ ++ [.symbol .parenClose])
        (.call e args)
  /-- A token that is an expression. -/
  | atom {t : Token} {e : Expr} (h : Atom t e) : Derives .primary 1 [t] e
  /-- An expression between parentheses. -/
  | group {n : Nat} {ts : List Token} {e : Expr} (h : Derives (.item .expression) n ts e) :
      Derives .primary (n + 1) (.symbol .parenOpen :: ts ++ [.symbol .parenClose]) e
  /-- A list. -/
  | list {n : Nat} {ts : List Token} {es : List Expr} (h : Derives (.items .expression) n ts es) :
      Derives .primary (n + 1) (.symbol .bracketOpen :: ts ++ [.symbol .bracketClose]) (.list es)
  /-- A map. -/
  | map {n : Nat} {ts : List Token} {es : List (String × Expr)}
      (h : Derives (.items .entry) n ts es) :
      Derives .primary (n + 1) (.symbol .braceOpen :: ts ++ [.symbol .braceClose]) (.map es)
  /-- An entry of a map. -/
  | entry {n : Nat} {t : Token} {ts : List Token} {key : String} {e : Expr} (hkey : Key t key)
      (h : Derives (.item .expression) n ts e) :
      Derives (.item .entry) n (t :: .symbol .colon :: ts) (key, e)
  /-- One item. -/
  | one {α : Type} {i : Item α} {n : Nat} {ts : List Token} {x : α}
      (h : Derives (.item i) n ts x) : Derives (.row i) n ts [x]
  /-- An item and more items. -/
  | more {α : Type} {i : Item α} {n₁ n₂ : Nat} {ts₁ ts₂ : List Token} {x : α} {xs : List α}
      (h : Derives (.item i) n₁ ts₁ x) (hmore : Derives (.row i) n₂ ts₂ xs) :
      Derives (.row i) (max n₁ n₂) (ts₁ ++ .symbol .comma :: ts₂) (x :: xs)
  /-- No item. -/
  | none {α : Type} {i : Item α} : Derives (.items i) 0 [] []
  /-- Items without one more comma. -/
  | row {α : Type} {i : Item α} {n : Nat} {ts : List Token} {xs : List α}
      (h : Derives (.row i) n ts xs) : Derives (.items i) n ts xs
  /-- Items with one more comma. -/
  | trailing {α : Type} {i : Item α} {n : Nat} {ts : List Token} {xs : List α}
      (h : Derives (.row i) n ts xs) : Derives (.items i) n (ts ++ [.symbol .comma]) xs

/-! ### How phrases begin -/

/-- Whether the symbol is a bracket that closes. -/
def Symbol.closes : Symbol → Bool
  | .parenClose | .bracketClose | .braceClose => true
  | _ => false

/-- A bracket that closes does not bind what stands in front of it. -/
theorem Symbol.strength_of_closes {s : Symbol} (h : s.closes = true) : s.strength = 0 := by
  cases s <;> first | rfl | cases h

/-- Whether there is a first token, which is as described if it is a symbol. -/
def Begins (P : Symbol → Prop) (ts : List Token) : Prop :=
  ∃ t rest, ts = t :: rest ∧ ∀ s, t = .symbol s → P s

/-- What stands behind the first token makes no difference. -/
theorem Begins.append {P : Symbol → Prop} {ts : List Token} (h : Begins P ts) (ts' : List Token) :
    Begins P (ts ++ ts') := by
  obtain ⟨t, rest, rfl, ht⟩ := h
  exact ⟨t, rest ++ ts', rfl, ht⟩

/-- Tokens begin with the symbol in front. -/
theorem begins_symbol {P : Symbol → Prop} {s : Symbol} (h : P s) (ts : List Token) :
    Begins P (.symbol s :: ts) := by
  refine ⟨_, ts, rfl, fun s' hs' ↦ ?_⟩
  cases hs'
  exact h

/-- No symbol is an expression. -/
theorem Atom.begins {P : Symbol → Prop} {t : Token} {e : Expr} (h : Atom t e) : Begins P [t] := by
  cases h <;> exact ⟨_, [], rfl, by simp⟩

private theorem Key.begins {P : Symbol → Prop} {t : Token} {key : String} (h : Key t key)
    (ts : List Token) : Begins P (t :: ts) := by
  cases h <;> exact ⟨_, ts, rfl, by simp⟩

private theorem UnaryOp.closes_symbol (op : UnaryOp) : op.symbol.closes = false := by
  cases op <;> rfl

/-- Whether a phrase may have no tokens. -/
def Phrase.MayBeEmpty : {α : Type} → Phrase α → Prop
  | _, .items _ => True
  | _, _ => False

/-- A phrase does not begin with a bracket that closes. -/
theorem Derives.begins {α : Type} {p : Phrase α} {n : Nat} {ts : List Token} {x : α}
    (h : Derives p n ts x) (hp : ¬p.MayBeEmpty) : Begins (fun s ↦ s.closes = false) ts := by
  induction h with
  | test _ ih | stronger _ ih | operand _ ih | access _ ih | primary _ ih | one _ ih => exact ih id
  | conditional _ _ _ ih _ _ => exact ((ih id).append _).append _
  | binary _ _ _ ih _ => exact (ih id).append _
  | unary op _ _ => exact begins_symbol op.closes_symbol _
  | property _ _ ih => exact (ih id).append _
  | index _ _ ih _ => exact ((ih id).append _).append _
  | call _ _ ih _ => exact ((ih id).append _).append _
  | atom h => exact h.begins
  | group _ _ | list _ _ | map _ _ => exact begins_symbol (P := fun s ↦ s.closes = false) rfl _
  | entry hkey _ _ => exact hkey.begins _
  | more _ _ ih _ => exact (ih id).append _
  | none => exact absurd trivial hp
  | row _ _ => exact absurd trivial hp
  | trailing _ _ => exact absurd trivial hp

end Stencil
