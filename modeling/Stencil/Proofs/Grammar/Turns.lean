import Stencil.Proofs.Grammar.Complete
import Stencil.Signature

/-!
# Turns of operands and operators

In an expression operands and operators take turns, brackets are closed in the order in which they
are opened, and commas stand between brackets only. These are the rules that a reader can check
token by token, with no more than the open brackets in mind.
-/

namespace Stencil

/-- Whether the symbol is a bracket that opens. -/
def Symbol.opens : Symbol → Bool
  | .parenOpen | .bracketOpen | .braceOpen => true
  | _ => false

/-- Whether the symbol is an operator that stands in front of operands. -/
def Symbol.leads : Symbol → Bool
  | .bang | .minus | .plus => true
  | _ => false

/-- What comes next in an expression. -/
inductive Turn where
  /-- An operand. -/
  | operand
  /-- An operator, or the end. -/
  | operator
deriving DecidableEq, Repr

/-- A place between the tokens of an expression. -/
structure Place where
  /-- What comes next. -/
  turn : Turn
  /-- The brackets that are open, each by the one that closes it. -/
  closing : List Char
deriving DecidableEq, Repr

namespace Place

/-- The place behind a symbol that is no bracket, unless it breaks the rules. -/
def afterOperator (p : Place) (s : Symbol) : Option Place :=
  match s with
  | .assign | .pipe => none
  | .comma => if p.turn = .operand ∨ p.closing = [] then none else some { p with turn := .operand }
  | s => if p.turn = .operator ∨ s.leads then some { p with turn := .operand } else none

/-- The place behind a token, unless it breaks the rules. -/
def after (p : Place) : Token → Option Place
  | .symbol s =>
    if s.opens then some ⟨.operand, Signature.bracketsAfter p.closing s.text⟩
    else if s.closes then some ⟨.operator, Signature.bracketsAfter p.closing s.text⟩
    else p.afterOperator s
  | _ => some { p with turn := .operator }

/-- The place behind tokens, unless they break the rules. -/
def walk (p : Place) (ts : List Token) : Option Place := ts.foldlM after p

/-- Without tokens the place stays. -/
@[simp] theorem walk_nil (p : Place) : p.walk [] = some p := rfl

/-- Tokens are walked from first to last. -/
@[simp] theorem walk_cons (p : Place) (t : Token) (ts : List Token) :
    p.walk (t :: ts) = (p.after t).bind fun q ↦ q.walk ts := rfl

/-- Rows of tokens are walked one behind the other. -/
@[simp] theorem walk_append (p : Place) (ts ts' : List Token) :
    p.walk (ts ++ ts') = (p.walk ts).bind fun q ↦ q.walk ts' :=
  List.foldlM_append

/-! ### Steps -/

private theorem after_opens (cl : List Char) :
    (∀ turn, after ⟨turn, cl⟩ (.symbol .parenOpen) = some ⟨.operand, ')' :: cl⟩) ∧
      (∀ turn, after ⟨turn, cl⟩ (.symbol .bracketOpen) = some ⟨.operand, ']' :: cl⟩) ∧
      ∀ turn, after ⟨turn, cl⟩ (.symbol .braceOpen) = some ⟨.operand, '\x7d' :: cl⟩ :=
  ⟨fun _ ↦ rfl, fun _ ↦ rfl, fun _ ↦ rfl⟩

private theorem after_closes (cl : List Char) :
    (∀ turn, after ⟨turn, ')' :: cl⟩ (.symbol .parenClose) = some ⟨.operator, cl⟩) ∧
      (∀ turn, after ⟨turn, ']' :: cl⟩ (.symbol .bracketClose) = some ⟨.operator, cl⟩) ∧
      ∀ turn, after ⟨turn, '\x7d' :: cl⟩ (.symbol .braceClose) = some ⟨.operator, cl⟩ :=
  ⟨fun _ ↦ rfl, fun _ ↦ rfl, fun _ ↦ rfl⟩

private theorem after_binary (op : BinaryOp) (cl : List Char) :
    after ⟨.operator, cl⟩ (.symbol op.symbol) = some ⟨.operand, cl⟩ := by
  cases op <;> rfl

private theorem after_unary (op : UnaryOp) (cl : List Char) :
    after ⟨.operand, cl⟩ (.symbol op.symbol) = some ⟨.operand, cl⟩ := by
  cases op <;> rfl

private theorem after_comma {cl : List Char} (hcl : cl ≠ []) :
    after ⟨.operator, cl⟩ (.symbol .comma) = some ⟨.operand, cl⟩ := by
  simp [after, Symbol.opens, Symbol.closes, afterOperator, hcl]

end Place

private theorem Atom.after {t : Token} {e : Expr} (h : Atom t e) (p : Place) :
    p.after t = some { p with turn := .operator } := by
  cases h <;> rfl

private theorem Key.after {t : Token} {key : String} (h : Key t key) (p : Place) :
    p.after t = some { p with turn := .operator } := by
  cases h <;> rfl

/-! ### Walks -/

/-- Whether the tokens of a phrase lead from an operand that is due to the end of one, and leave the
open brackets as they are. Rows of items stand between brackets, and what stands there may be
nothing or end with a comma. -/
def Phrase.TakesTurns : {α : Type} → Phrase α → List Token → Prop
  | _, .row _, ts => ∀ cl, cl ≠ [] → Place.walk ⟨.operand, cl⟩ ts = some ⟨.operator, cl⟩
  | _, .items _, ts => ∀ cl, cl ≠ [] → ∃ turn, Place.walk ⟨.operand, cl⟩ ts = some ⟨turn, cl⟩
  | _, _, ts => ∀ cl, Place.walk ⟨.operand, cl⟩ ts = some ⟨.operator, cl⟩

private theorem walk_enclosed {turn turn' : Turn} {cl : List Char} {l r : Symbol} {c : Char}
    {ts : List Token}
    (hl : Place.after ⟨turn, cl⟩ (.symbol l) = some ⟨.operand, c :: cl⟩)
    (hr : Place.after ⟨turn', c :: cl⟩ (.symbol r) = some ⟨.operator, cl⟩)
    (h : Place.walk ⟨.operand, c :: cl⟩ ts = some ⟨turn', c :: cl⟩) :
    Place.walk ⟨turn, cl⟩ (.symbol l :: ts ++ [.symbol r]) = some ⟨.operator, cl⟩ := by
  rw [Place.walk_append, Place.walk_cons, hl, Option.bind_some, h, Option.bind_some,
    Place.walk_cons, hr, Option.bind_some, Place.walk_nil]

/-- The tokens of a phrase follow the rules. -/
theorem Derives.takesTurns {α : Type} {p : Phrase α} {n : Nat} {ts : List Token} {x : α}
    (h : Derives p n ts x) : p.TakesTurns ts := by
  induction h with
  | test _ ih | stronger _ ih | operand _ ih | access _ ih | primary _ ih => exact ih
  | conditional _ _ _ ihtest ihyes ihno =>
    intro cl
    have hquestion : Place.after ⟨.operator, cl⟩ (.symbol .question) = some ⟨.operand, cl⟩ := rfl
    have hcolon : Place.after ⟨.operator, cl⟩ (.symbol .colon) = some ⟨.operand, cl⟩ := rfl
    simp [ihtest cl, ihyes cl, ihno cl, hquestion, hcolon]
  | binary op _ _ ihleft ihright =>
    intro cl
    simp [ihleft cl, ihright cl, Place.after_binary]
  | unary op _ ih =>
    intro cl
    simp [ih cl, Place.after_unary]
  | property name _ ih =>
    intro cl
    have hdot : Place.after ⟨.operator, cl⟩ (.symbol .dot) = some ⟨.operand, cl⟩ := rfl
    have hname : Place.after ⟨.operand, cl⟩ (.identifier name) = some ⟨.operator, cl⟩ := rfl
    simp [ih cl, hdot, hname]
  | index _ _ ih ihkey =>
    intro cl
    rw [List.append_assoc, Place.walk_append, ih cl]
    exact walk_enclosed ((Place.after_opens cl).2.1 _) ((Place.after_closes cl).2.1 _) (ihkey _)
  | call _ _ ih ihargs =>
    intro cl
    obtain ⟨turn, hargs⟩ := ihargs (')' :: cl) (by simp)
    rw [List.append_assoc, Place.walk_append, ih cl]
    exact walk_enclosed ((Place.after_opens cl).1 _) ((Place.after_closes cl).1 _) hargs
  | atom h =>
    intro cl
    simp [h.after]
  | group _ ih =>
    intro cl
    exact walk_enclosed ((Place.after_opens cl).1 _) ((Place.after_closes cl).1 _) (ih _)
  | list _ ih =>
    intro cl
    obtain ⟨turn, hitems⟩ := ih (']' :: cl) (by simp)
    exact walk_enclosed ((Place.after_opens cl).2.1 _) ((Place.after_closes cl).2.1 _) hitems
  | map _ ih =>
    intro cl
    obtain ⟨turn, hitems⟩ := ih ('\x7d' :: cl) (by simp)
    exact walk_enclosed ((Place.after_opens cl).2.2 _) ((Place.after_closes cl).2.2 _) hitems
  | entry hkey _ ih =>
    intro cl
    have hcolon : Place.after ⟨.operator, cl⟩ (.symbol .colon) = some ⟨.operand, cl⟩ := rfl
    simp [hkey.after, hcolon, ih cl]
  | @one _ i _ _ _ _ ih =>
    intro cl _
    cases i <;> exact ih cl
  | @more _ i _ _ _ _ _ _ _ _ ih ihmore =>
    intro cl hcl
    have hitem := by cases i <;> exact ih cl
    simp [hitem, Place.after_comma hcl, ihmore cl hcl]
  | none => exact fun cl _ ↦ ⟨.operand, rfl⟩
  | row _ ih => exact fun cl hcl ↦ ⟨.operator, ih cl hcl⟩
  | trailing _ ih =>
    intro cl hcl
    exact ⟨.operand, by simp [ih cl hcl, Place.after_comma hcl]⟩

/-! ### Regular expressions -/

/-- Whether a token is no regular expression or a valid one. -/
def Token.RegexIsValid : Token → Prop
  | .regex source flags => ∃ r, Regex.read (String.ofList source) (String.ofList flags) = .ok r
  | _ => True

private theorem regexIsValid_symbol (s : Symbol) : (Token.symbol s).RegexIsValid := trivial

private theorem regexIsValid_identifier (name : List Char) :
    (Token.identifier name).RegexIsValid := trivial

/-- The regular expressions in a phrase are valid. -/
theorem Derives.regexIsValid {α : Type} {p : Phrase α} {n : Nat} {ts : List Token} {x : α}
    (h : Derives p n ts x) : ∀ t ∈ ts, t.RegexIsValid := by
  induction h with
  | test _ ih | stronger _ ih | operand _ ih | access _ ih | primary _ ih | one _ ih | row _ ih =>
    exact ih
  | conditional _ _ _ ihtest ihyes ihno =>
    simp only [List.forall_mem_append, List.forall_mem_cons]
    exact ⟨⟨ihtest, regexIsValid_symbol _, ihyes⟩, regexIsValid_symbol _, ihno⟩
  | binary _ _ _ ihleft ihright =>
    simp only [List.forall_mem_append, List.forall_mem_cons]
    exact ⟨ihleft, regexIsValid_symbol _, ihright⟩
  | property _ _ ih =>
    simp only [List.forall_mem_append, List.forall_mem_cons]
    exact ⟨ih, regexIsValid_symbol _, regexIsValid_identifier _, List.forall_mem_nil _⟩
  | index _ _ ih ihrest | call _ _ ih ihrest =>
    simp only [List.forall_mem_append, List.forall_mem_cons]
    exact ⟨⟨ih, regexIsValid_symbol _, ihrest⟩, regexIsValid_symbol _, List.forall_mem_nil _⟩
  | more _ _ ih ihmore =>
    simp only [List.forall_mem_append, List.forall_mem_cons]
    exact ⟨ih, regexIsValid_symbol _, ihmore⟩
  | unary _ _ ih => exact List.forall_mem_cons.mpr ⟨regexIsValid_symbol _, ih⟩
  | group _ ih | list _ ih | map _ ih =>
    simp only [List.forall_mem_append, List.forall_mem_cons]
    exact ⟨⟨regexIsValid_symbol _, ih⟩, regexIsValid_symbol _, List.forall_mem_nil _⟩
  | trailing _ ih =>
    simp only [List.forall_mem_append, List.forall_mem_cons]
    exact ⟨ih, regexIsValid_symbol _, List.forall_mem_nil _⟩
  | entry hkey _ ih =>
    refine List.forall_mem_cons.mpr ⟨?_, List.forall_mem_cons.mpr ⟨regexIsValid_symbol _, ih⟩⟩
    cases hkey <;> trivial
  | atom h =>
    rw [List.forall_mem_singleton]
    cases h with
    | regex h => exact ⟨_, h⟩
    | _ => trivial
  | none => exact List.forall_mem_nil _

end Stencil
