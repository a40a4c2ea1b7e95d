import Stencil.Proofs.Literal.RoundTrip
import Stencil.Proofs.Steps
import Stencil.Proofs.Task

/-!
# The depth of expressions

The parser counts how deeply expressions are nested in the source. It does not count operators that
stand side by side: operands of one strength and accesses behind an expression are read in a loop,
and each of them puts the expression in front of it one level further down. Apart from such rows an
expression is not deeper than a multiple of the nesting that is allowed. To evaluate an expression
takes no more levels than it is deep. Main statement: `depth_le_rows`.
-/

namespace Stencil

namespace Expr

/-! ### Depths and rows -/

/-- Whether an expression ends with an access or a call. -/
def isAccess : Expr → Bool
  | .property _ _ | .item _ _ | .call _ _ => true
  | _ => false

/-- Whether an expression applies an operator of the given strength. -/
def isBinary (k : Nat) : Expr → Bool
  | .binary op _ _ => op.strength == k
  | _ => false

mutual

/-- The greatest sum on a way down into an expression. What continues a row counts `along`: an
access in front of an access, and a left operand with an operator of the same strength. Any other
expression counts `inside`. -/
def reach (along inside : Nat) : Expr → Nat
  | .const _ => inside
  | .path _ _ => inside
  | .property e _ => e.reach along inside + if e.isAccess then along else inside
  | .item e key =>
    max (e.reach along inside + if e.isAccess then along else inside)
      (key.reach along inside + inside)
  | .call callee args =>
    max (callee.reach along inside + if callee.isAccess then along else inside)
      (reaches along inside args + inside)
  | .unary _ e => e.reach along inside + inside
  | .binary op left right =>
    max (left.reach along inside + if left.isBinary op.strength then along else inside)
      (right.reach along inside + inside)
  | .conditional test yes no =>
    max (test.reach along inside) (max (yes.reach along inside) (no.reach along inside)) + inside
  | .list items => reaches along inside items + inside
  | .map entries => reachesOfEntries along inside entries + inside

/-- The greatest sum on a way down into one of some expressions. -/
def reaches (along inside : Nat) : List Expr → Nat
  | [] => 0
  | e :: es => max (e.reach along inside) (reaches along inside es)

/-- The greatest sum on a way down into one of the expressions of map entries. -/
def reachesOfEntries (along inside : Nat) : List (String × Expr) → Nat
  | [] => 0
  | (_, e) :: es => max (e.reach along inside) (reachesOfEntries along inside es)

end

/-- How many expressions stand one inside the other. -/
def depth : Expr → Nat := reach 1 1

/-- Reading a property adds a level. -/
theorem depth_property (e : Expr) (name : String) : (property e name).depth = e.depth + 1 := by
  simp [depth, reach]

/-- Reading an item adds a level to its base and its key. -/
theorem depth_item (e key : Expr) : (item e key).depth = max e.depth key.depth + 1 := by
  simp [depth, reach]

/-- A call adds a level to its callee and its arguments. -/
theorem depth_call (callee : Expr) (args : List Expr) :
    (call callee args).depth = max callee.depth (reaches 1 1 args) + 1 := by
  simp [depth, reach]

/-- An operator adds a level to its operands. -/
theorem depth_binary (op : BinaryOp) (left right : Expr) :
    (binary op left right).depth = max left.depth right.depth + 1 := by
  simp [depth, reach]

/-- How many expressions stand one inside the other if those of a row count as one. -/
def nesting : Expr → Nat := reach 0 1

/-- How many expressions on one way down continue the rows that they are in. -/
def rows : Expr → Nat := reach 1 0

mutual

/-- The expressions on a way down are those that continue rows and the others. -/
theorem depth_le_nesting_add_rows : ∀ e : Expr, e.depth ≤ e.nesting + e.rows
  | .const _ => Nat.le_refl 1
  | .path _ _ => Nat.le_refl 1
  | .property e _ => by
    have he := depth_le_nesting_add_rows e
    simp only [depth, nesting, rows, reach] at he ⊢
    split <;> omega
  | .item e key => by
    have he := depth_le_nesting_add_rows e
    have hkey := depth_le_nesting_add_rows key
    simp only [depth, nesting, rows, reach] at he hkey ⊢
    split <;> omega
  | .call callee args => by
    have hcallee := depth_le_nesting_add_rows callee
    have hargs := reaches_le args
    simp only [depth, nesting, rows, reach] at hcallee hargs ⊢
    split <;> omega
  | .unary _ e => by
    have he := depth_le_nesting_add_rows e
    simp only [depth, nesting, rows, reach] at he ⊢
    omega
  | .binary op left right => by
    have hleft := depth_le_nesting_add_rows left
    have hright := depth_le_nesting_add_rows right
    simp only [depth, nesting, rows, reach] at hleft hright ⊢
    split <;> omega
  | .conditional test yes no => by
    have htest := depth_le_nesting_add_rows test
    have hyes := depth_le_nesting_add_rows yes
    have hno := depth_le_nesting_add_rows no
    simp only [depth, nesting, rows, reach] at htest hyes hno ⊢
    omega
  | .list items => by
    have hitems := reaches_le items
    simp only [depth, nesting, rows, reach] at hitems ⊢
    omega
  | .map entries => by
    have hentries := reachesOfEntries_le entries
    simp only [depth, nesting, rows, reach] at hentries ⊢
    omega

private theorem reaches_le : ∀ es : List Expr, reaches 1 1 es ≤ reaches 0 1 es + reaches 1 0 es
  | [] => Nat.le_refl 0
  | e :: es => by
    have he := depth_le_nesting_add_rows e
    have hes := reaches_le es
    simp only [depth, nesting, rows, reaches] at he hes ⊢
    omega

private theorem reachesOfEntries_le : ∀ es : List (String × Expr),
    reachesOfEntries 1 1 es ≤ reachesOfEntries 0 1 es + reachesOfEntries 1 0 es
  | [] => Nat.le_refl 0
  | (_, e) :: es => by
    have he := depth_le_nesting_add_rows e
    have hes := reachesOfEntries_le es
    simp only [depth, nesting, rows, reachesOfEntries] at he hes ⊢
    omega

end

/-- There are six strengths. -/
theorem isBinary_eq_false {k : Nat} (hk : 6 ≤ k) (e : Expr) : e.isBinary k = false := by
  cases e with
  | binary op left right =>
    have hop : op.strength ≤ 5 := by cases op <;> decide
    rw [isBinary, beq_eq_false_iff_ne]
    omega
  | _ => rfl

end Expr

/-! ### Items -/

namespace Item

/-- The expression in an item. -/
def expr : {α : Type} → Item α → α → Expr
  | _, .expression, e => e
  | _, .entry, x => x.2

/-- How many of the expressions in items stand one inside the other if those of a row count as
one. -/
def nestings : {α : Type} → Item α → List α → Nat
  | _, .expression, es => Expr.reaches 0 1 es
  | _, .entry, es => Expr.reachesOfEntries 0 1 es

/-- Without items there is nothing nested. -/
theorem nestings_nil {α : Type} (i : Item α) : i.nestings [] = 0 := by
  cases i <;> rfl

/-- Items are nested as deeply as the deepest of them. -/
theorem nestings_cons {α : Type} (i : Item α) (x : α) (xs : List α) :
    i.nestings (x :: xs) = max (i.expr x).nesting (i.nestings xs) := by
  cases i <;> rfl

end Item

/-! ### What is derived -/

/-- How many of the expressions of a phrase stand one inside the other if those of a row count as
one. -/
def Phrase.nesting : {α : Type} → Phrase α → α → Nat
  | _, .item i, x => (i.expr x).nesting
  | _, .row i, xs => i.nestings xs
  | _, .items i, xs => i.nestings xs
  | _, .binary _, e => e.nesting
  | _, .operand, e => e.nesting
  | _, .access, e => e.nesting
  | _, .primary, e => e.nesting

/-- How many rows may stand one inside the other in a phrase without any nesting: one of accesses
and one for each strength of operators. -/
def Phrase.margin : {α : Type} → Phrase α → α → Nat
  | _, .binary k, e => 1 + (5 - k) + if e.isBinary k then 1 else 0
  | _, .operand, _ => 1
  | _, .access, e => if e.isAccess then 1 else 0
  | _, _, _ => 0

section

variable {α : Type} {p : Phrase α} {n : Nat} {ts : List Token} {x : α}

private theorem margin_succ_le (e : Expr) (k : Nat) :
    (Phrase.binary (k + 1)).margin e ≤ 1 + (5 - k) := by
  simp only [Phrase.margin]
  by_cases hk : k < 5
  · split <;> omega
  · rw [e.isBinary_eq_false (by omega), if_neg Bool.false_ne_true]
    omega

private theorem owner_le {e : Expr} (h : e.nesting ≤ 8 * n + Phrase.access.margin e) :
    (e.nesting + if e.isAccess then 0 else 1) ≤ 8 * n + 1 := by
  rw [Phrase.margin] at h
  split at h
  · next hends => rwa [if_pos hends]
  · next hends =>
    rw [if_neg hends]
    exact Nat.add_le_add_right h 1

/-- What is derived is not deeper than eight rows for each level of nesting. -/
theorem Derives.nesting_le (h : Derives p n ts x) : p.nesting x ≤ 8 * n + p.margin x := by
  induction h with
  | @test n ts e h ih =>
    simp only [Phrase.nesting, Phrase.margin, Item.expr] at ih ⊢
    split at ih <;> omega
  | @conditional n₁ n₂ n₃ ts₁ ts₂ ts₃ test yes no htest hyes hno ihtest ihyes ihno =>
    simp only [Phrase.nesting, Phrase.margin, Item.expr, Expr.nesting, Expr.reach]
      at ihtest ihyes ihno ⊢
    split at ihtest <;> omega
  | @stronger k n ts e h ih =>
    have hmargin := margin_succ_le e k
    simp only [Phrase.nesting, Phrase.margin] at ih hmargin ⊢
    omega
  | @binary n₁ n₂ ts₁ ts₂ op left right hleft hright ihleft ihright =>
    have hmargin := margin_succ_le right op.strength
    have hstrength : (Expr.binary op left right).isBinary op.strength = true := beq_self_eq_true _
    simp only [Phrase.nesting, Phrase.margin, Expr.nesting, Expr.reach, if_pos hstrength]
      at ihleft ihright hmargin ⊢
    by_cases hcontinues : left.isBinary op.strength = true
    · rw [if_pos hcontinues] at ihleft ⊢
      omega
    · rw [if_neg hcontinues] at ihleft ⊢
      omega
  | @operand n ts e h ih =>
    simp only [Phrase.nesting, Phrase.margin] at ih ⊢
    omega
  | unary op h ih =>
    simp only [Phrase.nesting, Phrase.margin, Expr.nesting, Expr.reach] at ih ⊢
    omega
  | @access n ts e h ih =>
    simp only [Phrase.nesting, Phrase.margin] at ih ⊢
    split at ih <;> omega
  | primary h ih =>
    simp only [Phrase.nesting, Phrase.margin] at ih ⊢
    omega
  | @property n ts e name h ih =>
    have howner := owner_le ih
    have hends : (Expr.property e (String.ofList name)).isAccess = true := rfl
    simp only [Phrase.nesting, Phrase.margin, Expr.nesting, Expr.reach, if_pos hends] at howner ⊢
    exact howner
  | @index n₁ n₂ ts₁ ts₂ e key h hkey ih ihkey =>
    have howner := owner_le ih
    have hends : (Expr.item e key).isAccess = true := rfl
    simp only [Phrase.nesting, Phrase.margin, Item.expr, Expr.nesting, Expr.reach, if_pos hends]
      at howner ihkey ⊢
    omega
  | @call n₁ n₂ ts₁ ts₂ e args h hargs ih ihargs =>
    have howner := owner_le ih
    have hends : (Expr.call e args).isAccess = true := rfl
    simp only [Phrase.nesting, Phrase.margin, Item.nestings, Expr.nesting, Expr.reach,
      if_pos hends] at howner ihargs ⊢
    omega
  | atom h => cases h <;> simp only [Phrase.nesting, Expr.nesting, Expr.reach] <;> omega
  | group h ih =>
    simp only [Phrase.nesting, Phrase.margin, Item.expr] at ih ⊢
    omega
  | list h ih =>
    simp only [Phrase.nesting, Phrase.margin, Item.nestings, Expr.nesting, Expr.reach] at ih ⊢
    omega
  | map h ih =>
    simp only [Phrase.nesting, Phrase.margin, Item.nestings, Expr.nesting, Expr.reach] at ih ⊢
    omega
  | entry hkey h ih => exact ih
  | @one α i n ts x h ih =>
    simp only [Phrase.nesting, Phrase.margin, Item.nestings_cons, Item.nestings_nil] at ih ⊢
    omega
  | more h hmore ih ihmore =>
    simp only [Phrase.nesting, Phrase.margin, Item.nestings_cons] at ih ihmore ⊢
    omega
  | none =>
    simp only [Phrase.nesting, Item.nestings_nil]
    exact Nat.zero_le _
  | row h ih => exact ih
  | trailing h ih => exact ih

/-- Each of the items that are derived is derived by itself, and not nested more deeply. -/
def Phrase.ItemsDerived : {α : Type} → Phrase α → Nat → α → Prop
  | _, .row i, n, xs => ∀ x ∈ xs, ∃ m ts, m ≤ n ∧ Derives (.item i) m ts x
  | _, .items i, n, xs => ∀ x ∈ xs, ∃ m ts, m ≤ n ∧ Derives (.item i) m ts x
  | _, _, _, _ => True

/-- What is derived as items is derived item by item. -/
theorem Derives.itemsDerived (h : Derives p n ts x) : p.ItemsDerived n x := by
  induction h with
  | @one α i n ts x h ih =>
    intro y hy
    rw [List.mem_singleton.mp hy]
    exact ⟨n, ts, Nat.le_refl n, h⟩
  | @more α i n₁ n₂ ts₁ ts₂ x xs h hmore ih ihmore =>
    intro y hy
    rcases List.mem_cons.mp hy with rfl | hy
    · exact ⟨n₁, ts₁, Nat.le_max_left _ _, h⟩
    · obtain ⟨m, ts, hm, hderives⟩ := ihmore y hy
      exact ⟨m, ts, Nat.le_trans hm (Nat.le_max_right _ _), hderives⟩
  | none => exact List.forall_mem_nil _
  | row h ih => exact ih
  | trailing h ih => exact ih
  | _ => trivial

end

/-! ### Evaluation -/

namespace Task

/-- How deep the expressions are that a task is to evaluate. -/
def depth : {α : Type} → Task α → Nat
  | _, .eval e => e.depth
  | _, .evalAll es => Expr.reaches 1 1 es
  | _, .evalEntries _ es => Expr.reachesOfEntries 1 1 es
  | _, _ => 0

/-- Only expressions of less depth than `n` are to be evaluated. -/
def shallow (n : Nat) : Contract Task where
  pre _ t _ := t.depth < n
  post _ _ _ _ _ := True

/-- Whether a script evaluates only expressions of less depth than `n` itself. -/
def IsBelow (n : Nat) {α : Type} (a : Script Task α) : Prop :=
  ∀ s, a.Meets (shallow n) (fun _ _ ↦ True) s

section

variable {α β : Type} {n d : Nat}

private theorem isBelow_end (r : Except Error α) : IsBelow n (.ofExcept r) :=
  fun _ ↦ trivial

private theorem isBelow_task {t : Task α} (h : t.depth < n) : IsBelow n (.task d t) :=
  fun _ ↦ ⟨h, fun _ _ _ ↦ trivial⟩

private theorem isBelow_then {t : Task β} {next : β → Script Task α} (h : t.depth < n)
    (hnext : ∀ x, IsBelow n (next x)) : IsBelow n (.task d t >>= next) :=
  fun _ ↦ ⟨h, fun _ s' _ ↦ onResult_iff.mpr ⟨fun x _ ↦ hnext x s', fun _ _ ↦ trivial⟩⟩

private theorem isBelow_ite {c : Prop} [Decidable c] {a b : Script Task α}
    (ha : IsBelow n a) (hb : IsBelow n b) : IsBelow n (if c then a else b) := by
  split
  · exact ha
  · exact hb

/-- Evaluating an expression evaluates expressions that are less deep, and no others. -/
theorem isBelow_evalScript (d : Nat) (e : Expr) : IsBelow e.depth (evalScript d e) := by
  cases e with
  | const v => exact isBelow_end _
  | path root names => exact isBelow_then Nat.zero_lt_one fun v ↦ isBelow_end _
  | property e name =>
    rw [Expr.depth_property]
    exact isBelow_then (Nat.lt_succ_self _) fun v ↦ isBelow_end _
  | item e key =>
    rw [Expr.depth_item]
    have he : (eval e).depth < max e.depth key.depth + 1 := Nat.lt_succ_of_le (Nat.le_max_left _ _)
    have hkey : (eval key).depth < max e.depth key.depth + 1 :=
      Nat.lt_succ_of_le (Nat.le_max_right _ _)
    exact isBelow_then he fun v ↦ isBelow_then hkey fun k ↦ isBelow_end _
  | call callee args =>
    rw [Expr.depth_call]
    have hargs : (evalAll args).depth < max callee.depth (Expr.reaches 1 1 args) + 1 :=
      Nat.lt_succ_of_le (Nat.le_max_right _ _)
    cases callee with
    | path root names =>
      refine isBelow_then hargs fun vs ↦ ?_
      cases names.getLast? with
      | none => exact isBelow_task (Nat.succ_pos _)
      | some method => exact isBelow_then (Nat.succ_pos _) fun v ↦ isBelow_end _
    | property e method =>
      have he : (eval e).depth <
          max (Expr.property e method).depth (Expr.reaches 1 1 args) + 1 := by
        rw [Expr.depth_property]
        exact Nat.lt_succ_of_le (Nat.le_trans (Nat.le_succ _) (Nat.le_max_left _ _))
      exact isBelow_then hargs fun vs ↦ isBelow_then he fun v ↦ isBelow_end _
    | _ => exact isBelow_then hargs fun vs ↦ isBelow_end _
  | unary op e => exact isBelow_then (Nat.lt_succ_self _) fun v ↦ isBelow_end _
  | binary op left right =>
    rw [Expr.depth_binary]
    have hleft : (eval left).depth < max left.depth right.depth + 1 :=
      Nat.lt_succ_of_le (Nat.le_max_left _ _)
    have hright : (eval right).depth < max left.depth right.depth + 1 :=
      Nat.lt_succ_of_le (Nat.le_max_right _ _)
    cases op with
    | and =>
      refine isBelow_then hleft fun v ↦ ?_
      exact isBelow_ite (isBelow_task hright) (isBelow_end _)
    | or =>
      refine isBelow_then hleft fun v ↦ ?_
      exact isBelow_ite (isBelow_end _) (isBelow_task hright)
    | _ => exact isBelow_then hleft fun a ↦ isBelow_then hright fun b ↦ isBelow_end _
  | conditional test yes no =>
    have htest : test.depth < (Expr.conditional test yes no).depth :=
      Nat.lt_succ_of_le (Nat.le_max_left _ _)
    have hyes : yes.depth < (Expr.conditional test yes no).depth :=
      Nat.lt_succ_of_le (Nat.le_trans (Nat.le_max_left _ _) (Nat.le_max_right _ _))
    have hno : no.depth < (Expr.conditional test yes no).depth :=
      Nat.lt_succ_of_le (Nat.le_trans (Nat.le_max_right _ _) (Nat.le_max_right _ _))
    refine isBelow_then htest fun v ↦ ?_
    exact isBelow_ite (isBelow_task hyes) (isBelow_task hno)
  | list items => exact isBelow_then (Nat.lt_succ_self _) fun vs ↦ isBelow_end _
  | map entries => exact isBelow_then (Nat.lt_succ_self _) fun table ↦ isBelow_end _

end

end Task

/-! ### Pipelines -/

namespace Expr

/-- An expression that is nested no more deeply than is allowed has no more than eight times that
many rows one inside the other. -/
theorem nesting_le_of_derives {n : Nat} {ts : List Token} {e : Expr}
    (h : Derives (.item .expression) n ts e) (hn : n ≤ Parser.maxNesting) :
    e.nesting ≤ 8 * Parser.maxNesting :=
  Nat.le_trans h.nesting_le (Nat.mul_le_mul_left 8 hn)

end Expr

private theorem FilterCall.IsStep.nesting_le {fs : List Fragment} {call : FilterCall}
    (h : IsStep fs (some call)) : ∀ e ∈ call.args, e.nesting ≤ 8 * Parser.maxNesting := by
  cases h with
  | call hwritten hname =>
    obtain ⟨before, name, between, rest, after, -, -, -, -, hargs⟩ := hwritten
    generalize call.args = args at hargs
    cases hargs with
    | none => exact List.forall_mem_nil _
    | list htokens hn hargs =>
      intro e he
      obtain ⟨m, ts, hm, hderives⟩ := hargs.itemsDerived e he
      exact Expr.nesting_le_of_derives hderives (Nat.le_trans hm hn)

namespace Pipeline

/-- The expression of a pipeline that is read, and every argument of its filters, has no more than
eight times as many rows one inside the other as expressions may be nested, and the expressions that
continue rows on one way down are what it may be deeper. Evaluation takes no more levels: to
evaluate an expression it evaluates only ones that are less deep. -/
theorem depth_le_rows {source : String} {p : Pipeline} (h : read source = .ok p) :
    (∀ e, (e = p.base ∨ ∃ call ∈ p.filters, e ∈ call.args) →
      e.nesting ≤ 8 * Parser.maxNesting ∧ e.depth ≤ e.nesting + e.rows) ∧
      ∀ d e, Task.IsBelow e.depth (Task.evalScript d e) := by
  obtain ⟨-, -, hbase, steps, hsteps, hfilters, -⟩ := read_eq_ok.mp h
  refine ⟨fun e he ↦ ⟨?_, e.depth_le_nesting_add_rows⟩, Task.isBelow_evalScript⟩
  rcases he with rfl | ⟨call, hcall, he⟩
  · obtain ⟨ts, -, hts⟩ := exists_of_bind_eq_ok hbase
    obtain ⟨n, hn, hderives⟩ := Expr.derives_of_ofTokens hts
    exact Expr.nesting_le_of_derives hderives hn
  · rw [hfilters, List.mem_filterMap] at hcall
    obtain ⟨_, hstep, rfl⟩ := hcall
    obtain ⟨fs, -, hfs⟩ := exists_of_forall₂ (List.Forall₂.flip hsteps) hstep
    exact hfs.nesting_le e he

/-! ### Accesses without a bound -/

/-- The empty list with `n` accesses behind it, as it is written. -/
def accessesSource : Nat → List Char
  | 0 => ['[', ']']
  | n + 1 => accessesSource n ++ ['[', '0', ']']

/-- The empty list with `n` accesses behind it. -/
def accessesExpr : Nat → Expr
  | 0 => .list []
  | n + 1 => .item (accessesExpr n) (.const (.int 0))

private theorem depth_accessesExpr (n : Nat) : (accessesExpr n).depth = n + 1 := by
  induction n with
  | zero => rfl
  | succ n ih =>
    rw [accessesExpr, Expr.depth_item, ih]
    exact congrArg (· + 1) (Nat.max_eq_left (Nat.succ_pos n))

private theorem derives_accesses (n : Nat) :
    ∃ m ts, m ≤ 2 ∧ LexesClosed (accessesSource n) ts ∧
      Derives .access m ts (accessesExpr n) := by
  induction n with
  | zero => exact ⟨1, _, by decide, lexes_nil.brackets, .primary (.list .none)⟩
  | succ n ih =>
    obtain ⟨m, ts, hm, hlex, hderives⟩ := ih
    have hzero : Lexes (Nat.toDigits 10 0) [.int 0] :=
      lexes_word (isWord_toDigits 0) (ofLiteral_toDigits (number?_toDigits rfl))
    have hkey : Derives (.item .expression) 2 [.int 0] (.const (.int 0)) :=
      .expression_of_primary (.atom (.int 0))
    have hitem := Derives.index hderives hkey
    rw [List.append_assoc] at hitem
    exact ⟨_, _, Nat.max_le.mpr ⟨hm, Nat.le_refl 2⟩, hlex.append hzero.brackets, hitem⟩

private theorem exists_enclosed (n : Nat) :
    ∃ cs, accessesSource n = '[' :: cs ++ [']'] := by
  induction n with
  | zero => exact ⟨[], rfl⟩
  | succ n ih =>
    obtain ⟨cs, hcs⟩ := ih
    exact ⟨cs ++ [']', '[', '0'], by simp [accessesSource, hcs]⟩

private theorem read_accesses (n : Nat) : ∃ p, read (String.ofList (accessesSource n)) = .ok p ∧
    p.base = accessesExpr n := by
  obtain ⟨m, ts, hm, hlex, hderives⟩ := derives_accesses n
  have hexpr := Derives.expression_of_operand (.access hderives)
  have hnested : m + 1 ≤ Parser.maxNesting := Nat.le_trans (Nat.succ_le_succ hm) (by decide)
  have htokens := Expr.ofTokens_of_derives hexpr hnested
  obtain ⟨cs, hcs⟩ := exists_enclosed n
  have htrim : Text.trim (accessesSource n) = accessesSource n := by
    rw [hcs]
    exact trim_enclosed (by decide) (by decide) cs
  exact ⟨_, read_of_lexesClosed hlex htokens htrim (by simp [hcs]), rfl⟩

/-- Two thousand accesses are nested two deep in the source, and put the first of them two thousand
levels down. -/
theorem depth_le_rows_accesses :
    ∃ p, read (String.ofList (accessesSource 2000)) = .ok p ∧ p.base.depth = 2001 ∧
      p.base.nesting ≤ 8 * Parser.maxNesting ∧ p.base.depth ≤ p.base.nesting + p.base.rows := by
  obtain ⟨p, hread, hbase⟩ := read_accesses 2000
  exact ⟨p, hread, by rw [hbase, depth_accessesExpr], (depth_le_rows hread).1 p.base (.inl rfl)⟩

/-- No depth is one that no expression of a pipeline exceeds. -/
theorem not_depth_le : ¬∃ bound, ∀ source p, read source = .ok p →
    p.base.depth ≤ bound ∧ ∀ call ∈ p.filters, ∀ e ∈ call.args, e.depth ≤ bound := by
  rintro ⟨bound, h⟩
  obtain ⟨p, hread, hbase⟩ := read_accesses bound
  have hdepth := (h _ p hread).1
  rw [hbase, depth_accessesExpr] at hdepth
  omega

end Pipeline

end Stencil
