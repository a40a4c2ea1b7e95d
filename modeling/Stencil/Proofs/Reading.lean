import Stencil.Proofs.SafeText
import Stencil.Signature

/-!
# What is read from source text

The constants of an expression that is read are texts that are not safe, and values that are no
texts or hold none. So an expression has no safe texts but those that it meets when it is
evaluated.
-/

namespace Stencil

/-! ### The constants of expressions -/

mutual

/-- Whether all safe texts in the constants of an expression are as described. -/
def Expr.SafeTexts (P : String → Prop) : Expr → Prop
  | .const v => v.SafeTexts P
  | .path _ _ => True
  | .property e _ => e.SafeTexts P
  | .item e key => e.SafeTexts P ∧ key.SafeTexts P
  | .call callee args => callee.SafeTexts P ∧ Expr.SafeTextsOf P args
  | .unary _ e => e.SafeTexts P
  | .binary _ left right => left.SafeTexts P ∧ right.SafeTexts P
  | .conditional test yes no => test.SafeTexts P ∧ yes.SafeTexts P ∧ no.SafeTexts P
  | .list items => Expr.SafeTextsOf P items
  | .map entries => Expr.SafeTextsOfEntries P entries

/-- Whether all safe texts in the constants of expressions are as described. -/
def Expr.SafeTextsOf (P : String → Prop) : List Expr → Prop
  | [] => True
  | e :: es => e.SafeTexts P ∧ Expr.SafeTextsOf P es

/-- Whether all safe texts in the constants of map entries are as described. -/
def Expr.SafeTextsOfEntries (P : String → Prop) : List (String × Expr) → Prop
  | [] => True
  | (_, e) :: es => e.SafeTexts P ∧ Expr.SafeTextsOfEntries P es

end

variable {P : String → Prop}

private theorem Expr.safeTextsOf_of_forall {es : List Expr} (h : ∀ e ∈ es, e.SafeTexts P) :
    Expr.SafeTextsOf P es := by
  induction es with
  | nil => trivial
  | cons e es ih =>
    obtain ⟨he, hes⟩ := List.forall_mem_cons.mp h
    exact ⟨he, ih hes⟩

private theorem Expr.safeTextsOfEntries_of_forall {es : List (String × Expr)}
    (h : ∀ e ∈ es, e.2.SafeTexts P) : Expr.SafeTextsOfEntries P es := by
  induction es with
  | nil => trivial
  | cons e es ih =>
    obtain ⟨he, hes⟩ := List.forall_mem_cons.mp h
    exact ⟨he, ih hes⟩

/-! ### Parsers -/

namespace Parser

/-- What is read, whenever something is, is as described. -/
structure Yields {α : Type} (p : Parser α) (Q : α → Prop) : Prop where
  /-- The result of every run that succeeds is as described. -/
  of_run : ∀ ts x ts', p.run ts = .ok (x, ts') → Q x

variable {α β : Type} {Q : α → Prop} {R : β → Prop}

private theorem yields_pure {x : α} (h : Q x) : Yields (pure x) Q := by
  refine ⟨fun ts y ts' hy ↦ ?_⟩
  cases hy
  exact h

private theorem yields_throw {e : Error} : Yields (throw e) Q := by
  refine ⟨fun ts x ts' hx ↦ ?_⟩
  cases hx

private theorem Yields.bind {p : Parser α} {f : α → Parser β} (hp : Yields p Q)
    (hf : ∀ x, Q x → Yields (f x) R) : Yields (p >>= f) R := by
  refine ⟨fun ts y ts' hy ↦ ?_⟩
  rw [StateT.run_bind] at hy
  obtain ⟨⟨x, ts₁⟩, hx, hy⟩ := exists_of_bind_eq_ok hy
  exact (hf x (hp.of_run ts x ts₁ hx)).of_run ts₁ y ts' hy

private theorem yields_bind {p : Parser α} {f : α → Parser β} (hf : ∀ x, Yields (f x) R) :
    Yields (p >>= f) R := by
  have hp : Yields p fun _ ↦ True := ⟨fun _ _ _ _ ↦ trivial⟩
  exact hp.bind fun x _ ↦ hf x

private theorem yields_ite {c : Prop} [Decidable c] {p q : Parser α} (hp : Yields p Q)
    (hq : Yields q Q) : Yields (if c then p else q) Q := by
  split
  · exact hp
  · exact hq

/-! ### Expressions -/

/-- Whether all safe texts in the constants that are read are as described. -/
abbrev Clean (P : String → Prop) (p : Parser Expr) : Prop := p.Yields fun e ↦ e.SafeTexts P

private theorem clean_chain {op? : Symbol → Option BinaryOp} {operand : Parser Expr} {left : Expr}
    {fuel : Nat} (hoperand : Clean P operand) (hleft : left.SafeTexts P) :
    Clean P (chain op? operand left fuel) := by
  induction fuel generalizing left with
  | zero => exact yields_pure hleft
  | succ fuel ih =>
    rw [chain]
    apply yields_bind
    intro ts
    split
    · split
      · apply yields_bind
        intro _
        apply hoperand.bind
        intro right hright
        exact ih ⟨hleft, hright⟩
      · exact yields_pure hleft
    · exact yields_pure hleft

private theorem clean_level {op? : Symbol → Option BinaryOp} {operand : Parser Expr}
    (hoperand : Clean P operand) : Clean P (level op? operand) := by
  apply yields_bind
  intro ts
  dsimp only
  apply hoperand.bind
  intro left hleft
  exact clean_chain hoperand hleft

private theorem clean_binary {operand : Parser Expr} (hoperand : Clean P operand) :
    Clean P (binary operand) := by
  rw [binary]
  induction levels with
  | nil => exact hoperand
  | cons op? ops ih => exact clean_level ih

private theorem yields_itemsUpTo {close : Symbol} {item : Parser α} (hitem : Yields item Q)
    (fuel : Nat) : Yields (itemsUpTo close item fuel) fun xs ↦ ∀ x ∈ xs, Q x := by
  induction fuel with
  | zero => exact yields_pure (by simp)
  | succ fuel ih =>
    rw [itemsUpTo]
    apply hitem.bind
    intro x hx
    have hone : ∀ y ∈ [x], Q y := by simpa using hx
    apply yields_bind
    intro closed
    apply yields_ite (yields_pure hone)
    apply yields_bind
    intro _
    apply yields_bind
    intro closed
    apply yields_ite (yields_pure hone)
    apply ih.bind
    intro xs hxs
    exact yields_pure (List.forall_mem_cons.mpr ⟨hx, hxs⟩)

private theorem yields_items {close : Symbol} {item : Parser α} (hitem : Yields item Q) :
    Yields (items close item) fun xs ↦ ∀ x ∈ xs, Q x := by
  rw [items]
  apply yields_bind
  intro closed
  apply yields_ite (yields_pure (by simp))
  apply yields_bind
  intro ts
  exact yields_itemsUpTo hitem _

private theorem yields_arguments {expr : Parser Expr} (hexpr : Clean P expr) :
    Yields (arguments expr) fun es ↦ ∀ e ∈ es, e.SafeTexts P := by
  rw [arguments]
  apply yields_bind
  intro _
  exact yields_items hexpr

private theorem yields_entry {expr : Parser Expr} (hexpr : Clean P expr) :
    Yields (entry expr) fun e ↦ e.2.SafeTexts P := by
  have hrest (key : String) : Yields (do expect .colon; return (key, ← expr))
      fun e ↦ e.2.SafeTexts P := by
    apply yields_bind
    intro _
    apply hexpr.bind
    intro e he
    exact yields_pure he
  rw [entry]
  apply yields_bind
  intro t
  dsimp only
  split
  all_goals
    apply yields_bind
    intro key
    exact hrest key

private theorem safeTexts_ofPath {text : List Char} : (ofPath text).SafeTexts P := by
  rw [ofPath]
  split <;> exact trivial

private theorem clean_primary {expr : Parser Expr} (hexpr : Clean P expr) :
    Clean P (primary expr) := by
  rw [primary]
  apply yields_bind
  intro t
  split
  · exact yields_pure safeTexts_ofPath
  · exact yields_pure Value.safeTexts_plain
  · exact yields_pure Value.safeTexts_int
  · exact yields_pure Value.safeTexts_float
  · exact yields_pure Value.safeTexts_bool
  · exact yields_pure Value.safeTexts_null
  · exact yields_pure Value.safeTexts_undefined
  · split
    · exact yields_pure Value.safeTexts_regex
    · exact yields_throw
  · apply hexpr.bind
    intro e he
    apply yields_bind
    intro _
    exact yields_pure he
  · apply (yields_items hexpr).bind
    intro es hes
    exact yields_pure (Expr.safeTextsOf_of_forall hes)
  · apply (yields_items (yields_entry hexpr)).bind
    intro es hes
    exact yields_pure (Expr.safeTextsOfEntries_of_forall hes)
  · exact yields_throw

private theorem clean_postfixes {expr : Parser Expr} (hexpr : Clean P expr) {e : Expr}
    (he : e.SafeTexts P) (fuel : Nat) : Clean P (postfixes expr e fuel) := by
  induction fuel generalizing e with
  | zero => exact yields_pure he
  | succ fuel ih =>
    rw [postfixes]
    apply yields_bind
    intro ts
    split
    · apply yields_bind
      intro _
      apply yields_bind
      intro t
      split
      · exact ih he
      · exact yields_throw
    · apply yields_bind
      intro _
      apply yields_bind
      intro closed
      have hrest : Clean P (do
          let key ← expr
          expect .bracketClose
          postfixes expr (.item e key) fuel) := by
        apply hexpr.bind
        intro key hkey
        apply yields_bind
        intro _
        exact ih ⟨he, hkey⟩
      apply yields_ite _ hrest
      apply yields_bind
      intro _
      exact hrest
    · apply (yields_arguments hexpr).bind
      intro args hargs
      exact ih ⟨he, Expr.safeTextsOf_of_forall hargs⟩
    · exact yields_pure he

private theorem clean_conditional {operand branch : Parser Expr} (hoperand : Clean P operand)
    (hbranch : Clean P branch) : Clean P (conditional operand branch) := by
  rw [conditional]
  apply (clean_binary hoperand).bind
  intro test htest
  apply yields_bind
  intro seen
  apply yields_ite _ (yields_pure htest)
  apply hbranch.bind
  intro yes hyes
  apply yields_bind
  intro _
  apply hbranch.bind
  intro no hno
  exact yields_pure ⟨htest, hyes, hno⟩

private theorem clean_operand {expr inner nested : Parser Expr} (hexpr : Clean P expr)
    (hinner : Clean P inner) (hnested : Clean P nested) : Clean P (operand expr inner nested) := by
  rw [operand]
  apply yields_bind
  intro ts
  dsimp only
  have hwithout : Clean P (do
      let e ← primary inner
      postfixes expr e ts.length) := by
    apply (clean_primary hinner).bind
    intro e he
    exact clean_postfixes hexpr he _
  apply yields_bind
  intro ts'
  split
  · split
    · apply yields_bind
      intro _
      apply hnested.bind
      intro e he
      exact yields_pure he
    · exact hwithout
  · exact hwithout

private theorem clean_nested (n : Nat) : Clean P (nested n).1 ∧ Clean P (nested n).2 := by
  induction n with
  | zero => exact ⟨yields_throw, yields_throw⟩
  | succ n ih =>
    have houter := clean_conditional ih.2 ih.1
    exact ⟨houter, clean_operand houter ih.1 ih.2⟩

private theorem clean_expression : Clean P expression := (clean_nested maxNesting).1

end Parser

namespace Expr

/-- An expression that is read has no safe texts in its constants. -/
theorem safeTexts_ofFragments {fs : List Fragment} {e : Expr} (h : ofFragments fs = .ok e) :
    e.SafeTexts P := by
  rw [ofFragments] at h
  obtain ⟨ts, -, h⟩ := exists_of_bind_eq_ok h
  rw [ofTokens] at h
  split at h
  · cases h
  · obtain ⟨⟨e', rest⟩, hrun, h⟩ := exists_of_bind_eq_ok h
    obtain ⟨_, -, h⟩ := exists_of_bind_eq_ok h
    cases h
    exact Parser.clean_expression.of_run ts e rest hrun

/-- Arguments that are read have no safe texts in their constants. -/
theorem safeTexts_argumentsOfFragments {fs : List Fragment} {es : List Expr}
    (h : argumentsOfFragments fs = .ok es) : Expr.SafeTextsOf P es := by
  rw [argumentsOfFragments] at h
  obtain ⟨ts, -, h⟩ := exists_of_bind_eq_ok h
  obtain ⟨⟨es', rest⟩, hrun, h⟩ := exists_of_bind_eq_ok h
  obtain ⟨_, -, h⟩ := exists_of_bind_eq_ok h
  cases h
  apply safeTextsOf_of_forall
  exact (Parser.yields_arguments Parser.clean_expression).of_run ts es rest hrun

end Expr

/-! ### Pipelines and signatures -/

/-- Whether all safe texts in the constants of the arguments of a filter are as described. -/
def FilterCall.SafeTexts (P : String → Prop) (f : FilterCall) : Prop := Expr.SafeTextsOf P f.args

/-- Whether all safe texts in the constants of a pipeline are as described. -/
def Pipeline.SafeTexts (P : String → Prop) (p : Pipeline) : Prop :=
  p.base.SafeTexts P ∧ ∀ f ∈ p.filters, f.SafeTexts P

/-- Whether all safe texts in the constants of the default of a parameter are as described. -/
def Param.SafeTexts (P : String → Prop) (p : Param) : Prop :=
  ∀ e, p.default = some e → e.SafeTexts P

private theorem FilterCall.safeTexts_ofFragments? {fs : List Fragment} {f : FilterCall}
    (h : ofFragments? fs = .ok (some f)) : f.SafeTexts P := by
  unfold ofFragments? at h
  split at h
  · cases h
  · dsimp only at h
    split at h
    · cases h
    · split at h
      · cases h
      · split at h
        · cases h
          trivial
        · split at h
          · cases hargs : Expr.argumentsOfFragments _ with
            | error e =>
              rw [hargs] at h
              cases h
            | ok args =>
              rw [hargs] at h
              cases h
              exact Expr.safeTexts_argumentsOfFragments hargs
          · cases h

private theorem mem_of_mapM_eq_ok {α β : Type} {f : α → Except Error β} {xs : List α}
    {ys : List β} (h : xs.mapM f = .ok ys) {y : β} (hy : y ∈ ys) : ∃ x ∈ xs, f x = .ok y := by
  induction xs generalizing ys with
  | nil =>
    cases h
    cases hy
  | cons x xs ih =>
    rw [List.mapM_cons] at h
    obtain ⟨y', hy', h⟩ := exists_of_bind_eq_ok h
    obtain ⟨ys', hys', h⟩ := exists_of_bind_eq_ok h
    cases h
    rcases List.mem_cons.mp hy with rfl | hy
    · exact ⟨x, List.mem_cons_self, hy'⟩
    · obtain ⟨x', hx', hf⟩ := ih hys' hy
      exact ⟨x', List.mem_cons_of_mem _ hx', hf⟩

/-- A pipeline that is read has no safe texts in its constants. -/
theorem Pipeline.safeTexts_read {source : String} {p : Pipeline} (h : read source = .ok p) :
    p.SafeTexts P := by
  unfold read at h
  dsimp only at h
  split at h
  · cases h
  · obtain ⟨base, hbase, h⟩ := exists_of_bind_eq_ok h
    obtain ⟨steps, hsteps, h⟩ := exists_of_bind_eq_ok h
    cases h
    refine ⟨Expr.safeTexts_ofFragments hbase, fun f hf ↦ ?_⟩
    obtain ⟨step, hstep, rfl⟩ := List.mem_filterMap.mp hf
    obtain ⟨fs, -, hfs⟩ := mem_of_mapM_eq_ok hsteps hstep
    exact FilterCall.safeTexts_ofFragments? hfs

private theorem Param.safeTexts_readParam {fs : List Fragment} {p : Param}
    (h : Signature.readParam fs = .ok p) : p.SafeTexts P := by
  unfold Signature.readParam at h
  dsimp only at h
  split at h
  · cases h
  · split at h
    · cases h
      intro e he
      cases he
    · split at h
      · cases h
      · obtain ⟨e, he, h⟩ := exists_of_bind_eq_ok h
        cases h
        intro e' he'
        cases he'
        exact Expr.safeTexts_ofFragments he

private theorem Param.safeTexts_readParams {parts : List (List Fragment)} {ps : List Param}
    (h : Signature.readParams parts = .ok ps) : ∀ p ∈ ps, p.SafeTexts P := by
  induction parts generalizing ps with
  | nil =>
    cases h
    simp
  | cons part parts ih =>
    rw [Signature.readParams] at h
    have hrest (h : (do
        let param ← Signature.readParam part
        return param :: (← Signature.readParams parts)) = .ok ps) : ∀ p ∈ ps, p.SafeTexts P := by
      obtain ⟨p, hp, h⟩ := exists_of_bind_eq_ok h
      obtain ⟨ps', hps', h⟩ := exists_of_bind_eq_ok h
      cases h
      exact List.forall_mem_cons.mpr ⟨Param.safeTexts_readParam hp, ih hps'⟩
    dsimp only at h
    split at h
    · split at h
      · cases h
        simp
      · cases h
    · exact hrest h

/-- A signature that is read has no safe texts in the defaults of its parameters. -/
theorem Signature.safeTexts_read {source : String} {sig : Signature} (h : read source = .ok sig) :
    ∀ p ∈ sig.params, p.SafeTexts P := by
  unfold read at h
  obtain ⟨⟨name, args⟩, -, h⟩ := exists_of_bind_eq_ok h
  dsimp only at h
  split at h
  · cases h
  · split at h
    · cases h
      simp
    · obtain ⟨ps, hps, h⟩ := exists_of_bind_eq_ok h
      cases h
      exact Param.safeTexts_readParams hps

end Stencil
