import Stencil.Proofs.Failure
import Stencil.Proofs.OperatorRuns
import Stencil.Proofs.Segments
import Stencil.Signature

/-!
# Failures of reading

Whatever source text is read, as a pipeline, an attribute list or a signature, reading fails only
because the text breaks its grammar or an escape in a string has no meaning.
-/

namespace Stencil

open ErrorKind (ofSources)

/-! ### Strings -/

namespace Fragment

/-- Whether the fragment is a string with an escape that has no meaning. -/
def isMeaningless (f : Fragment) : Bool :=
  f.kind == .str &&
    match Text.readLiteral f.text with
    | .ok _ => false
    | .error e => e.kind == .badEscape

/-- How fragments may fail to be read: an escape without a meaning is a failure of its own. -/
def failureKinds (fs : List Fragment) : List ErrorKind :=
  if fs.any isMeaningless then ofSources else [.syntaxError]

/-- Any fragments may fail with a syntax error. -/
theorem syntaxError_mem_failureKinds (fs : List Fragment) :
    ErrorKind.syntaxError ∈ failureKinds fs := by
  unfold failureKinds
  split <;> decide

/-- Whatever fails with a syntax error alone fails in the ways of any fragments. -/
theorem syntaxError_subset_failureKinds (fs : List Fragment) :
    [ErrorKind.syntaxError] ⊆ failureKinds fs := by
  simpa using syntaxError_mem_failureKinds fs

/-- Fewer fragments fail in fewer ways. -/
theorem failureKinds_subset {fs gs : List Fragment} (h : fs ⊆ gs) :
    failureKinds fs ⊆ failureKinds gs := by
  unfold failureKinds
  split
  · next hfs =>
    obtain ⟨f, hf, hmeaningless⟩ := List.any_eq_true.mp hfs
    rw [if_pos (List.any_eq_true.mpr ⟨f, h hf, hmeaningless⟩)]
    exact List.Subset.refl _
  · exact syntaxError_subset_failureKinds gs

/-- Fragments fail in the ways of sources. -/
theorem failureKinds_subset_ofSources (fs : List Fragment) : failureKinds fs ⊆ ofSources := by
  unfold failureKinds
  split <;> decide

end Fragment

private theorem Text.failsIn_readLiteral {f : Fragment} (hf : f.kind = .str) :
    FailsIn (Fragment.failureKinds [f]) (readLiteral f.text) := by
  intro e he
  have hkind : e.kind = .syntaxError ∨ e.kind = .badEscape := by
    unfold readLiteral at he
    repeat' split at he
    all_goals cases he
    all_goals decide
  rcases hkind with hkind | hkind
  · exact hkind ▸ Fragment.syntaxError_mem_failureKinds [f]
  · have hmeaningless : f.isMeaningless = true := by
      simp [Fragment.isMeaningless, hf, he, hkind]
    simp [Fragment.failureKinds, hmeaningless, hkind, ofSources]

/-! ### Tokens -/

namespace Token

private theorem failsIn_cutOperators (s : List Char) : FailsIn [.syntaxError] (cutOperators s) := by
  obtain ⟨bs, left, hcut⟩ := LongestFirst.exists_cut s
  rw [hcut.cutOperators_eq]
  split
  · exact failsIn_ok
  · exact failsIn_new (by decide)

private theorem failsIn_ofLiteral (s : List Char) : FailsIn [.syntaxError] (ofLiteral s) := by
  unfold ofLiteral
  repeat' split
  all_goals first | exact failsIn_ok | exact failsIn_new (by decide)

private theorem failsIn_ofRegex (s : List Char) : FailsIn [.syntaxError] (ofRegex s) := by
  unfold ofRegex
  dsimp only
  split
  · exact failsIn_ok
  · exact failsIn_new (by decide)

private theorem failsIn_ofDottedNames (s : List Char) :
    FailsIn [.syntaxError] (ofDottedNames s) := by
  unfold ofDottedNames
  dsimp only
  split
  · split
    · exact failsIn_ok
    · exact failsIn_new (by decide)
  · exact failsIn_new (by decide)

private theorem failsIn_ofFragment (f : Fragment) :
    FailsIn (Fragment.failureKinds [f]) (ofFragment f) := by
  have hsyntax {r : Except Error (List Token)} (h : FailsIn [.syntaxError] r) :
      FailsIn (Fragment.failureKinds [f]) r :=
    h.mono (Fragment.syntaxError_subset_failureKinds [f])
  unfold ofFragment
  split
  · exact failsIn_ok
  · next hkind => exact (Text.failsIn_readLiteral hkind).map _
  · exact hsyntax ((failsIn_ofRegex f.text).map _)
  · exact hsyntax ((failsIn_ofLiteral f.text).map _)
  · exact failsIn_ok
  · exact failsIn_ok
  · exact hsyntax (failsIn_ofDottedNames f.text)

private theorem failsIn_ofFragmentsAfter (pending : List Char) (fs : List Fragment) :
    FailsIn (Fragment.failureKinds fs) (ofFragmentsAfter pending fs) := by
  have hoperators (fs : List Fragment) (pending : List Char) :
      FailsIn (Fragment.failureKinds fs) (cutOperators pending) :=
    (failsIn_cutOperators pending).mono (Fragment.syntaxError_subset_failureKinds fs)
  induction fs generalizing pending with
  | nil => exact hoperators [] pending
  | cons f fs ih =>
    have hrest (pending : List Char) :
        FailsIn (Fragment.failureKinds (f :: fs)) (ofFragmentsAfter pending fs) :=
      (ih pending).mono (Fragment.failureKinds_subset (List.subset_cons_self f fs))
    rw [ofFragmentsAfter]
    split
    · exact hrest _
    · apply (hoperators _ pending).bind
      intro operators
      apply ((failsIn_ofFragment f).mono (Fragment.failureKinds_subset (by simp))).bind
      intro here
      exact (hrest []).bind fun _ ↦ failsIn_ok

end Token

/-! ### Parsers -/

private theorem Regex.failsIn_readFlags (options : PatternOptions) (flags : List Char) :
    FailsIn [.syntaxError] (readFlags options flags) := by
  induction flags generalizing options with
  | nil => exact failsIn_ok
  | cons c cs ih =>
    unfold readFlags
    split
    · exact ih _
    · exact ih _
    · exact ih _
    · exact ih _
    · exact failsIn_new (by decide)

/-- Regular expressions fail to be read, whichever engine compiles them. -/
theorem Regex.failsIn_readWith (engine : PatternEngine) (source flags : String) :
    FailsIn [.syntaxError] (readWith engine source flags) := by
  have h := failsIn_readFlags {} flags.toList
  unfold readWith
  split
  · next e he => exact h.of_eq_error he
  · split
    · exact failsIn_ok
    · exact failsIn_new (by decide)

namespace Parser

/-- Whether a parser fails only because a text breaks its grammar. -/
def FailsOnSyntax {α : Type} (p : Parser α) : Prop := ∀ ts, FailsIn [.syntaxError] (p.run ts)

variable {α β : Type}

private theorem failsOnSyntax_pure (x : α) : FailsOnSyntax (pure x) := fun _ ↦ failsIn_ok

private theorem failsOnSyntax_throw {e : Error} (h : e.kind ∈ [ErrorKind.syntaxError]) :
    FailsOnSyntax (throw e : Parser α) :=
  fun _ ↦ failsIn_error.mpr h

private theorem failsOnSyntax_unexpected (t : Token) (expected : String) :
    FailsOnSyntax (unexpected t expected : Parser α) :=
  fun _ ↦ failsIn_new (by decide)

private theorem FailsOnSyntax.bind {p : Parser α} {f : α → Parser β} (hp : FailsOnSyntax p)
    (hf : ∀ x, FailsOnSyntax (f x)) : FailsOnSyntax (p >>= f) := by
  intro ts
  rw [StateT.run_bind]
  exact (hp ts).bind fun x ↦ hf x.1 x.2

private theorem failsOnSyntax_get_bind {f : List Token → Parser β}
    (hf : ∀ ts, FailsOnSyntax (f ts)) : FailsOnSyntax (get >>= f) :=
  fun ts ↦ hf ts ts

private theorem failsOnSyntax_set_bind {ts : List Token} {f : PUnit → Parser β}
    (hf : FailsOnSyntax (f ⟨⟩)) : FailsOnSyntax (set ts >>= f) :=
  fun _ ↦ hf ts

private theorem failsOnSyntax_next (expected : String) : FailsOnSyntax (next expected) := by
  apply failsOnSyntax_get_bind
  intro ts
  split
  · exact fun _ ↦ failsIn_new (by decide)
  · exact fun _ ↦ failsIn_ok

private theorem failsOnSyntax_sees (s : Symbol) : FailsOnSyntax (sees s) := by
  apply failsOnSyntax_get_bind
  intro ts
  split
  · exact failsOnSyntax_pure _
  · exact failsOnSyntax_pure _

private theorem failsOnSyntax_skip (s : Symbol) : FailsOnSyntax (skip s) := by
  apply (failsOnSyntax_sees s).bind
  intro seen
  split
  · exact fun _ ↦ failsIn_ok
  · exact failsOnSyntax_pure _

private theorem failsOnSyntax_expect (s : Symbol) : FailsOnSyntax (expect s) := by
  apply (failsOnSyntax_next _).bind
  intro t
  split
  · split
    · exact failsOnSyntax_pure _
    · exact failsOnSyntax_unexpected _ _
  · exact failsOnSyntax_unexpected _ _

private theorem failsOnSyntax_finish : FailsOnSyntax finish := by
  apply failsOnSyntax_get_bind
  intro ts
  split
  · exact failsOnSyntax_pure _
  · exact failsOnSyntax_unexpected _ _

/-! ### Operators and items -/

private theorem failsOnSyntax_chain {op? : Symbol → Option BinaryOp} {operand : Parser Expr}
    (hoperand : FailsOnSyntax operand) (left : Expr) (fuel : Nat) :
    FailsOnSyntax (chain op? operand left fuel) := by
  induction fuel generalizing left with
  | zero => exact failsOnSyntax_pure _
  | succ fuel ih =>
    rw [chain]
    apply failsOnSyntax_get_bind
    intro ts
    split
    · split
      · apply failsOnSyntax_set_bind
        apply hoperand.bind
        intro right
        exact ih _
      · exact failsOnSyntax_pure _
    · exact failsOnSyntax_pure _

private theorem failsOnSyntax_binary {operand : Parser Expr} (hoperand : FailsOnSyntax operand) :
    FailsOnSyntax (binary operand) := by
  rw [binary]
  induction levels with
  | nil => exact hoperand
  | cons op? ops ih =>
    apply failsOnSyntax_get_bind
    intro ts
    apply ih.bind
    intro left
    exact failsOnSyntax_chain ih left _

private theorem failsOnSyntax_itemsUpTo {close : Symbol} {item : Parser α}
    (hitem : FailsOnSyntax item) (fuel : Nat) : FailsOnSyntax (itemsUpTo close item fuel) := by
  induction fuel with
  | zero => exact failsOnSyntax_pure _
  | succ fuel ih =>
    rw [itemsUpTo]
    apply hitem.bind
    intro x
    apply (failsOnSyntax_skip close).bind
    intro closed
    split
    · exact failsOnSyntax_pure _
    · apply (failsOnSyntax_expect .comma).bind
      intro _
      apply (failsOnSyntax_skip close).bind
      intro closed
      split
      · exact failsOnSyntax_pure _
      · exact ih.bind fun _ ↦ failsOnSyntax_pure _

private theorem failsOnSyntax_items {close : Symbol} {item : Parser α}
    (hitem : FailsOnSyntax item) : FailsOnSyntax (items close item) := by
  rw [items]
  apply (failsOnSyntax_skip close).bind
  intro closed
  split
  · exact failsOnSyntax_pure _
  · exact failsOnSyntax_get_bind fun ts ↦ failsOnSyntax_itemsUpTo hitem _

/-! ### Expressions -/

variable {expr : Parser Expr}

private theorem failsOnSyntax_arguments (hexpr : FailsOnSyntax expr) :
    FailsOnSyntax (arguments expr) :=
  (failsOnSyntax_expect .parenOpen).bind fun _ ↦ failsOnSyntax_items hexpr

private theorem failsOnSyntax_entry (hexpr : FailsOnSyntax expr) :
    FailsOnSyntax (entry expr) := by
  have hrest (key : String) : FailsOnSyntax (do expect .colon; return (key, ← expr)) :=
    (failsOnSyntax_expect .colon).bind fun _ ↦ hexpr.bind fun _ ↦ failsOnSyntax_pure _
  apply (failsOnSyntax_next _).bind
  intro t
  dsimp only
  split
  case h_6 => exact (failsOnSyntax_unexpected _ _).bind hrest
  all_goals exact (failsOnSyntax_pure _).bind hrest

private theorem failsOnSyntax_primary (hexpr : FailsOnSyntax expr) :
    FailsOnSyntax (primary expr) := by
  apply (failsOnSyntax_next _).bind
  intro t
  split
  case h_8 source flags =>
    have hread := Regex.failsIn_readWith .standard (String.ofList source) (String.ofList flags)
    split
    · exact failsOnSyntax_pure _
    · next e he => exact failsOnSyntax_throw (hread e he)
  case h_9 =>
    apply hexpr.bind
    intro e
    exact (failsOnSyntax_expect .parenClose).bind fun _ ↦ failsOnSyntax_pure _
  case h_10 => exact (failsOnSyntax_items hexpr).bind fun _ ↦ failsOnSyntax_pure _
  case h_11 =>
    exact (failsOnSyntax_items (failsOnSyntax_entry hexpr)).bind fun _ ↦ failsOnSyntax_pure _
  case h_12 => exact failsOnSyntax_unexpected _ _
  all_goals exact failsOnSyntax_pure _

private theorem failsOnSyntax_postfixes (hexpr : FailsOnSyntax expr) (e : Expr) (fuel : Nat) :
    FailsOnSyntax (postfixes expr e fuel) := by
  induction fuel generalizing e with
  | zero => exact failsOnSyntax_pure _
  | succ fuel ih =>
    rw [postfixes]
    apply failsOnSyntax_get_bind
    intro ts
    split
    · apply failsOnSyntax_set_bind
      apply (failsOnSyntax_next _).bind
      intro t
      split
      · exact ih _
      · exact failsOnSyntax_unexpected _ _
    · apply failsOnSyntax_set_bind
      apply (failsOnSyntax_sees .bracketClose).bind
      intro closed
      have hrest : FailsOnSyntax (do
          let key ← expr
          expect .bracketClose
          postfixes expr (.item e key) fuel) := by
        apply hexpr.bind
        intro key
        exact (failsOnSyntax_expect .bracketClose).bind fun _ ↦ ih _
      split
      · exact (failsOnSyntax_throw (by decide)).bind fun _ ↦ hrest
      · exact hrest
    · exact (failsOnSyntax_arguments hexpr).bind fun args ↦ ih _
    · exact failsOnSyntax_pure _

private theorem failsOnSyntax_conditional {operand branch : Parser Expr}
    (hoperand : FailsOnSyntax operand) (hbranch : FailsOnSyntax branch) :
    FailsOnSyntax (conditional operand branch) := by
  rw [conditional]
  apply (failsOnSyntax_binary hoperand).bind
  intro test
  apply (failsOnSyntax_skip .question).bind
  intro seen
  split
  · apply hbranch.bind
    intro yes
    apply (failsOnSyntax_expect .colon).bind
    intro _
    exact hbranch.bind fun _ ↦ failsOnSyntax_pure _
  · exact failsOnSyntax_pure _

private theorem failsOnSyntax_operand {inner nested : Parser Expr} (hexpr : FailsOnSyntax expr)
    (hinner : FailsOnSyntax inner) (hnested : FailsOnSyntax nested) :
    FailsOnSyntax (operand expr inner nested) := by
  apply failsOnSyntax_get_bind
  intro ts
  have hwithout : FailsOnSyntax (do
      let e ← primary inner
      postfixes expr e ts.length) :=
    (failsOnSyntax_primary hinner).bind fun e ↦ failsOnSyntax_postfixes hexpr e _
  apply failsOnSyntax_get_bind
  intro ts'
  split
  · split
    · apply failsOnSyntax_set_bind
      exact hnested.bind fun _ ↦ failsOnSyntax_pure _
    · exact hwithout
  · exact hwithout

private theorem failsOnSyntax_nested (n : Nat) :
    FailsOnSyntax (nested n).1 ∧ FailsOnSyntax (nested n).2 := by
  induction n with
  | zero =>
    have hdeep : FailsOnSyntax (tooDeep : Parser Expr) := failsOnSyntax_throw (by decide)
    exact ⟨hdeep, hdeep⟩
  | succ n ih =>
    have houter := failsOnSyntax_conditional ih.2 ih.1
    exact ⟨houter, failsOnSyntax_operand houter ih.1 ih.2⟩

private theorem failsOnSyntax_expression : FailsOnSyntax expression :=
  (failsOnSyntax_nested maxNesting).1

private theorem failsIn_run_finish {p : Parser α} (hp : FailsOnSyntax p) (ts : List Token) :
    FailsIn [.syntaxError] (do
      let (x, rest) ← p.run ts
      let _ ← finish.run rest
      return x) :=
  (hp ts).bind fun x ↦ (failsOnSyntax_finish x.2).bind fun _ ↦ failsIn_ok

end Parser

namespace Expr

/-- Expressions fail to be read. -/
theorem failsIn_ofFragments (fs : List Fragment) :
    FailsIn (Fragment.failureKinds fs) (ofFragments fs) := by
  apply (Token.failsIn_ofFragmentsAfter [] fs).bind
  intro ts
  have hsyntax : FailsIn [.syntaxError] (ofTokens ts) := by
    rw [ofTokens]
    split
    · exact failsIn_new (by decide)
    · exact Parser.failsIn_run_finish Parser.failsOnSyntax_expression ts
  exact hsyntax.mono (Fragment.syntaxError_subset_failureKinds fs)

/-- Argument lists fail to be read. -/
theorem failsIn_argumentsOfFragments (fs : List Fragment) :
    FailsIn (Fragment.failureKinds fs) (argumentsOfFragments fs) := by
  apply (Token.failsIn_ofFragmentsAfter [] fs).bind
  intro ts
  have hsyntax := Parser.failsIn_run_finish
    (Parser.failsOnSyntax_arguments Parser.failsOnSyntax_expression) ts
  exact hsyntax.mono (Fragment.syntaxError_subset_failureKinds fs)

end Expr

/-! ### Pipelines, attribute lists and signatures -/

private theorem FilterCall.failsIn_ofFragments? (fs : List Fragment) :
    FailsIn (Fragment.failureKinds fs) (ofFragments? fs) := by
  have hsyntax (detail : String) :
      FailsIn (Fragment.failureKinds fs)
        (.error (.syntaxError detail) : Except Error (Option FilterCall)) :=
    failsIn_new (Fragment.syntaxError_mem_failureKinds fs)
  unfold ofFragments?
  split
  · exact hsyntax _
  · next name rest htrim =>
    dsimp only
    have hsubset : Fragment.trimSpaces rest ⊆ fs := by
      intro f hf
      apply Fragment.trimSpaces_subset fs
      rw [htrim]
      exact List.mem_cons_of_mem name (Fragment.trimSpaces_subset rest hf)
    have hargs := (Expr.failsIn_argumentsOfFragments (Fragment.trimSpaces rest)).mono
      (Fragment.failureKinds_subset hsubset)
    split
    · exact hsyntax _
    · split
      · exact failsIn_ok
      · split
        · exact failsIn_ok
        · split
          · exact hargs.map _
          · exact hsyntax _

/-- Pipelines fail to be read, for a reason that is in their fragments. -/
theorem Pipeline.failsIn_read_failureKinds (source : String) :
    FailsIn (Fragment.failureKinds (Fragment.scan (Text.trim source.toList))) (read source) := by
  have hparts {part : List Fragment}
      (h : part ∈ Fragment.splitBy isBar (Fragment.scan (Text.trim source.toList))) :=
    Fragment.failureKinds_subset (Fragment.subset_of_mem_splitBy h)
  unfold read
  dsimp only
  split
  · exact failsIn_new (Fragment.syntaxError_mem_failureKinds _)
  · obtain ⟨base, steps, hsplit⟩ :=
      List.exists_cons_of_ne_nil (Fragment.splitBy_ne_nil isBar
        (Fragment.scan (Text.trim source.toList)))
    rw [hsplit] at hparts ⊢
    apply ((Expr.failsIn_ofFragments base).mono (hparts List.mem_cons_self)).bind
    intro base
    apply FailsIn.bind _ fun _ ↦ failsIn_ok
    exact failsIn_mapM fun part hpart ↦
      (FilterCall.failsIn_ofFragments? part).mono (hparts (List.mem_cons_of_mem _ hpart))

/-- Pipelines fail to be read. -/
theorem Pipeline.failsIn_read (source : String) : FailsIn ofSources (read source) :=
  (failsIn_read_failureKinds source).mono (Fragment.failureKinds_subset_ofSources _)

namespace AttributeList

private theorem failsIn_entry (defaultName : String) (key : Option String)
    (fs : List Fragment) : FailsIn ofSources <| entry? defaultName key fs := by
  unfold entry?
  dsimp only
  split
  · split
    · exact failsIn_ok
    · exact failsIn_new (by decide)
  · exact ((Expr.failsIn_ofFragments _).mono (Fragment.failureKinds_subset_ofSources _)).map _

private theorem failsIn_entriesFrom (defaultName : String) (key : Option String)
    (rest : List Fragment) (segments : List (List Fragment)) :
    FailsIn ofSources (entriesFrom defaultName key rest segments) := by
  induction segments generalizing key with
  | nil => exact (failsIn_entry defaultName key rest).bind fun _ ↦ failsIn_ok
  | cons segment segments ih =>
    rw [entriesFrom]
    apply (failsIn_entry defaultName key _).bind
    intro entry
    dsimp only
    split
    · exact failsIn_new (by decide)
    · exact (ih _).bind fun _ ↦ failsIn_ok

/-- Attribute lists fail to be read. -/
theorem failsIn_read (source defaultName : String) : FailsIn ofSources (read source defaultName) :=
  (failsIn_entriesFrom defaultName none _ _).bind fun _ ↦ failsIn_ok

end AttributeList

namespace Signature

private theorem failsIn_readParam (fs : List Fragment) : FailsIn ofSources (readParam fs) := by
  unfold readParam
  dsimp only
  split
  · exact failsIn_new (by decide)
  · split
    · exact failsIn_ok
    · split
      · exact failsIn_new (by decide)
      · exact ((Expr.failsIn_ofFragments _).mono (Fragment.failureKinds_subset_ofSources _)).bind
          fun _ ↦ failsIn_ok

private theorem failsIn_readParams (parts : List (List Fragment)) :
    FailsIn ofSources (readParams parts) := by
  induction parts with
  | nil => exact failsIn_ok
  | cons part parts ih =>
    have hrest : FailsIn ofSources (do
        let param ← readParam part
        return param :: (← readParams parts)) :=
      (failsIn_readParam part).bind fun _ ↦ ih.bind fun _ ↦ failsIn_ok
    rw [readParams]
    dsimp only
    split
    · split
      · exact failsIn_ok
      · exact failsIn_new (by decide)
    · exact hrest

private theorem failsIn_splitSource (source : List Char) :
    FailsIn ofSources (splitSource source) := by
  unfold splitSource
  dsimp only
  repeat' split
  all_goals first | exact failsIn_ok | exact failsIn_new (by decide)

/-- Signatures fail to be read. -/
theorem failsIn_read (source : String) : FailsIn ofSources (read source) := by
  apply (failsIn_splitSource _).bind
  rintro ⟨name, args⟩
  dsimp only
  split
  · exact failsIn_new (by decide)
  · split
    · exact failsIn_ok
    · exact (failsIn_readParams _).bind fun _ ↦ failsIn_ok

end Signature

end Stencil
