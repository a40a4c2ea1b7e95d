import Stencil.Proofs.Failure.Reading
import Stencil.Proofs.Grammar.Complete
import Stencil.Proofs.Scanning
import Stencil.Proofs.Tokens

/-!
# The steps of a pipeline

A step of a pipeline is written as the name of a filter, with nothing behind it or with arguments in
parentheses that are read to their end. Whatever is written otherwise is refused, but for the mark
of safe results: what stands behind its name is not looked at.
-/

namespace Stencil

/-! ### Brackets -/

namespace Token

/-- Brackets stand around the tokens of what stands between them. -/
theorem ofFragments_enclosed {l r : Fragment} {first last : Token} (hl : isJoined l = false)
    (hr : isJoined r = false) (hfirst : ofFragment l = .ok [first])
    (hlast : ofFragment r = .ok [last]) (fs : List Fragment) :
    ofFragments (l :: fs ++ [r]) = (ofFragments fs).map fun ts ↦ first :: ts ++ [last] := by
  rw [List.cons_append, ofFragments_cons hl hfirst, ofFragments, ofFragmentsAfter_append hr hlast]
  cases h : ofFragmentsAfter [] fs <;> rw [ofFragments, h] <;> rfl

/-- So do parentheses. -/
theorem ofFragments_parentheses (fs : List Fragment) :
    ofFragments (.ofOperator '(' :: fs ++ [.ofOperator ')']) =
      (ofFragments fs).map fun ts ↦ .symbol .parenOpen :: ts ++ [.symbol .parenClose] :=
  ofFragments_enclosed rfl rfl rfl rfl fs

end Token

/-- What stands between parentheses is read as an argument list if it is made up of items that are
not nested too deeply. -/
theorem Expr.argumentsOfFragments_parentheses {fs : List Fragment} {args : List Expr} :
    argumentsOfFragments (.ofOperator '(' :: fs ++ [.ofOperator ')']) = .ok args ↔
      ∃ ts n, Token.ofFragments fs = .ok ts ∧ n ≤ Parser.maxNesting ∧
        Derives (.items .expression) n ts args := by
  rw [argumentsOfFragments_eq_ok, Token.ofFragments_parentheses]
  cases Token.ofFragments fs with
  | error e => simp [Except.map]
  | ok ts' => simp [Except.map]

namespace FilterCall

/-! ### How steps are written -/

/-- What is written behind the name of a filter: nothing, or arguments in parentheses. -/
inductive IsArguments : List Fragment → List Expr → Prop where
  /-- No arguments. -/
  | none : IsArguments [] []
  /-- Arguments with commas between them. -/
  | list {inner : List Fragment} {ts : List Token} {n : Nat} {args : List Expr}
      (htokens : Token.ofFragments inner = .ok ts) (hn : n ≤ Parser.maxNesting)
      (hargs : Derives (.items .expression) n ts args) :
      IsArguments (.ofOperator '(' :: inner ++ [.ofOperator ')']) args

/-- Whether the fragments are the call of a filter as it is written: a name, and maybe arguments
behind it, with spaces around both. -/
def IsWrittenAs (fs : List Fragment) (call : FilterCall) : Prop :=
  ∃ before name between rest after, fs = before ++ name :: (between ++ rest ++ after) ∧
    (∀ f ∈ before ++ between ++ after, f.isSpace = true) ∧ name.kind = .path ∧
    call.name = String.ofList name.text ∧ IsArguments rest call.args

/-- Whether the fragments begin with the mark of safe results. -/
def IsMark (fs : List Fragment) : Prop :=
  ∃ before name after, fs = before ++ name :: after ∧ (∀ f ∈ before, f.isSpace = true) ∧
    name.kind = .path ∧ name.text = "safe".toList

/-- Whether the fragments are the step of a pipeline, where nothing is the mark of safe results. -/
inductive IsStep : List Fragment → Option FilterCall → Prop where
  /-- The mark of safe results. -/
  | mark {fs : List Fragment} (h : IsMark fs) : IsStep fs none
  /-- The call of a filter. -/
  | call {fs : List Fragment} {call : FilterCall} (h : IsWrittenAs fs call)
      (hname : call.name ≠ "safe") : IsStep fs (some call)

/-! ### Reading steps -/

variable {fs : List Fragment} {call : FilterCall}

private theorem isSpace_of_kind {f : Fragment} (h : f.kind = .path) : f.isSpace = false := by
  simp [Fragment.isSpace, h]

/-- A call is written as a name and what is left behind it without the spaces. -/
theorem isWrittenAs_iff :
    IsWrittenAs fs call ↔ ∃ name rest, Fragment.trimSpaces fs = name :: rest ∧
      name.kind = .path ∧ call.name = String.ofList name.text ∧
      IsArguments (Fragment.trimSpaces rest) call.args := by
  constructor
  · rintro ⟨before, name, between, rest, after, rfl, hspaces, hkind, hname, hargs⟩
    simp only [List.mem_append, or_imp, forall_and] at hspaces
    obtain ⟨⟨hbefore, hbetween⟩, hafter⟩ := hspaces
    have hpath := isSpace_of_kind hkind
    generalize call.args = args at hargs
    cases hargs with
    | none =>
      have htrim : Fragment.trimSpaces (before ++ [name] ++ (between ++ after)) = [name] :=
        Fragment.trimSpaces_append hbefore (by simpa [or_imp, forall_and] using ⟨hbetween, hafter⟩)
          rfl hpath rfl hpath
      exact ⟨name, [], by simpa using htrim, hkind, hname, .none⟩
    | @list inner ts n _ htokens hn hargs =>
      have hlast : (name :: between ++ (Fragment.ofOperator '(' :: inner ++
          [Fragment.ofOperator ')'])).getLast? = some (.ofOperator ')') := by
        rw [← List.append_assoc, List.getLast?_append]
        rfl
      have htrim := Fragment.trimSpaces_append hbefore hafter (f := name) rfl hpath hlast rfl
      have hrest : Fragment.trimSpaces
          (between ++ (Fragment.ofOperator '(' :: inner ++ [Fragment.ofOperator ')']) ++ []) = _ :=
        Fragment.trimSpaces_append hbetween (by simp) rfl rfl List.getLast?_concat rfl
      rw [List.append_nil] at hrest
      have hlist := IsArguments.list htokens hn hargs
      rw [← hrest] at hlist
      exact ⟨name, _, by simpa using htrim, hkind, hname, hlist⟩
  · rintro ⟨name, rest, htrim, hkind, hname, hargs⟩
    obtain ⟨before, after, hbefore, hafter, hfs⟩ := Fragment.exists_trimSpaces fs
    obtain ⟨between, behind, hbetween, hbehind, hrest⟩ := Fragment.exists_trimSpaces rest
    refine ⟨before, name, between, Fragment.trimSpaces rest, behind ++ after, ?_, ?_, hkind, hname,
      hargs⟩
    · rw [hfs, htrim]
      nth_rewrite 1 [hrest]
      simp
    · simp only [List.mem_append, or_imp, forall_and]
      exact ⟨⟨hbefore, hbetween⟩, hbehind, hafter⟩

private theorem isMark_iff :
    IsMark fs ↔ ∃ name rest, Fragment.trimSpaces fs = name :: rest ∧ name.kind = .path ∧
      name.text = "safe".toList := by
  constructor
  · rintro ⟨before, name, after, rfl, hbefore, hkind, hname⟩
    obtain ⟨rest, hrest⟩ :=
      Fragment.exists_trimSpaces_append_cons hbefore (isSpace_of_kind hkind) after
    exact ⟨name, rest, hrest, hkind, hname⟩
  · rintro ⟨name, rest, htrim, hkind, hname⟩
    obtain ⟨before, after, hbefore, -, hfs⟩ := Fragment.exists_trimSpaces fs
    exact ⟨before, name, rest ++ after, by rw [hfs, htrim]; simp, hbefore, hkind, hname⟩

private theorem isOperator_singleton {f : Fragment} {c : Char} :
    f.isOperator [c] = true ↔ f = .ofOperator c := by
  obtain ⟨text, kind⟩ := f
  simp [Fragment.isOperator, Fragment.ofOperator, and_comm]

private theorem isParenthesized_iff :
    Fragment.isParenthesized fs = true ↔
      ∃ inner, fs = .ofOperator '(' :: inner ++ [.ofOperator ')'] := by
  constructor
  · intro h
    rw [Fragment.isParenthesized, Bool.and_eq_true] at h
    cases fs with
    | nil => exact absurd h.1 (by simp)
    | cons f rest =>
      obtain rfl : f = .ofOperator '(' := isOperator_singleton.mp h.1
      rcases List.eq_nil_or_concat' rest with rfl | ⟨inner, g, rfl⟩
      · exact absurd h.2 (by decide)
      · have hlast := h.2
        rw [← List.cons_append, List.getLast?_concat] at hlast
        obtain rfl : g = .ofOperator ')' := isOperator_singleton.mp hlast
        exact ⟨inner, rfl⟩
  · rintro ⟨inner, rfl⟩
    rw [Fragment.isParenthesized, List.getLast?_concat]
    rfl

private theorem isArguments_iff {args : List Expr} :
    IsArguments fs args ↔
      fs = [] ∧ args = [] ∨
        Fragment.isParenthesized fs = true ∧ Expr.argumentsOfFragments fs = .ok args := by
  constructor
  · intro h
    cases h with
    | none => exact .inl ⟨rfl, rfl⟩
    | list htokens hn hargs =>
      exact .inr ⟨isParenthesized_iff.mpr ⟨_, rfl⟩,
        Expr.argumentsOfFragments_parentheses.mpr ⟨_, _, htokens, hn, hargs⟩⟩
  · rintro (⟨rfl, rfl⟩ | ⟨hparen, hargs⟩)
    · exact .none
    · obtain ⟨inner, rfl⟩ := isParenthesized_iff.mp hparen
      obtain ⟨ts, n, htokens, hn, hderives⟩ := Expr.argumentsOfFragments_parentheses.mp hargs
      exact .list htokens hn hderives

private theorem not_isWrittenAs (name : Fragment) (rest : List Fragment)
    (htrim : Fragment.trimSpaces fs = name :: rest) (hne : Fragment.trimSpaces rest ≠ [])
    (hparen : Fragment.isParenthesized (Fragment.trimSpaces rest) = false) :
    ¬IsWrittenAs fs call := by
  intro h
  obtain ⟨name', rest', htrim', -, -, hargs⟩ := isWrittenAs_iff.mp h
  cases htrim.symm.trans htrim'
  rcases isArguments_iff.mp hargs with ⟨hnil, -⟩ | ⟨htrue, -⟩
  · exact hne hnil
  · rw [hparen] at htrue
    cases htrue

private theorem ofList_eq_safe {name : List Char} :
    String.ofList name = "safe" ↔ name = "safe".toList := by
  constructor
  · rintro h
    rw [← h, String.toList_ofList]
  · rintro rfl
    rfl

private theorem isStep_of_ofFragments? {step : Option FilterCall}
    (h : ofFragments? fs = .ok step) : IsStep fs step := by
  unfold ofFragments? at h
  split at h
  · cases h
  · next name rest htrim =>
    dsimp only at h
    split at h
    · cases h
    · next hkind =>
      have hkind : name.kind = .path := by simpa using hkind
      split at h
      · next hname =>
        cases h
        exact .mark (isMark_iff.mpr ⟨name, rest, htrim, hkind, eq_of_beq hname⟩)
      · next hname =>
        have hname : String.ofList name.text ≠ "safe" :=
          fun hsafe ↦ hname (beq_iff_eq.mpr (ofList_eq_safe.mp hsafe))
        have hcall {args : List Expr} (hargs : IsArguments (Fragment.trimSpaces rest) args) :
            IsStep fs (some ⟨String.ofList name.text, args⟩) :=
          .call (isWrittenAs_iff.mpr ⟨name, rest, htrim, hkind, rfl, hargs⟩) hname
        split at h
        · next hrest =>
          cases h
          exact hcall (isArguments_iff.mpr (.inl ⟨List.isEmpty_iff.mp hrest, rfl⟩))
        · split at h
          · next hparen =>
            obtain ⟨args, hargs, rfl⟩ := exists_of_map_eq_ok h
            exact hcall (isArguments_iff.mpr (.inr ⟨hparen, hargs⟩))
          · cases h

private theorem IsStep.ofFragments? {step : Option FilterCall} (h : IsStep fs step) :
    ofFragments? fs = .ok step := by
  cases h with
  | mark h =>
    obtain ⟨name, rest, htrim, hkind, hname⟩ := isMark_iff.mp h
    rw [FilterCall.ofFragments?, htrim]
    simp [hkind, hname]
  | @call call h hsafe =>
    obtain ⟨name, rest, htrim, hkind, hname, hargs⟩ := isWrittenAs_iff.mp h
    obtain ⟨_, args⟩ := call
    obtain rfl := hname
    have hsafe : ¬(name.text == "safe".toList) = true :=
      fun h ↦ hsafe (ofList_eq_safe.mpr (eq_of_beq h))
    have hpath : ¬(name.kind != .path) = true := by simp [hkind]
    rw [FilterCall.ofFragments?, htrim]
    dsimp only
    rw [if_neg hpath, if_neg hsafe]
    rcases isArguments_iff.mp hargs with ⟨hrest, rfl⟩ | ⟨hparen, hargs⟩
    · rw [hrest]
      rfl
    · have hrest : ¬(Fragment.trimSpaces rest).isEmpty = true := by
        obtain ⟨inner, hinner⟩ := isParenthesized_iff.mp hparen
        simp [hinner]
      rw [if_neg hrest, if_pos hparen, hargs]
      rfl

/-- Steps are read exactly as they are written. -/
theorem ofFragments?_eq_ok {step : Option FilterCall} :
    ofFragments? fs = .ok step ↔ IsStep fs step :=
  ⟨isStep_of_ofFragments?, IsStep.ofFragments?⟩

end FilterCall

/-! ### Pipelines of steps -/

namespace Pipeline

private theorem mapM_eq_ok {α β : Type} {f : α → Except Error β} {xs : List α} {ys : List β} :
    xs.mapM f = .ok ys ↔ List.Forall₂ (fun x y ↦ f x = .ok y) xs ys := by
  induction xs generalizing ys with
  | nil =>
    rw [List.mapM_nil, List.forall₂_nil_left_iff]
    exact ⟨fun h ↦ by cases h; rfl, by rintro rfl; rfl⟩
  | cons x xs ih =>
    rw [List.mapM_cons, List.forall₂_cons_left_iff]
    constructor
    · intro h
      obtain ⟨y, hy, h⟩ := exists_of_bind_eq_ok h
      obtain ⟨ys', hys, h⟩ := exists_of_bind_eq_ok h
      cases h
      exact ⟨y, ys', hy, ih.mp hys, rfl⟩
    · rintro ⟨y, ys', hy, hys, rfl⟩
      rw [hy, ih.mpr hys]
      rfl

/-- Each of the elements is related to one of the others. -/
theorem exists_of_forall₂ {α β : Type} {R : α → β → Prop} {xs : List α} {ys : List β}
    (h : List.Forall₂ R xs ys) {x : α} (hx : x ∈ xs) : ∃ y ∈ ys, R x y := by
  induction h with
  | nil => cases hx
  | cons hy _ ih =>
    rcases List.mem_cons.mp hx with rfl | hx
    · exact ⟨_, List.mem_cons_self, hy⟩
    · obtain ⟨y, hmem, hy⟩ := ih hx
      exact ⟨y, List.mem_cons_of_mem _ hmem, hy⟩

/-- The fragments of a source text between the bars. -/
def segments (source : String) : List (List Fragment) :=
  Fragment.splitBy isBar (Fragment.scan (Text.trim source.toList))

/-- A source text is read as a pipeline exactly if its first segment is an expression and the others
are steps. -/
theorem read_eq_ok {source : String} {p : Pipeline} :
    read source = .ok p ↔ Text.trim source.toList ≠ [] ∧
      p.source = String.ofList (Text.trim source.toList) ∧
      Expr.ofFragments ((segments source).head?.getD []) = .ok p.base ∧
      ∃ steps, List.Forall₂ FilterCall.IsStep (segments source).tail steps ∧
        p.filters = steps.filterMap id ∧ p.safe = steps.any Option.isNone := by
  have hsteps {steps : List (Option FilterCall)} :
      (segments source).tail.mapM FilterCall.ofFragments? = .ok steps ↔
        List.Forall₂ FilterCall.IsStep (segments source).tail steps := by
    rw [mapM_eq_ok]
    simp only [FilterCall.ofFragments?_eq_ok]
  constructor
  · intro h
    rw [read] at h
    dsimp only at h
    split at h
    · cases h
    · next hne =>
      obtain ⟨base, hbase, h⟩ := exists_of_bind_eq_ok h
      obtain ⟨steps, hread, h⟩ := exists_of_bind_eq_ok h
      cases h
      exact ⟨by simpa using hne, rfl, hbase, steps, hsteps.mp hread, rfl, rfl⟩
  · rintro ⟨hne, hsource, hbase, steps, hread, hfilters, hsafe⟩
    obtain ⟨_, base, filters, safe⟩ := p
    obtain ⟨rfl, rfl, rfl⟩ : _ ∧ _ ∧ _ := ⟨hsource, hfilters, hsafe⟩
    have hread := hsteps.mpr hread
    rw [segments] at hbase hread
    rw [read]
    dsimp only
    rw [if_neg (by simpa using hne), hbase]
    simp only [bind, Except.bind, hread]
    rfl

/-- What is read as a pipeline is an expression and steps, each of which is written as a filter with
its arguments or begins with the mark of safe results. A segment that does neither is refused, as
any text that is no pipeline is: it breaks the grammar, or a string in it has an escape without a
meaning. -/
theorem read_steps (source : String) :
    (∀ p, read source = .ok p ↔ Text.trim source.toList ≠ [] ∧
      p.source = String.ofList (Text.trim source.toList) ∧
      Expr.ofFragments ((segments source).head?.getD []) = .ok p.base ∧
      ∃ steps, List.Forall₂ FilterCall.IsStep (segments source).tail steps ∧
        p.filters = steps.filterMap id ∧ p.safe = steps.any Option.isNone) ∧
    ∀ fs ∈ (segments source).tail, ¬FilterCall.IsMark fs →
      (∀ call, ¬FilterCall.IsWrittenAs fs call) →
        ∃ e, read source = .error e ∧ (e.kind = .syntaxError ∨ e.kind = .badEscape ∧
          ∃ f ∈ Fragment.scan (Text.trim source.toList), f.isMeaningless = true) := by
  refine ⟨fun p ↦ read_eq_ok, fun fs hfs hmark hcall ↦ ?_⟩
  cases hread : read source with
  | ok p =>
    obtain ⟨-, -, -, steps, hsteps, -, -⟩ := read_eq_ok.mp hread
    obtain ⟨step, -, hstep⟩ := exists_of_forall₂ hsteps hfs
    cases hstep with
    | mark h => exact absurd h hmark
    | call h _ => exact absurd h (hcall _)
  | error e =>
    refine ⟨e, rfl, ?_⟩
    have hkind := failsIn_read_failureKinds source e hread
    rw [Fragment.failureKinds] at hkind
    split at hkind
    · next hmeaningless =>
      simp only [ErrorKind.ofSources, List.mem_cons, List.not_mem_nil, or_false] at hkind
      exact hkind.imp_right fun h ↦ ⟨h, by simpa using hmeaningless⟩
    · exact .inl (List.mem_singleton.mp hkind)

/-- A filter with a word behind its name instead of arguments. -/
theorem read_steps_refused :
    let fs : List Fragment :=
      [.ofOperator ' ', ⟨"upper".toList, .path⟩, .ofOperator ' ', ⟨"2".toList, .literal⟩]
    fs ∈ (segments "x | upper 2").tail ∧ ¬FilterCall.IsMark fs ∧
      (∀ call, ¬FilterCall.IsWrittenAs fs call) ∧
      ∃ e, read "x | upper 2" = .error e ∧ (e.kind = .syntaxError ∨ e.kind = .badEscape ∧
        ∃ f ∈ Fragment.scan (Text.trim "x | upper 2".toList), f.isMeaningless = true) := by
  intro fs
  have hfs : fs ∈ (segments "x | upper 2").tail := by decide
  have hmark : ¬FilterCall.IsMark fs := by
    rw [FilterCall.isMark_iff]
    rintro ⟨name, rest, htrim, -, hname⟩
    cases htrim
    exact absurd hname (by decide)
  have hcall (call : FilterCall) : ¬FilterCall.IsWrittenAs fs call :=
    FilterCall.not_isWrittenAs ⟨"upper".toList, .path⟩
      [.ofOperator ' ', ⟨"2".toList, .literal⟩] (by decide) (by decide) (by decide)
  exact ⟨hfs, hmark, hcall, (read_steps "x | upper 2").2 fs hfs hmark hcall⟩

/-- What stands behind the mark of safe results is not looked at. -/
theorem read_steps_mark :
    let fs : List Fragment := [.ofOperator ' ', ⟨"safe".toList, .path⟩, .ofOperator ' ',
      ⟨"1".toList, .literal⟩, .ofOperator ' ', ⟨"2".toList, .literal⟩]
    fs ∈ (segments "x | safe 1 2").tail ∧ (∀ call, ¬FilterCall.IsWrittenAs fs call) ∧
      read "x | safe 1 2" = .ok ⟨"x | safe 1 2", .path "x" [], [], true⟩ := by
  intro fs
  have hcall (call : FilterCall) : ¬FilterCall.IsWrittenAs fs call :=
    FilterCall.not_isWrittenAs ⟨"safe".toList, .path⟩
      [.ofOperator ' ', ⟨"1".toList, .literal⟩, .ofOperator ' ', ⟨"2".toList, .literal⟩]
      (by decide) (by decide) (by decide)
  exact ⟨by decide, hcall, rfl⟩

end Pipeline

end Stencil
