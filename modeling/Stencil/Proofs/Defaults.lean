import Stencil.Proofs.Reachable

/-!
# Defaults of parameters

Where an argument is not given the parameter takes the value of its default, which is evaluated in
the frame that has been filled so far. Evaluating calls macros or leaves the scope as it is. So
unless macros are called, passing the values that the defaults have makes no difference to the call,
and arguments beyond the last parameter never do.
-/

namespace Stencil

/-- Whether a task is the call of a macro. -/
def Task.IsInvoke : {α : Type} → Task α → Prop
  | _, .invoke _ _ _ => True
  | _, _ => False

/-- The scope in which parameters are bound to values, from first to last. -/
def Scope.bindParams (s : Scope) (ps : List Param) (vs : List Value) : Scope :=
  (ps.zip vs).foldl (fun s p ↦ s.set p.1.name p.2) s

private theorem Scope.set_ne_nil {s : Scope} (hs : s ≠ []) (name : String) (v : Value) :
    s.set name v ≠ [] := by
  rw [← List.length_pos_iff, Scope.length_set]
  exact List.length_pos_iff.mpr hs

namespace Param

/-- The value of a parameter without an argument in a scope: that of its default, which is undefined
if it calls an unknown name, or the empty text if there is no default. -/
def defaultIn (st : Setting) (p : Param) (s : Scope) : Except Error Value :=
  match p.default with
  | some e => Action.recovered ((e.eval st).run.run s).1 .undefined
  | none => .ok (.plain "")

/-- The values of parameters without arguments. Each default is evaluated once all parameters before
it are bound. -/
def missing (st : Setting) : List Param → Scope → Except Error (List Value)
  | [], _ => .ok []
  | p :: ps, s => do
    let v ← p.defaultIn st s
    return v :: (← missing st ps (s.set p.name v))

private theorem missing_of_error {st : Setting} {p : Param} {ps : List Param} {s : Scope}
    {e : Error} (h : p.defaultIn st s = .error e) : missing st (p :: ps) s = .error e := by
  rw [missing, h]
  rfl

private theorem missing_of_ok {st : Setting} {p : Param} {ps : List Param} {s : Scope} {v : Value}
    (h : p.defaultIn st s = .ok v) :
    missing st (p :: ps) s = (missing st ps (s.set p.name v)).map (v :: ·) := by
  rw [missing, h]
  rfl

/-- Whether binding parameters to arguments calls no macro. -/
def BindsWithoutCalls (env : Environment) (macros : List (String × MacroDecl)) (d : Nat)
    (ps : List Param) (args : List Value) (s : Scope) : Prop :=
  ∃ r s' visits, (Script.task d (.bindAll ps args)).Runs (Task.code env macros) s r s' visits ∧
    ∀ v ∈ visits, ¬v.task.IsInvoke

end Param

/-! ### Evaluating without calls -/

namespace Task

/-- Whether a task evaluates expressions or names in them. -/
def Evaluates : {α : Type} → Task α → Prop
  | _, .eval _ => True
  | _, .evalAll _ => True
  | _, .evalEntries _ _ => True
  | _, .valueOf _ => True
  | _, .call _ _ => True
  | _, _ => False

/-- Whether a script only looks at the scope, and names only tasks that evaluate. -/
def OnlyEvaluates : {α : Type} → Script Task α → Prop
  | _, .look _ => True
  | _, .bind first next => OnlyEvaluates first ∧ ∀ x, OnlyEvaluates (next x)
  | _, .orIfUnknown body _ => OnlyEvaluates body
  | _, .task _ t => t.Evaluates
  | _, _ => False

section

variable {d : Nat} {α : Type}

private theorem onlyEvaluates_ite {c : Prop} [Decidable c] {a b : Script Task α}
    (ha : OnlyEvaluates a) (hb : OnlyEvaluates b) : OnlyEvaluates (if c then a else b) := by
  split
  · exact ha
  · exact hb

private theorem onlyEvaluates_evalScript (e : Expr) : OnlyEvaluates (evalScript d e) := by
  cases e with
  | const v => exact trivial
  | path root names => exact ⟨trivial, fun _ ↦ trivial⟩
  | property e name => exact ⟨trivial, fun _ ↦ trivial⟩
  | item e key => exact ⟨trivial, fun _ ↦ ⟨trivial, fun _ ↦ trivial⟩⟩
  | call callee args =>
    cases callee with
    | path root names =>
      refine ⟨trivial, fun vs ↦ ?_⟩
      cases names.getLast? with
      | none => exact trivial
      | some method => exact ⟨trivial, fun _ ↦ trivial⟩
    | property e method => exact ⟨trivial, fun _ ↦ ⟨trivial, fun _ ↦ trivial⟩⟩
    | _ => exact ⟨trivial, fun _ ↦ trivial⟩
  | unary op e => exact ⟨trivial, fun _ ↦ trivial⟩
  | binary op left right =>
    cases op with
    | and => exact ⟨trivial, fun _ ↦ onlyEvaluates_ite trivial trivial⟩
    | or => exact ⟨trivial, fun _ ↦ onlyEvaluates_ite trivial trivial⟩
    | _ => exact ⟨trivial, fun _ ↦ ⟨trivial, fun _ ↦ trivial⟩⟩
  | conditional test yes no => exact ⟨trivial, fun _ ↦ onlyEvaluates_ite trivial trivial⟩
  | list items => exact ⟨trivial, fun _ ↦ trivial⟩
  | map entries => exact ⟨trivial, fun _ ↦ trivial⟩

end

variable {env : Environment} {macros : List (String × MacroDecl)} {d : Nat} {s s' : Scope}
  {visits : List (Visit Task)}

private theorem runs_bindScript_bind_of_not {α : Type} {next : Bool → Script Task α} {name : String}
    {r : Except Error α} (hname : ¬Declared macros name)
    (h : (bindScript macros name >>= next).Runs (code env macros) s r s' visits) :
    (next false).Runs (code env macros) s r s' visits := by
  have hnone : ¬(Entries.get? name macros).isSome := hname
  rw [bindScript, if_neg hnone] at h
  exact h.of_look_bind rfl

private theorem exists_isInvoke_of_runs_call {name : String} {args : List Value} {level : Nat}
    {r : Except Error Value} (hr : s.resolve name = some (.routine level))
    (h : (Script.task d (.call name args)).Runs (code env macros) s r s' visits) :
    ∃ v ∈ visits, v.task.IsInvoke := by
  obtain ⟨rest, hinvoke, rfl⟩ := runs_call_routine hr h
  obtain ⟨rest, -, rfl⟩ := hinvoke.of_task
  exact ⟨_, .tail _ (.head _), trivial⟩

private theorem scope_eq_of_runs_call {name : String} {args : List Value} {r : Except Error Value}
    (h : (Script.task d (.call name args)).Runs (code env macros) s r s' visits) (hs : s ≠ [])
    (hquiet : ∀ v ∈ visits, ¬v.task.IsInvoke) : s' = s := by
  rcases hr : s.resolve name with _ | v | level
  · by_cases hname : Declared macros name
    · obtain ⟨rest, hagain, rfl⟩ := runs_call_none hname hr h
      obtain ⟨v, hv, hinvoke⟩ :=
        exists_isInvoke_of_runs_call (Scope.resolve_bindMacro hs hr) hagain
      exact absurd hinvoke (hquiet v (.tail _ hv))
    · obtain ⟨rest, hcode, rfl⟩ := h.of_task
      have hbound := hcode.of_look_bind rfl
      rw [hr] at hbound
      exact (runs_bindScript_bind_of_not hname hbound).of_look.2.1
  · obtain ⟨rest, hcode, rfl⟩ := h.of_task
    have hbound := hcode.of_look_bind rfl
    rw [hr] at hbound
    exact hbound.of_look.2.1
  · obtain ⟨v, hv, hinvoke⟩ := exists_isInvoke_of_runs_call hr h
    exact absurd hinvoke (hquiet v hv)

private theorem scope_eq_of_runs_valueOf {name : String} {r : Except Error Value}
    (h : (Script.task d (.valueOf name)).Runs (code env macros) s r s' visits) (hs : s ≠ [])
    (hquiet : ∀ v ∈ visits, ¬v.task.IsInvoke) : s' = s := by
  obtain ⟨rest, hcode, rfl⟩ := h.of_task
  have hbound := hcode.of_look_bind rfl
  rcases hr : s.resolve name with _ | v | level <;> rw [hr] at hbound
  · by_cases hname : Declared macros name
    · have hcall := runs_bindScript_bind hname hbound
      rw [if_pos rfl] at hcall
      obtain ⟨v, hv, hinvoke⟩ :=
        exists_isInvoke_of_runs_call (Scope.resolve_bindMacro hs hr) hcall
      exact absurd hinvoke (hquiet v (.tail _ hv))
    · exact (runs_bindScript_bind_of_not hname hbound).of_look.2.1
  · exact hbound.of_look.2.1
  · obtain ⟨rest, -, rfl⟩ := hbound.of_task
    exact absurd trivial (hquiet _ (.tail _ (.head _)))

private theorem scope_eq_of_runs {α : Type} {a : Script Task α} {r : Except Error α}
    (h : a.Runs (code env macros) s r s' visits) (ha : OnlyEvaluates a) (hs : s ≠ [])
    (hquiet : ∀ v ∈ visits, ¬v.task.IsInvoke) : s' = s := by
  induction h with
  | look => rfl
  | next _ _ ihfirst ihnext =>
    obtain ⟨hbefore, hafter⟩ := List.forall_mem_append.mp hquiet
    obtain rfl := ihfirst ha.1 hs hbefore
    exact ihnext (ha.2 _) hs hafter
  | failed _ ihfirst => exact ihfirst ha.1 hs hquiet
  | orIfUnknown _ ih => exact ih ha hs hquiet
  | @task α d t s s₁ r visits hcode ih =>
    have hrest := (List.forall_mem_cons.mp hquiet).2
    cases t with
    | eval e => exact ih (onlyEvaluates_evalScript e) hs hrest
    | evalAll es =>
      refine ih ?_ hs hrest
      cases es with
      | nil => exact trivial
      | cons e es => exact ⟨trivial, fun _ ↦ ⟨trivial, fun _ ↦ trivial⟩⟩
    | evalEntries table es =>
      refine ih ?_ hs hrest
      cases es with
      | nil => exact trivial
      | cons entry es => exact ⟨trivial, fun _ ↦ trivial⟩
    | valueOf name => exact scope_eq_of_runs_valueOf (.task hcode) hs hquiet
    | call name args => exact scope_eq_of_runs_call (.task hcode) hs hquiet
    | _ => cases ha
  | _ => cases ha

/-! ### Binding parameters -/

private theorem runs_bindAll_argument {p : Param} {ps : List Param} {v : Value} {vs : List Value}
    {r : Except Error Unit}
    (h : (Script.task d (.bindAll (p :: ps) (v :: vs))).Runs (code env macros) s r s' visits)
    (hquiet : ∀ v ∈ visits, ¬v.task.IsInvoke) :
    ∃ after, (Script.task d (.bindAll ps vs)).Runs (code env macros) (s.set p.name v) r s' after ∧
      ∀ v ∈ after, ¬v.task.IsInvoke := by
  obtain ⟨rest, hcode, rfl⟩ := h.of_task
  exact ⟨rest, (hcode.of_look_bind rfl).of_set_bind, (List.forall_mem_cons.mp hquiet).2⟩

private theorem runs_bindAll_default {p : Param} {ps : List Param} {r : Except Error Unit}
    (h : (Script.task d (.bindAll (p :: ps) [])).Runs (code env macros) s r s' visits)
    (hs : s ≠ []) (hquiet : ∀ v ∈ visits, ¬v.task.IsInvoke) :
    (∃ e, p.defaultIn (setting env macros d) s = .error e ∧ r = .error e) ∨
      ∃ v after, p.defaultIn (setting env macros d) s = .ok v ∧
        (Script.task d (.bindAll ps [])).Runs (code env macros) (s.set p.name v) r s' after ∧
        ∀ v ∈ after, ¬v.task.IsInvoke := by
  obtain ⟨rest, hcode, rfl⟩ := h.of_task
  have hrest := (List.forall_mem_cons.mp hquiet).2
  obtain ⟨name, default⟩ := p
  cases default with
  | none =>
    exact .inr ⟨_, rest, rfl, (hcode.of_look_bind rfl).of_set_bind, hrest⟩
  | some e =>
    obtain ⟨first, s₁, before, hfirst, hnext⟩ := hcode.of_bind
    obtain ⟨r₁, heval, rfl⟩ := Script.Runs.of_orIfUnknown hfirst
    have hlevel : (eval e).level < s.length := List.length_pos_iff.mpr hs
    have hact : (e.eval (setting env macros d)).run.run s = (r₁, s₁) :=
      run_act (eval e) hlevel heval
    have hdefault : Param.defaultIn (setting env macros d) ⟨name, some e⟩ s =
        Action.recovered r₁ .undefined := by
      simp only [Param.defaultIn, hact]
    rw [hdefault]
    rcases hnext with ⟨e, he, rfl, -⟩ | ⟨v, after, hv, hafter, rfl⟩
    · exact .inl ⟨e, he, rfl⟩
    · obtain ⟨hbefore, hafterQuiet⟩ := List.forall_mem_append.mp hrest
      obtain rfl := scope_eq_of_runs heval trivial hs hbefore
      exact .inr ⟨v, after, hv, hafter.of_set_bind, hafterQuiet⟩

private theorem runs_bindAll_nil {ps : List Param} {r : Except Error Unit}
    (h : (Script.task d (.bindAll ps [])).Runs (code env macros) s r s' visits) (hs : s ≠ [])
    (hquiet : ∀ v ∈ visits, ¬v.task.IsInvoke) :
    r = (Param.missing (setting env macros d) ps s).map (fun _ ↦ ()) ∧
      ∀ vs, Param.missing (setting env macros d) ps s = .ok vs →
        vs.length = ps.length ∧ s' = s.bindParams ps vs := by
  induction ps generalizing s visits with
  | nil =>
    obtain ⟨rest, hcode, rfl⟩ := h.of_task
    obtain ⟨rfl, rfl, rfl⟩ := hcode.of_look
    refine ⟨rfl, fun vs hvs ↦ ?_⟩
    cases hvs
    exact ⟨rfl, rfl⟩
  | cons p ps ih =>
    rcases runs_bindAll_default h hs hquiet with ⟨e, he, rfl⟩ | ⟨v, after, hv, hafter, hrest⟩
    · rw [Param.missing_of_error he]
      exact ⟨rfl, fun vs hvs ↦ by cases hvs⟩
    · obtain ⟨rfl, hbound⟩ := ih hafter (Scope.set_ne_nil hs _ _) hrest
      rw [Param.missing_of_ok hv]
      cases hmissing : Param.missing (setting env macros d) ps (s.set p.name v) with
      | error e => exact ⟨rfl, fun vs hvs ↦ by cases hvs⟩
      | ok vs =>
        refine ⟨rfl, fun ws hws ↦ ?_⟩
        cases hws
        obtain ⟨hlength, hscope⟩ := hbound vs hmissing
        exact ⟨congrArg (· + 1) hlength, hscope⟩

private theorem runs_bindAll {ps : List Param} {args : List Value} {r : Except Error Unit}
    (h : (Script.task d (.bindAll ps args)).Runs (code env macros) s r s' visits) (hs : s ≠ [])
    (hquiet : ∀ v ∈ visits, ¬v.task.IsInvoke) (hargs : args.length ≤ ps.length) :
    let defaults :=
      Param.missing (setting env macros d) (ps.drop args.length) (s.bindParams ps args)
    r = defaults.map (fun _ ↦ ()) ∧
      ∀ vs, defaults = .ok vs →
        (args ++ vs).length = ps.length ∧ s' = s.bindParams ps (args ++ vs) := by
  induction args generalizing ps s visits with
  | nil =>
    rw [Scope.bindParams, List.zip_nil_right]
    exact runs_bindAll_nil h hs hquiet
  | cons v args ih =>
    cases ps with
    | nil => cases hargs
    | cons p ps =>
      obtain ⟨after, hafter, hrest⟩ := runs_bindAll_argument h hquiet
      obtain ⟨hr, hbound⟩ :=
        ih hafter (Scope.set_ne_nil hs _ _) hrest (Nat.le_of_succ_le_succ hargs)
      refine ⟨hr, fun vs hvs ↦ ?_⟩
      obtain ⟨hlength, hscope⟩ := hbound vs hvs
      exact ⟨congrArg (· + 1) hlength, hscope⟩

end Task

/-! ### Calls -/

private theorem Param.run_bindAll_of_le (st : Setting) {ps : List Param} {args : List Value}
    (h : ps.length ≤ args.length) (s : Scope) :
    (Param.bindAll st ps args).run.run s = (.ok (), s.bindParams ps args) := by
  induction ps generalizing args s with
  | nil => rfl
  | cons p ps ih =>
    cases args with
    | nil => cases h
    | cons v args => exact ih (Nat.le_of_succ_le_succ h) (s.set p.name v)

private theorem Param.bindAll_append (st : Setting) {ps : List Param} {args : List Value}
    (h : ps.length ≤ args.length) (more : List Value) :
    Param.bindAll st ps (args ++ more) = Param.bindAll st ps args := by
  induction ps generalizing args with
  | nil => rfl
  | cons p ps ih =>
    cases args with
    | nil => cases h
    | cons v args =>
      rw [List.cons_append, Param.bindAll, Param.bindAll, List.tail_cons, List.tail_cons,
        ih (Nat.le_of_succ_le_succ h)]

private theorem run_bind_congr {α β : Type} {a a' : Action α} {s : Scope}
    (h : a.run.run s = a'.run.run s) (f : α → Action β) :
    (a >>= f).run.run s = (a' >>= f).run.run s := by
  simp only [ExceptT.run_bind, StateT.run_bind, h]

private theorem run_invoke_congr {env : Environment} {macros : List (String × MacroDecl)}
    {name : String} {m : MacroDecl} (hm : Entries.get? name macros = some m) {d level : Nat}
    {args args' : List Value} {s : Scope}
    (h : (Param.bindAll (Task.setting env macros (d + 1)) m.signature.params args).run.run
        (.empty :: s.drop level) =
      (Param.bindAll (Task.setting env macros (d + 1)) m.signature.params args').run.run
        (.empty :: s.drop level)) :
    ((Task.setting env macros d).invoke name args level).run.run s =
      ((Task.setting env macros d).invoke name args' level).run.run s := by
  simp only [Task.invoke_setting, hm]
  split
  · rfl
  · rw [MacroDecl.call, MacroDecl.call, Action.run_outside, Action.run_outside, Action.run_inFrame,
      Action.run_inFrame, run_bind_congr h]

/-- Passing the values of the defaults makes no difference to a call. If binding the parameters to
fewer arguments calls no macro, the parameters that are left are bound to the values of their
defaults, each evaluated behind the binding of those before it, and the call with these values as
further arguments does what the call without them does. Arguments beyond the last parameter make no
difference at all. -/
theorem MacroDecl.invoke_defaults (env : Environment) {macros : List (String × MacroDecl)}
    {name : String} {m : MacroDecl} (hm : Entries.get? name macros = some m) (d level : Nat)
    (s : Scope) :
    let st := Task.setting env macros (d + 1)
    let ps := m.signature.params
    let frames : Scope := .empty :: s.drop level
    let invoke (args : List Value) :=
      ((Task.setting env macros d).invoke name args level).run.run s
    (∀ args, args.length < ps.length → Param.BindsWithoutCalls env macros (d + 1) ps args frames →
      let defaults := Param.missing st (ps.drop args.length) (frames.bindParams ps args)
      ((Param.bindAll st ps args).run.run frames).1 = defaults.map (fun _ ↦ ()) ∧
        ∀ vs, defaults = .ok vs →
          (args ++ vs).length = ps.length ∧
          (Param.bindAll st ps args).run.run frames = (.ok (), frames.bindParams ps (args ++ vs)) ∧
          invoke (args ++ vs) = invoke args) ∧
    ∀ args more, ps.length ≤ args.length → invoke (args ++ more) = invoke args := by
  intro st ps frames invoke
  refine ⟨fun args hargs hquiet ↦ ?_, fun args more hargs ↦ ?_⟩
  · obtain ⟨r, s', visits, hrun, hvisits⟩ := hquiet
    have hframes : frames ≠ [] := List.cons_ne_nil _ _
    have hact : (Param.bindAll st ps args).run.run frames = (r, s') :=
      Task.run_act (.bindAll ps args) (List.length_pos_iff.mpr hframes) hrun
    obtain ⟨hr, hbound⟩ := Task.runs_bindAll hrun hframes hvisits (Nat.le_of_lt hargs)
    refine ⟨by rw [hact, hr], fun vs hvs ↦ ?_⟩
    obtain ⟨hlength, hscope⟩ := hbound vs hvs
    have hfilled : (Param.bindAll st ps args).run.run frames =
        (.ok (), frames.bindParams ps (args ++ vs)) := by
      rw [hact, hr, hscope, hvs]
      rfl
    refine ⟨hlength, hfilled, run_invoke_congr hm ?_⟩
    exact (Param.run_bindAll_of_le st (Nat.le_of_eq hlength.symm) frames).trans hfilled.symm
  · exact run_invoke_congr hm (by rw [Param.bindAll_append _ hargs])

/-- A default that is the parameter in front of it, and a parameter without a default. -/
theorem MacroDecl.invoke_defaults_earlier :
    let m : MacroDecl := ⟨⟨"m", [⟨"a", none⟩, ⟨"b", some (.path "a" [])⟩, ⟨"c", none⟩]⟩,
      [.interpolation ⟨"b", .path "b" [], [], false⟩ []]⟩
    let macros : List (String × MacroDecl) := [("m", m)]
    let invoke (args : List Value) :=
      ((Task.setting .new macros 0).invoke "m" args 0).run.run [.empty]
    Entries.get? "m" macros = some m ∧
      Param.BindsWithoutCalls .new macros 1 m.signature.params [.bool true] [.empty, .empty] ∧
      invoke [.bool true, .bool true, .plain ""] = invoke [.bool true] ∧
      invoke [.bool true, .bool true, .plain "", .null] =
        invoke [.bool true, .bool true, .plain ""] := by
  intro m macros invoke
  let s : Scope := [⟨[("a", .bool true)], []⟩, .empty]
  have hname : (Script.task 1 (.valueOf "a")).Runs (Task.code .new macros) s (.ok (.bool true)) s
      (⟨1, .valueOf "a", s⟩ :: ([] ++ [])) := by
    refine .task (.next (.look _ s) ?_)
    exact .look _ s
  have hdefault : (Script.task 1 (.eval (.path "a" []))).Runs (Task.code .new macros) s
      (.ok (.bool true)) s
      (⟨1, .eval (.path "a" []), s⟩ :: (⟨1, .valueOf "a", s⟩ :: ([] ++ []) ++ [])) := by
    refine .task (.next hname ?_)
    exact .look _ s
  have hcalls : Param.BindsWithoutCalls .new macros 1 m.signature.params [.bool true]
      [.empty, .empty] := by
    refine ⟨_, _, _, .task (.next (.look _ _) (.next (.set _ _ _) (.task (.next
      (.orIfUnknown hdefault) (.next (.set _ _ _) (.task (.next (.look _ _) (.next (.set _ _ _)
      (.task (.look _ _)))))))))), ?_⟩
    simp [Task.IsInvoke]
  obtain ⟨hdefaults, hmore⟩ :=
    @MacroDecl.invoke_defaults .new macros "m" m rfl 0 0 [.empty]
  obtain ⟨-, hvalues⟩ := hdefaults [.bool true] (by decide) hcalls
  obtain ⟨-, -, hcall⟩ := hvalues [.bool true, .plain ""] rfl
  exact ⟨rfl, hcalls, hcall, hmore [.bool true, .bool true, .plain ""] [.null] (by decide)⟩

end Stencil
