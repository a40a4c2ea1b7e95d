import Stencil.Proofs.Task

/-!
# Tasks as actions

What the script of a task says is what evaluation and rendering do. A task therefore keeps a
contract as soon as its script does.
-/

namespace Stencil

namespace Task

variable (env : Environment) (macros : List (String × MacroDecl)) (d : Nat)

/-- The handler runs a task with the setting of its level. -/
@[simp] theorem handler_act {α : Type} (t : Task α) :
    (handler env macros).act d t = t.act (setting env macros d) := rfl

/-! ### Settings -/

private theorem invoke_at (n : Nat) (name : String) (args : List Value) (level : Nat) :
    (Setting.at env macros n).invoke name args level =
      match Entries.get? name macros with
      | none => throw (.undefinedVariable name)
      | some m =>
        match n with
        | 0 => throw (callLimitExceeded name)
        | n + 1 => m.call (Setting.at env macros n) args level :=
  congrArg (fun s : Setting ↦ s.invoke name args level) (Setting.at.eq_def env macros n)

/-- The setting of a depth is the one in which the rest of the calls may be nested. -/
theorem setting_eq {n : Nat} (hn : n ≤ env.callLimit) :
    setting env macros (env.callLimit - n) = Setting.at env macros n := by
  rw [setting, Nat.sub_sub_self hn, Setting.at]

/-- The setting outside of all macros is the one of depth zero. -/
theorem setting_zero : setting env macros 0 = Setting.root env macros := by
  rw [Setting.root, ← setting_eq env macros (Nat.le_refl _), Nat.sub_self]

/-- A call goes on at the next depth while that is within the limit. -/
theorem invoke_setting (name : String) (args : List Value) (level : Nat) :
    (setting env macros d).invoke name args level =
      match Entries.get? name macros with
      | none => throw (.undefinedVariable name)
      | some m =>
        if env.callLimit ≤ d then throw (callLimitExceeded name)
        else m.call (setting env macros (d + 1)) args level := by
  rw [setting, invoke_at]
  cases Entries.get? name macros with
  | none => rfl
  | some m =>
    cases hn : env.callLimit - d with
    | zero =>
      have hd : env.callLimit ≤ d := by omega
      simp only [hd, ite_true]
    | succ n =>
      have hd : ¬env.callLimit ≤ d := by omega
      have hs : setting env macros (d + 1) = Setting.at env macros n := by
        rw [← setting_eq env macros (by omega)]
        congr 1
        omega
      simp only [hd, ite_false, hs]

/-! ### Scripts -/

private theorem act_evalScript (e : Expr) :
    (evalScript d e).act (handler env macros) = e.eval (setting env macros d) := by
  cases e with
  | call callee args =>
    cases callee with
    | path root names =>
      simp only [evalScript, Expr.eval, act, Script.act_bind, Script.act_task, handler_act]
      congr 1
      funext vs
      cases names.getLast? with
      | none => rfl
      | some method => simp [act, Setting.valueAt]
    | _ => simp [evalScript, Expr.eval, act] <;> rfl
  | binary op left right => cases op <;> simp [evalScript, Expr.eval, act]
  | path root names => rw [Expr.eval]; rfl
  | _ => simp [evalScript, Expr.eval, act]

private theorem act_bindScript (name : String) :
    (bindScript macros name).act (handler env macros) = (setting env macros d).bindMacro name := by
  rw [bindScript, Setting.bindMacro, Script.act_ite]
  rfl

/-- Binding a macro binds it if it is declared, and says so. -/
theorem run_bindMacro (st : Setting) (name : String) (s : Scope) :
    (st.bindMacro name).run.run s =
      if st.isDeclared name then (.ok true, s.bindMacro name) else (.ok false, s) := by
  rw [Setting.bindMacro]
  split <;> rfl

/-- The filters of a pipeline are looked up before anything is evaluated. -/
theorem mapM_filter (s : Setting) (steps : List FilterCall) :
    (steps.mapM fun step ↦ s.filter step.name) = Action.ofExcept (filters s.env steps) := by
  induction steps with
  | nil => rfl
  | cons step steps ih =>
    rw [List.mapM_cons, ih, filters, Setting.filter, filter]
    cases s.env.filter? step.name with
    | none => rfl
    | some f => cases filters s.env steps <;> rfl

private theorem act_pipelineScript (p : Pipeline) :
    (pipelineScript env d p).act (handler env macros) = p.evalStrict (setting env macros d) := by
  rw [pipelineScript, Pipeline.evalStrict, mapM_filter]
  rfl

private theorem act_renderScript (n : Node) :
    (renderScript env macros d n).act (handler env macros) = n.render (setting env macros d) := by
  cases n with
  | interpolation p fs =>
    rw [Node.render, renderScript, Pipeline.render]
    cases p.calledName? with
    | none => rfl
    | some name =>
      simp only [Script.act_bind, act_bindScript env macros d]
      rfl
  | condition test body others otherwise =>
    rw [Node.render.eq_def, renderScript.eq_def]
    simp only [Script.act_bind, Script.act_ite, Script.act_task, handler_act, act]
    congr 1
    funext v
    congr 1
    congr 1
    funext o
    cases o with
    | some out => rfl
    | none => cases otherwise <;> rfl
  | _ => rw [Node.render]; rfl

/-! ### Names -/

private theorem run_resolve (name : String) (s : Scope) :
    ((.look fun s ↦ .ok (s.resolve name) : Script Task (Option Binding)).act
      (handler env macros)).run.run s = (.ok (s.resolve name), s) := rfl

private theorem act_valueOf (name : String) (s : Scope) :
    (((valueOf name).script env macros d).act (handler env macros)).run.run s =
      ((setting env macros d).valueOf name).run.run s := by
  have hget : (get : Action Scope).run.run s = (.ok s, s) := rfl
  rw [script, Script.act_bind, Action.run_bind_ok (run_resolve env macros name s),
    Setting.valueOf, Action.run_bind_ok hget]
  rcases s.resolve name with _ | v | level
  · simp only [Script.act_bind, act_bindScript env macros d, Script.act_ite]
    rfl
  · rfl
  · rfl

private theorem run_call (name : String) (args : List Value) (s : Scope) :
    ((setting env macros d).call name args).run.run s =
      (match s.resolve name with
        | some binding => (setting env macros d).callBound name args (some binding)
        | none => do
          let _ ← (setting env macros d).bindMacro name
          (setting env macros d).callBound name args ((← get).resolve name)).run.run s := rfl

private theorem act_call (name : String) (args : List Value) (s : Scope) (hs : s ≠ []) :
    (((call name args).script env macros d).act (handler env macros)).run.run s =
      ((setting env macros d).call name args).run.run s := by
  rw [run_call, script, Script.act_bind, Action.run_bind_ok (run_resolve env macros name s)]
  rcases hr : s.resolve name with _ | v | level
  · simp only [Script.act_bind, act_bindScript env macros d, Script.act_ite, Setting.bindMacro]
    by_cases hm : (setting env macros d).isDeclared name
    · simp only [hm, ite_true]
      have hb := Scope.resolve_bindMacro hs hr
      change ((setting env macros d).call name args).run.run (s.bindMacro name) =
        ((setting env macros d).callBound name args
          ((s.bindMacro name).resolve name)).run.run (s.bindMacro name)
      rw [run_call, hb]
    · simp only [hm]
      change _ = ((setting env macros d).callBound name args (s.resolve name)).run.run s
      rw [hr]
      rfl
  · rfl
  · rfl

/-! ### Tasks -/

/-- In a scope with a frame, a task does what its script says. -/
theorem act_script {α : Type} (t : Task α) (s : Scope) (hs : s ≠ []) :
    ((t.script env macros d).act (handler env macros)).run.run s =
      (t.act (setting env macros d)).run.run s := by
  cases t with
  | eval e => rw [script, act_evalScript]; rfl
  | evalAll es => cases es <;> rw [act, Expr.evalAll] <;> rfl
  | evalEntries table es => cases es <;> rw [act, Expr.evalEntries] <;> rfl
  | valueOf name => exact act_valueOf env macros d name s
  | call name args => exact act_call env macros d name args s hs
  | invoke name args level =>
    rw [script, act, invoke_setting]
    cases Entries.get? name macros with
    | none => rfl
    | some m =>
      rw [Script.act_ite]
      rfl
  | bindAll params args =>
    cases params with
    | nil => rfl
    | cons p ps =>
      cases args with
      | cons v vs => rfl
      | nil =>
        obtain ⟨pname, default⟩ := p
        cases default <;> rfl
  | evalPipeline p => rw [script, act, Script.act, act_pipelineScript]; rfl
  | runFilters v steps filters =>
    cases steps with
    | nil => rfl
    | cons step steps => cases filters <;> rfl
  | runNodeFilters v names =>
    cases names with
    | nil => rfl
    | cons name names =>
      have henv : (setting env macros d).env = env := rfl
      rw [act, Stencil.runNodeFilters, Setting.filter, script, filter, henv]
      cases env.filter? name <;> rfl
  | render n => rw [script, act_renderScript]; rfl
  | renderAll ns => cases ns <;> rw [act, Node.renderAll] <;> rfl
  | renderFirst branches =>
    cases branches with
    | nil => rw [act, Node.renderFirst]; rfl
    | cons branch branches =>
      rw [act, Node.renderFirst, script]
      simp only [Script.act_bind, Script.act_ite]
      rfl
  | renderRuns valueName keyName body i n pairs => cases pairs <;> rfl

end Task

end Stencil
