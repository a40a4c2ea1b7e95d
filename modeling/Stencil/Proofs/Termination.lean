import Stencil.Proofs.TaskAction
import Stencil.Proofs.Walk

/-!
# Every rendering ends

Tasks name tasks of less measure: a call of a macro goes deeper, and the depth is limited; all other
tasks name tasks about smaller syntax, down to names; and a name that is called again once it is
bound has no second time to be bound. So every task has a run, and it does what the task does.
-/

namespace Stencil

namespace Task

/-- How many frames lie before the one that a task is about. -/
def level : {α : Type} → Task α → Nat
  | _, .invoke _ _ level => level
  | _, _ => 0

/-- The size of the syntax that a task is about. Names come below all syntax, and what they are
bound to below the names. -/
noncomputable def size : {α : Type} → Task α → Nat
  | _, .invoke _ _ _ => 0
  | _, .call _ _ => 1
  | _, .valueOf _ => 2
  | _, .eval e => 2 + sizeOf e
  | _, .evalAll es => 2 + sizeOf es
  | _, .evalEntries _ es => 2 + sizeOf es
  | _, .bindAll params _ => 2 + sizeOf params
  | _, .evalPipeline p => 2 + sizeOf p
  | _, .runFilters _ steps _ => 2 + sizeOf steps
  | _, .runNodeFilters _ names => 2 + sizeOf names
  | _, .render n => 2 + sizeOf n
  | _, .renderAll ns => 2 + sizeOf ns
  | _, .renderFirst branches => 2 + sizeOf branches
  | _, .renderRuns _ _ body _ _ _ => 3 + sizeOf body

/-- What is left to do about the same syntax: the runs of a loop, or binding a name. -/
def rest (s : Scope) : {α : Type} → Task α → Nat
  | _, .call name _ => if (s.resolve name).isSome then 0 else 1
  | _, .renderRuns _ _ _ _ _ pairs => pairs.length
  | _, _ => 0

/-- What becomes less from each task to those that its script names. -/
noncomputable def measure (env : Environment) {α : Type} (d : Nat) (t : Task α) (s : Scope) :
    Nat × Nat × Nat :=
  (env.callLimit - d, t.size, t.rest s)

/-- Tasks ask for the frame that they are about and for a depth of at most `most`. They neither add
nor remove frames. -/
def steady (most : Nat) : Contract Task where
  pre d t s := t.level < s.length ∧ d ≤ most
  post _ _ s _ s' := s'.length = s.length

variable {env : Environment} {macros : List (String × MacroDecl)} {d most : Nat}

/-! ### The measure -/

private theorem rel_of_size {α β : Type} {t : Task α} {t' : Task β} {s s' : Scope}
    (h : t'.size < t.size) :
    WellFoundedRelation.rel (measure env d t' s') (measure env d t s) :=
  Prod.lex_def.mpr (.inr ⟨rfl, Prod.lex_def.mpr (.inl h)⟩)

private theorem rel_of_rest {α β : Type} {t : Task α} {t' : Task β} {s s' : Scope}
    (hsize : t'.size = t.size) (h : t'.rest s' < t.rest s) :
    WellFoundedRelation.rel (measure env d t' s') (measure env d t s) :=
  Prod.lex_def.mpr (.inr ⟨rfl, Prod.lex_def.mpr (.inr ⟨hsize, h⟩)⟩)

private theorem rel_of_depth {α β : Type} {t : Task α} {t' : Task β} {s s' : Scope}
    (hd : d < env.callLimit) :
    WellFoundedRelation.rel (measure env (d + 1) t' s') (measure env d t s) :=
  Prod.lex_def.mpr (.inl (Nat.sub_lt_sub_left hd (Nat.lt_succ_self d)))

private theorem rest_bindMacro {s : Scope} {name : String} (hs : 0 < s.length)
    (hr : s.resolve name = none) (args : List Value) :
    rest (s.bindMacro name) (call name args) < rest s (call name args) := by
  rw [rest, rest, Scope.resolve_bindMacro (List.ne_nil_of_length_pos hs) hr, hr]
  exact Nat.zero_lt_one

private theorem sizeOf_base_lt (p : Pipeline) : sizeOf p.base < sizeOf p := by
  cases p
  simp only [Pipeline.mk.sizeOf_spec]
  omega

private theorem sizeOf_filters_lt (p : Pipeline) : sizeOf p.filters < sizeOf p := by
  cases p
  simp only [Pipeline.mk.sizeOf_spec]
  omega

private theorem sizeOf_args_lt (step : FilterCall) : sizeOf step.args < sizeOf step := by
  cases step
  simp only [FilterCall.mk.sizeOf_spec]
  omega

private theorem sizeOf_default_lt {p : Param} {e : Expr} (h : p.default = some e) :
    sizeOf e < sizeOf p := by
  cases p
  cases h
  simp only [Param.mk.sizeOf_spec, Option.some.sizeOf_spec]
  omega

private theorem size_lt_of_names {o : Outcome} {α β : Type} {t : Task α} {t' : Task β}
    (h : o.Names env t t') : t'.size < t.size := by
  cases h with
  | default ps args he =>
    have hdefault := sizeOf_default_lt he
    simp only [size, List.cons.sizeOf_spec]
    omega
  | base p => exact Nat.add_lt_add_left (sizeOf_base_lt p) 2
  | steps p _ _ => exact Nat.add_lt_add_left (sizeOf_filters_lt p) 2
  | stepArguments v step steps f fs =>
    have hstep := sizeOf_args_lt step
    simp only [size, List.cons.sizeOf_spec]
    omega
  | runs valueName keyName iterable body _ =>
    have hpos := sizeOf_base_lt iterable
    simp only [size, Node.loop.sizeOf_spec]
    omega
  | _ =>
    simp only [size, Expr.path.sizeOf_spec, Expr.property.sizeOf_spec, Expr.item.sizeOf_spec,
      Expr.call.sizeOf_spec, Expr.unary.sizeOf_spec, Expr.binary.sizeOf_spec,
      Expr.conditional.sizeOf_spec, Expr.list.sizeOf_spec, Expr.map.sizeOf_spec,
      Node.interpolation.sizeOf_spec, Node.loop.sizeOf_spec, Node.condition.sizeOf_spec,
      Node.assignment.sizeOf_spec, List.cons.sizeOf_spec, Prod.mk.sizeOf_spec,
      Option.some.sizeOf_spec]
    omega

private theorem level_of_names {o : Outcome} {α β : Type} {t : Task α} {t' : Task β}
    (h : o.Names env t t') : t'.level = 0 := by
  cases h <;> rfl

/-! ### Scripts -/

section

variable {m : Nat × Nat × Nat} {n : Nat} {α : Type} {t : Task α} {s : Scope}

private theorem meets_lower {d' : Nat} (h : t.level < s.length ∧ d' ≤ most) (hs : s.length = n)
    (hrel : WellFoundedRelation.rel (measure env d' t s) m) :
    (Script.task d' t).Meets ((steady most).below (measure env) m)
      (Settles (fun s' ↦ s'.length = n) (Outcome.any.Gives t) (Outcome.any.Fails t)) s := by
  refine ⟨⟨h, hrel⟩, fun r s' hlength ↦ ⟨hlength.trans hs, fun x _ ↦ ?_, fun e _ ↦ ?_⟩⟩
  · exact Outcome.gives_any t x
  · exact Outcome.fails_any t e

end

/-- Whether the script of a task names tasks of less measure only and leads to as many frames as
there are. -/
private def Descends (env : Environment) (macros : List (String × MacroDecl)) (most d : Nat)
    {α : Type} (t : Task α) (s : Scope) : Prop :=
  (t.script env macros d).Meets ((steady most).below (measure env) (measure env d t s))
    (Settles (fun s' ↦ s'.length = s.length) (Outcome.any.Gives t) (Outcome.any.Fails t)) s

private theorem descends_plain {α : Type} (t : Task α) (s : Scope) (hs : 0 < s.length)
    (hd : d ≤ most) (hplain : Outcome.IsPlain t) :
    Descends env macros most d t s := by
  have hset (_ : Outcome.SetsVariables t) (s₁ : Scope) (name : String) (v : Value)
      (hs₁ : s₁.length = s.length) (_ : Outcome.any.value v) :
      (s₁.set name v).length = s.length := (Scope.length_set s₁ name v).trans hs₁
  have hbind (_ : Outcome.BindsMacros t) (s₁ : Scope) (name : String)
      (hs₁ : s₁.length = s.length) : (s₁.bindMacro name).length = s.length :=
    (Scope.length_bindMacro s₁ name).trans hs₁
  refine Outcome.walks_script Outcome.isClosed_any t hplain (Outcome.admits_any env t) hset hbind
    ?_ s rfl
  intro β t' hnames s₁ hs₁
  refine meets_lower ?_ hs₁ (rel_of_size (size_lt_of_names hnames))
  rw [level_of_names hnames, hs₁]
  exact ⟨hs, hd⟩

/-! ### Names and frames -/

private theorem descends_valueOf (name : String) (s : Scope) (hs : 0 < s.length) (hd : d ≤ most) :
    Descends env macros most d (.valueOf name) s := by
  have hlength := Scope.length_bindMacro s name
  refine Outcome.settles_valueOf Outcome.isClosed_any rfl ?_ ?_ ?_
  · exact fun _ _ ↦ trivial
  · intro level hr
    have hinvoke : (invoke name [] level).size < (valueOf name).size := Nat.zero_lt_two
    exact meets_lower ⟨Scope.resolve_lt hr, hd⟩ rfl (rel_of_size hinvoke)
  · intro _
    have hcall : (call name []).size < (valueOf name).size := Nat.lt_succ_self 1
    exact meets_lower ⟨hlength ▸ hs, hd⟩ hlength (rel_of_size hcall)

private theorem descends_call (name : String) (args : List Value) (s : Scope) (hs : 0 < s.length)
    (hd : d ≤ most) :
    Descends env macros most d (.call name args) s := by
  have hlength := Scope.length_bindMacro s name
  refine Outcome.settles_call Outcome.isClosed_any rfl ?_ ?_
  · intro level hr
    have hinvoke : (invoke name args level).size < (call name args).size := Nat.zero_lt_one
    exact meets_lower ⟨Scope.resolve_lt hr, hd⟩ rfl (rel_of_size hinvoke)
  · intro hr
    exact meets_lower ⟨hlength ▸ hs, hd⟩ hlength (rel_of_rest rfl (rest_bindMacro hs hr args))

private theorem descends_invoke (name : String) (args : List Value) (level : Nat) (s : Scope)
    (hs : level < s.length) (hmost : env.callLimit ≤ most) :
    Descends env macros most d (.invoke name args level) s := by
  have hlower {α : Type} (t : Task α) (ht : t.level = 0) (hd : d < env.callLimit) :
      (Script.task (d + 1) t).Walks
        ((steady most).below (measure env) (measure env d (.invoke name args level) s))
        (fun s' ↦ s'.length = (s.drop level).length + 1) (Outcome.any.Gives t)
        (Outcome.any.Fails t) := by
    intro s₁ hs₁
    refine meets_lower ⟨?_, Nat.lt_of_lt_of_le hd hmost⟩ hs₁ (rel_of_depth hd)
    rw [ht, hs₁]
    exact Nat.zero_lt_succ _
  refine Outcome.settles_invoke Outcome.isClosed_any
    (L := fun s' ↦ s'.length = (s.drop level).length + 1) rfl rfl ?_ ?_ ?_
  · intro s₁ hs₁
    rw [List.length_append, List.length_tail, hs₁, List.length_take, List.length_drop]
    omega
  · exact fun m _ hd ↦ hlower (.bindAll m.signature.params args) rfl hd
  · exact fun m _ hd ↦ hlower (.renderAll m.body) rfl hd

private theorem descends_outermost (body : List Node) (s : Scope) (hs : 0 < s.length)
    (hd : d ≤ most) :
    Descends env macros most d (.render (.outermost body)) s := by
  have hbody : (renderAll body).size < (render (.outermost body)).size := by
    simp only [size, Node.outermost.sizeOf_spec]
    omega
  refine Outcome.settles_outermost (L := fun s' ↦ s'.length = 1) rfl ?_ ?_ ?_
  · rw [List.length_drop]
    omega
  · intro s₁ hs₁
    rw [List.length_append, List.length_take, hs₁]
    omega
  · intro s₁ hs₁
    exact meets_lower ⟨hs₁ ▸ Nat.zero_lt_one, hd⟩ hs₁ (rel_of_size hbody)

private theorem descends_renderRuns (valueName : String) (keyName : Option String)
    (body : List Node) (i n : Nat) (pair : Value × Value) (pairs : List (Value × Value))
    (s : Scope) (hs : 0 < s.length) (hd : d ≤ most) :
    Descends env macros most d (.renderRuns valueName keyName body i n (pair :: pairs)) s := by
  have hbody : (renderAll body).size <
      (renderRuns valueName keyName body i n (pair :: pairs)).size := by
    simp only [size]
    omega
  refine Outcome.settles_renderRuns Outcome.isClosed_any (L := fun s' ↦ s'.length = s.length + 1)
    rfl ?_ ?_ ?_
  · intro s₁ hs₁
    rw [List.length_tail, hs₁]
    rfl
  · intro s₁ hs₁
    exact meets_lower ⟨hs₁ ▸ Nat.zero_lt_succ _, hd⟩ hs₁ (rel_of_size hbody)
  · intro s₁ hs₁
    exact meets_lower ⟨hs₁ ▸ hs, hd⟩ hs₁ (rel_of_rest rfl (Nat.lt_succ_self pairs.length))

/-! ### Tasks -/

private theorem descends_script {α : Type} (t : Task α) (s : Scope) (hs : t.level < s.length)
    (hmost : env.callLimit ≤ most) (hd : d ≤ most) :
    Descends env macros most d t s := by
  have hpos : 0 < s.length := Nat.lt_of_le_of_lt (Nat.zero_le _) hs
  by_cases hplain : Outcome.IsPlain t
  · exact descends_plain t s hpos hd hplain
  · cases t with
    | valueOf name => exact descends_valueOf name s hpos hd
    | call name args => exact descends_call name args s hpos hd
    | invoke name args level => exact descends_invoke name args level s hs hmost
    | render n =>
      cases n with
      | outermost body => exact descends_outermost body s hpos hd
      | _ => exact absurd trivial hplain
    | renderRuns valueName keyName body i n pairs =>
      cases pairs with
      | nil => exact absurd trivial hplain
      | cons pair pairs => exact descends_renderRuns valueName keyName body i n pair pairs s hpos hd
    | _ => exact absurd trivial hplain

private theorem steady_script {α : Type} (t : Task α) (s : Scope) (hs : t.level < s.length)
    (hmost : env.callLimit ≤ most) (hd : d ≤ most) :
    (t.script env macros d).Meets ((steady most).below (measure env) (measure env d t s))
      (fun _ s' ↦ s'.length = s.length) s := by
  apply (descends_script t s hs hmost hd).mono
  intro r s' h
  exact h.1

/-- The scripts of tasks keep the frames as many as they are, and go no deeper than to the limit. -/
theorem steady_keptBy (hmost : env.callLimit ≤ most) :
    (steady most).KeptBy (code env macros) := by
  intro α d t s h
  have hscript : (t.script env macros d).Meets
      ((steady most).below (measure env) (measure env d t s)) (fun _ s' ↦ s'.length = s.length) s :=
    steady_script t s h.1 hmost h.2
  apply hscript.of_contract
  · intro β d' t' s₁ h'
    exact h'.1
  · intro β d' t' s₁ r s' h'
    exact h'

/-! ### Runs -/

/-- A task that is about a frame of the scope has a run. -/
theorem exists_runs (env : Environment) (macros : List (String × MacroDecl)) (d : Nat) {α : Type}
    (t : Task α) (s : Scope) (hs : t.level < s.length) :
    ∃ r s' visits, (Script.task d t).Runs (code env macros) s r s' visits := by
  have hscript {α : Type} (d' : Nat) (t : Task α) (s : Scope)
      (h : (steady (max env.callLimit d)).pre d' t s) :
      ((code env macros).script d' t).Meets
        ((steady (max env.callLimit d)).below (measure env) (measure env d' t s))
        ((steady (max env.callLimit d)).post d' t s) s :=
    steady_script t s h.1 (Nat.le_max_left _ _) h.2
  obtain ⟨r, s', visits, hrun, -⟩ :=
    Contract.exists_runs (measure env) hscript d t s ⟨hs, Nat.le_max_right _ _⟩
  exact ⟨r, s', visits, hrun⟩

private theorem steady_task (env : Environment) {α : Type} (t : Task α) {s : Scope}
    (hs : t.level < s.length) :
    (Script.task d t).Meets (steady (max env.callLimit d))
      ((steady (max env.callLimit d)).post d t s) s :=
  ⟨⟨hs, Nat.le_max_right _ _⟩, fun _ _ h ↦ h⟩

/-- A run of a task does what the task does. -/
theorem run_act {α : Type} (t : Task α) {s s' : Scope} {r : Except Error α}
    {visits : List (Visit Task)} (hs : t.level < s.length)
    (hrun : (Script.task d t).Runs (code env macros) s r s' visits) :
    (t.act (setting env macros d)).run.run s = (r, s') := by
  have hact {α : Type} (d' : Nat) (t : Task α) (s : Scope)
      (h : (steady (max env.callLimit d)).pre d' t s) :
      (((code env macros).script d' t).act (handler env macros)).run.run s =
        ((handler env macros).act d' t).run.run s := by
    apply act_script
    apply List.ne_nil_of_length_pos
    exact Nat.lt_of_le_of_lt (Nat.zero_le _) h.1
  exact hrun.run_act (h := handler env macros) (steady_keptBy (Nat.le_max_left _ _)) hact
    (steady_task env t hs)

/-- No task of a run is begun at a depth above the limit, except for one that starts there. -/
theorem depth_le {α : Type} (t : Task α) {s s' : Scope} {r : Except Error α}
    {visits : List (Visit Task)} (hs : t.level < s.length)
    (hrun : (Script.task d t).Runs (code env macros) s r s' visits) :
    ∀ v ∈ visits, v.depth ≤ max env.callLimit d := by
  have h := hrun.of_meets (steady_keptBy (Nat.le_max_left _ _)) (steady_task env t hs)
  intro v hv
  exact (h.2 v hv).2

/-- A task keeps every contract that its script keeps. -/
theorem post_act {C : Contract Task} (hC : C.KeptBy (code env macros)) {α : Type} (t : Task α)
    {s : Scope} (hs : t.level < s.length) (hpre : C.pre d t s) :
    C.post d t s ((t.act (setting env macros d)).run.run s).1
      ((t.act (setting env macros d)).run.run s).2 := by
  obtain ⟨r, s', visits, hrun⟩ := exists_runs env macros d t s hs
  rw [run_act t hs hrun]
  exact (hrun.of_meets hC ⟨hpre, fun _ _ h ↦ h⟩).1

end Task

/-! ### Renderings -/

/-- The scope that a context makes up. -/
def Scope.ofDatum (context : Datum) : Except Error Scope := do
  Scope.ofContext (← Value.ofDatum context)

/-- The runs of a rendering: its result and the tasks that are begun. A context that makes up no
scope is the result. -/
inductive Template.Renders (t : Template) (env : Environment) (context : Datum) :
    Except Error String → List (Visit Task) → Prop where
  /-- The context makes up no scope. -/
  | failed {e : Error} (hstart : Scope.ofDatum context = .error e) :
      t.Renders env context (.error e) []
  /-- The nodes are rendered in the scope of the context. -/
  | run {s s' : Scope} {r : Except Error (List Char)} {visits : List (Visit Task)}
      (hstart : Scope.ofDatum context = .ok s)
      (hrun : (Script.task 0 (.renderAll t.nodes)).Runs (Task.code env t.macroTable) s r s'
        visits) :
      t.Renders env context (r.map String.ofList) visits

/-- A context makes up a scope with a single frame, in which no macro is bound. -/
theorem Scope.eq_of_ofDatum {context : Datum} {s : Scope} (h : Scope.ofDatum context = .ok s) :
    ∃ vars, s = [⟨vars, []⟩] := by
  obtain ⟨v, -, h⟩ := exists_of_bind_eq_ok h
  cases v <;> cases h <;> exact ⟨_, rfl⟩

/-- A context makes up a scope with a frame. -/
theorem Scope.length_pos_of_ofDatum {context : Datum} {s : Scope}
    (h : Scope.ofDatum context = .ok s) : 0 < s.length := by
  obtain ⟨vars, rfl⟩ := Scope.eq_of_ofDatum h
  exact Nat.zero_lt_one

/-- A context that makes up no scope is not rendered with. -/
theorem Template.render_of_error (t : Template) (env : Environment) {context : Datum} {e : Error}
    (h : Scope.ofDatum context = .error e) : t.render env context = .error e := by
  rw [Scope.ofDatum] at h
  rw [Template.render, Action.runIn, ← bind_assoc, h]
  rfl

/-- Rendering renders the nodes in the scope of the context. -/
theorem Template.render_of_ok (t : Template) (env : Environment) {context : Datum} {s : Scope}
    (h : Scope.ofDatum context = .ok s) :
    t.render env context =
      (((Task.renderAll t.nodes).act (Task.setting env t.macroTable 0)).run.run s).1.map
        String.ofList := by
  rw [Scope.ofDatum] at h
  rw [Template.render, Action.runIn, ← bind_assoc, h, Task.setting_zero]
  simp only [Action.run_map]
  rfl

/-- Every rendering has a run. Each of its runs gives the result of the rendering, and begins no
task at a depth above the limit. -/
theorem Template.renders_render (t : Template) (env : Environment) (context : Datum) :
    (∃ visits, t.Renders env context (t.render env context) visits) ∧
      ∀ r visits, t.Renders env context r visits →
        r = t.render env context ∧ ∀ v ∈ visits, v.depth ≤ env.callLimit := by
  constructor
  · cases hstart : Scope.ofDatum context with
    | error e =>
      rw [t.render_of_error env hstart]
      exact ⟨[], .failed hstart⟩
    | ok s =>
      have hs := Scope.length_pos_of_ofDatum hstart
      obtain ⟨r, s', visits, hrun⟩ :=
        Task.exists_runs env t.macroTable 0 (.renderAll t.nodes) s hs
      rw [t.render_of_ok env hstart, Task.run_act (.renderAll t.nodes) hs hrun]
      exact ⟨visits, .run hstart hrun⟩
  · intro r visits h
    cases h with
    | failed hstart => exact ⟨(t.render_of_error env hstart).symm, by simp⟩
    | run hstart hrun =>
      have hs := Scope.length_pos_of_ofDatum hstart
      rw [t.render_of_ok env hstart, Task.run_act (.renderAll t.nodes) hs hrun]
      refine ⟨rfl, fun v hv ↦ ?_⟩
      have hv := Task.depth_le (.renderAll t.nodes) hs hrun v hv
      rwa [Nat.max_eq_left (Nat.zero_le _)] at hv

end Stencil
