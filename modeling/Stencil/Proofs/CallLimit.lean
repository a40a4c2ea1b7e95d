import Stencil.Proofs.Termination

/-!
# The limit of calls

How many calls of macros may be nested decides only whether a rendering is cut short. Two runs that
differ in the limit take the same steps up to the call that only one of them may begin, and the
failure of that call is not made up for on the way out. Filters could see the limit, but the
built-in ones do not look at it.
-/

namespace Stencil

/-! ### Runs that are cut short -/

/-- Whether a result is the failure that too many calls of macros are nested. -/
def IsCutShort {α : Type} (r : Except Error α) : Prop :=
  ∃ name, r = .error (callLimitExceeded name)

/-- That too many calls are nested is not made up for. -/
theorem IsCutShort.recovered {α : Type} {r : Except Error α} (h : IsCutShort r) (x : α) :
    IsCutShort (Action.recovered r x) := by
  obtain ⟨name, rfl⟩ := h
  exact ⟨name, rfl⟩

section

variable {Task : Type → Type}

/-- Tasks do what given actions do, unless they are cut short. -/
def Handler.followed (h : Handler Task) : Contract Task where
  pre _ _ _ := True
  post d t s r s' := (h.act d t).run.run s = (r, s') ∨ IsCutShort r

/-- A script whose tasks do what given actions do, unless they are cut short, does itself what it
does with these actions, unless it is cut short. -/
theorem Script.meets_followed (h : Handler Task) {α : Type} (a : Script Task α) (s : Scope) :
    a.Meets h.followed (fun r s' ↦ (a.act h).run.run s = (r, s') ∨ IsCutShort r) s := by
  induction a generalizing s with
  | look f => exact .inl (run_act_look f s)
  | bind first next ihfirst ihnext =>
    apply meets_bind.mpr
    apply (ihfirst s).mono
    rintro (e | x) s₁ hfirst
    · rcases hfirst with hfirst | ⟨name, hname⟩
      · left
        rw [act, Action.run_bind_error hfirst]
      · cases hname
        exact .inr ⟨name, rfl⟩
    · have hx : (first.act h).run.run s = (.ok x, s₁) := by
        rcases hfirst with hfirst | ⟨name, hname⟩
        · exact hfirst
        · cases hname
      apply (ihnext x s₁).mono
      intro r s₂ hnext
      rw [act, Action.run_bind_ok hx]
      exact hnext
  | set name v => exact .inl rfl
  | bindMacro name => exact .inl rfl
  | inFrame f body ih =>
    apply (ih (f :: s)).mono
    intro r s₁ hbody
    rw [act, Action.run_inFrame]
    exact hbody.imp_left fun hbody ↦ by rw [hbody]
  | outside n body ih =>
    apply (ih (s.drop n)).mono
    intro r s₁ hbody
    rw [act, Action.run_outside]
    exact hbody.imp_left fun hbody ↦ by rw [hbody]
  | orIfUnknown body x ih =>
    apply (ih s).mono
    intro r s₁ hbody
    rw [act, Action.run_orIfUnknown]
    exact hbody.imp (fun hbody ↦ by rw [hbody]) fun hcut ↦ hcut.recovered x
  | task d t => exact ⟨trivial, fun r s' hr ↦ hr⟩

end

namespace Task

variable {env : Environment} {macros : List (String × MacroDecl)} {d : Nat}

/-! ### Filters that do not look -/

private theorem isBlind_filter (henv : env.OnlyBuiltins) {name : String} {f : Filter}
    (h : filter env name = .ok f) : f.IsBlind := by
  obtain ⟨around, hmem⟩ := henv.exists_mem (filter?_of_filter h)
  exact Filter.isBlind_builtins around _ hmem

/-- Whether the filters that a task runs make nothing of what they can see of the rendering. -/
@[simp] def IsBlind : {α : Type} → Task α → Prop
  | _, .runFilters _ _ fs => ∀ f ∈ fs, f.IsBlind
  | _, _ => True

/-- Tasks ask for filters that make nothing of what they can see of the rendering. -/
def blind : Contract Task where
  pre _ t _ := t.IsBlind
  post _ _ _ _ _ := True

@[simp] private theorem blind_pre {α : Type} {t : Task α} {s : Scope} :
    blind.pre d t s ↔ t.IsBlind := Iff.rfl

private theorem blind_evalScript (e : Expr) (s : Scope) :
    (evalScript d e).Meets blind (fun _ _ ↦ True) s := by
  cases e with
  | call callee args =>
    cases callee with
    | path root names =>
      simp [evalScript]
      cases names.getLast? <;> simp
    | _ => simp [evalScript]
  | binary op left right => cases op <;> simp [evalScript]
  | _ => simp [evalScript]

private theorem blind_renderScript (n : Node) (s : Scope) :
    (renderScript env macros d n).Meets blind (fun _ _ ↦ True) s := by
  cases n with
  | interpolation p fs =>
    rw [renderScript]
    cases p.calledName? <;> simp [bindScript]
  | condition test body others otherwise =>
    rw [renderScript.eq_def]
    simp only [Script.meets_bind, Script.meets_task, Script.meets_ite, forall_onResult]
    refine ⟨trivial, fun v s₁ hv ↦ ?_, fun e s₁ he ↦ trivial⟩
    split
    · simp
    · refine ⟨trivial, fun o s₂ ho ↦ ?_, fun e s₂ he ↦ trivial⟩
      cases o with
      | some out => simp
      | none => cases otherwise <;> simp
  | _ => simp [renderScript]

private theorem blind_script (henv : env.OnlyBuiltins) {α : Type} (t : Task α) (s : Scope)
    (h : t.IsBlind) : (t.script env macros d).Meets blind (fun _ _ ↦ True) s := by
  cases t with
  | eval e => exact blind_evalScript e s
  | evalAll es => cases es <;> simp [script]
  | evalEntries table es => cases es <;> simp [script]
  | valueOf name =>
    simp only [script, Script.meets_bind, Script.meets_look, onResult_ok]
    rcases s.resolve name with _ | v | level <;> simp [bindScript]
  | call name args =>
    simp only [script, Script.meets_bind, Script.meets_look, onResult_ok]
    rcases s.resolve name with _ | v | level <;> simp [bindScript]
  | invoke name args level =>
    rw [script]
    cases Entries.get? name macros <;> simp
  | bindAll params args =>
    cases params with
    | nil => simp [script]
    | cons p ps =>
      obtain ⟨name, default⟩ := p
      cases args <;> cases default <;> simp [script]
  | evalPipeline p =>
    simp only [script, pipelineScript, Script.meets_orIfUnknown, Script.meets_bind,
      Script.meets_ofExcept, Script.meets_task, onResult_iff]
    refine ⟨fun fs hfs ↦ ⟨trivial, fun r s₁ hr ↦ ⟨fun v hv ↦ ⟨?_, ?_⟩, ?_⟩⟩, ?_⟩
    · exact forall_mem_filters (fun _ _ _ ↦ isBlind_filter henv) hfs
    all_goals simp
  | runFilters v steps fs =>
    cases steps with
    | nil => simp [script]
    | cons step steps =>
      cases fs with
      | nil => simp [script]
      | cons f fs =>
        have hfs : ∀ f ∈ fs, f.IsBlind := (List.forall_mem_cons.mp h).2
        refine ⟨trivial, ?_⟩
        rintro (e | vs) s₁ -
        · exact trivial
        · apply Script.meets_bind.mpr
          apply Script.meets_look.mpr
          cases f ((setting env macros d).view s₁) (v :: vs) with
          | error e => exact trivial
          | ok w => exact ⟨hfs, fun _ _ _ ↦ trivial⟩
  | runNodeFilters v names =>
    cases names with
    | nil => simp [script]
    | cons name names =>
      rw [script]
      cases filter env name <;> simp [onResult_iff]
  | render n => exact blind_renderScript n s
  | renderAll ns => cases ns <;> simp [script]
  | renderFirst branches => cases branches <;> simp [script]
  | renderRuns valueName keyName body i n pairs => cases pairs <;> simp [script, onResult_iff]

/-! ### Scripts under another limit -/

private theorem filter_callLimit (env : Environment) (more : Nat) (name : String) :
    filter { env with callLimit := more } name = filter env name := rfl

private theorem filters_callLimit (env : Environment) (more : Nat) (steps : List FilterCall) :
    filters { env with callLimit := more } steps = filters env steps := by
  induction steps with
  | nil => rfl
  | cons step steps ih => rw [filters, filters, ih, filter_callLimit]

/-- Under a higher limit a task has the same script, unless it is the call that is one too many. -/
theorem script_callLimit (henv : env.OnlyBuiltins) {more : Nat} (hmore : env.callLimit ≤ more)
    {α : Type} (t : Task α) (ht : t.IsBlind) :
    t.script { env with callLimit := more } macros d = t.script env macros d ∨
      ∃ name, t.script env macros d = .ofExcept (.error (callLimitExceeded name)) := by
  cases t with
  | invoke name args level =>
    rw [script, script]
    cases Entries.get? name macros with
    | none => exact .inl rfl
    | some m =>
      by_cases hd : env.callLimit ≤ d
      · right
        exact ⟨name, if_pos hd⟩
      · left
        have hd' : ¬more ≤ d := by omega
        simp only [hd, hd', if_false]
  | runFilters v steps fs =>
    left
    cases steps with
    | nil => rfl
    | cons step steps =>
      cases fs with
      | nil => rfl
      | cons f fs =>
        have hf : f.IsBlind := ht f List.mem_cons_self
        simp only [script, look_view hf _ (setting env macros d)]
  | runNodeFilters v names =>
    left
    cases names with
    | nil => rfl
    | cons name names =>
      rw [script, script, filter_callLimit]
      cases hf : filter env name with
      | error e => rfl
      | ok f => simp only [look_view (isBlind_filter henv hf) _ (setting env macros d)]
  | evalPipeline p =>
    left
    rw [script, script, pipelineScript, pipelineScript, filters_callLimit]
  | evalAll es => cases es <;> exact .inl rfl
  | evalEntries table es => cases es <;> exact .inl rfl
  | bindAll params args => cases params <;> exact .inl rfl
  | renderAll ns => cases ns <;> exact .inl rfl
  | renderFirst branches => cases branches <;> exact .inl rfl
  | renderRuns valueName keyName body i n pairs => cases pairs <;> exact .inl rfl
  | _ => exact .inl rfl

/-- Tasks under one limit do what they do under a higher one, unless they are cut short. -/
def guarded (env : Environment) (macros : List (String × MacroDecl)) (most more : Nat) :
    Contract Task :=
  (steady most).and (blind.and (handler { env with callLimit := more } macros).followed)

/-- The scripts of tasks do what the tasks do under a higher limit, unless they are cut short. -/
theorem guarded_keptBy (henv : env.OnlyBuiltins) {most more : Nat} (hmost : env.callLimit ≤ most)
    (hmore : env.callLimit ≤ more) : (guarded env macros most more).KeptBy (code env macros) := by
  rintro α d t s ⟨hsteady, hblind, -⟩
  let h := handler { env with callLimit := more } macros
  have hs : s ≠ [] :=
    List.ne_nil_of_length_pos (Nat.lt_of_le_of_lt (Nat.zero_le _) hsteady.1)
  have hlength : (t.script env macros d).Meets (steady most) ((steady most).post d t s) s :=
    steady_keptBy hmost d t s hsteady
  have hfollowed := Script.meets_followed h (t.script env macros d) s
  apply (hlength.and ((blind_script henv t s hblind).and hfollowed)).mono
  rintro r s' ⟨hlength, -, hr⟩
  refine ⟨hlength, trivial, ?_⟩
  rcases hr with hr | hcut
  · have hscript : t.script { env with callLimit := more } macros d = t.script env macros d ∨
        ∃ name, t.script env macros d = .ofExcept (.error (callLimitExceeded name)) :=
      script_callLimit henv hmore t hblind
    rcases hscript with hsame | ⟨name, hname⟩
    · left
      rw [← hsame, act_script _ _ _ t s hs] at hr
      exact hr
    · right
      rw [hname] at hr
      cases hr
      exact ⟨name, rfl⟩
  · exact .inr hcut

end Task

/-! ### Renderings -/

/-- With the built-in filters only, a rendering gives what it gives under any higher limit, or fails
because too many calls are nested. -/
theorem Template.render_callLimit (t : Template) (env : Environment) (henv : env.OnlyBuiltins)
    {more : Nat} (hmore : env.callLimit ≤ more) (context : Datum) :
    t.render env context = t.render { env with callLimit := more } context ∨
      ∃ name, t.render env context = .error (callLimitExceeded name) := by
  let env' : Environment := { env with callLimit := more }
  cases hstart : Scope.ofDatum context with
  | error e =>
    left
    rw [t.render_of_error env hstart, t.render_of_error env' hstart]
  | ok s =>
    have hs := Scope.length_pos_of_ofDatum hstart
    rw [t.render_of_ok env hstart, t.render_of_ok env' hstart]
    have hC : (Task.guarded env t.macroTable env.callLimit more).KeptBy
        (Task.code env t.macroTable) :=
      Task.guarded_keptBy henv (Nat.le_refl _) hmore
    have hpost := Task.post_act hC (d := 0) (.renderAll t.nodes) hs
      ⟨⟨hs, Nat.zero_le _⟩, trivial, trivial⟩
    rcases hpost.2.2 with hsame | ⟨name, hcut⟩
    · left
      rw [Task.handler_act] at hsame
      rw [hsame]
    · right
      rw [hcut]
      exact ⟨name, rfl⟩

/-- A macro that calls itself, under the limits zero and one. -/
theorem Template.render_callLimit_self :
    let t : Template := ⟨[.interpolation ⟨"m()", .call (.path "m" []) [], [], false⟩ []],
      [⟨⟨"m", []⟩, [.interpolation ⟨"m()", .call (.path "m" []) [], [], false⟩ []]⟩]⟩
    let env : Environment := { Environment.new with callLimit := 0 }
    env.OnlyBuiltins ∧ env.callLimit ≤ 1 ∧
      (t.render env (.map []) = t.render { env with callLimit := 1 } (.map []) ∨
        ∃ name, t.render env (.map []) = .error (callLimitExceeded name)) := by
  intro t env
  have henv : env.OnlyBuiltins := Environment.onlyBuiltins_new
  exact ⟨henv, Nat.zero_le 1, t.render_callLimit env henv (Nat.zero_le 1) (.map [])⟩

end Stencil
