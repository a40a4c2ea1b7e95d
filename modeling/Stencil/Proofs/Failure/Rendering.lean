import Stencil.Proofs.Failure.Reading
import Stencil.Proofs.Termination

/-!
# Failures of renderings

That a called name is unknown is a failure inside of expressions only. It is made up for at every
way out of them: where a pipeline is evaluated and where a default is. All else that a rendering
with the built-in filters can fail of is a missing filter, an operation on unfit values, or one
nesting of calls too many.
-/

namespace Stencil

open ErrorKind (ofSources ofOperations ofRenderings ofOperations_subset)

/-- Any values and texts, and the failures that renderings have. -/
def Outcome.classified : Outcome := ⟨fun _ ↦ True, fun _ ↦ True, fun e ↦ e.kind ∈ ofRenderings⟩

private theorem Outcome.allows_classified {r : Except Error Value} (h : FailsIn ofOperations r) :
    classified.Allows r :=
  ⟨fun _ _ ↦ trivial, h.mono ofOperations_subset⟩

private theorem Outcome.isClosed_classified : classified.IsClosed where
  undefined := trivial
  empty := trivial
  path _ _ := trivial
  property name _ := allows_classified (Value.failsIn_property _ name)
  item _ := allows_classified (Value.failsIn_item _ _)
  method name _ _ := allows_classified (Value.failsIn_callMethod _ name _)
  unary _ := allows_classified (Value.failsIn_unary _ _)
  binary _ _ := allows_classified (Value.failsIn_binary _ _ _)
  seq _ := trivial
  map _ := trivial
  nil := trivial
  append _ _ := trivial
  safe _ := trivial
  unknownFilter _ := List.mem_cons_self
  invalidOperation he := by
    change _ ∈ ofRenderings
    rw [he]
    decide

namespace Task

/-! ### Failures of tasks -/

/-- Whether the filters that a task runs fail on unfit values only. -/
@[simp] def RunsFit : {α : Type} → Task α → Prop
  | _, .runFilters _ _ fs => ∀ f ∈ fs, f.FailsOnUnfit
  | _, _ => True

/-- Tasks fail in the ways of renderings. Inside of expressions a called name may be unknown. -/
def classified : Contract Task where
  pre _ t _ := t.RunsFit
  post _ t _ r _ := ∀ e, r = .error e → Outcome.classified.Fails t e

variable {env : Environment} {macros : List (String × MacroDecl)} {d : Nat}

private theorem failsOnUnfit_filter (henv : env.OnlyBuiltins) {name : String} {f : Filter}
    (h : filter env name = .ok f) : f.FailsOnUnfit := by
  obtain ⟨around, hmem⟩ := henv.exists_mem (filter?_of_filter h)
  exact Filter.failsOnUnfit_builtins around _ hmem

private theorem allowsFilter {f : Filter} (hf : f.FailsOnUnfit) :
    Outcome.classified.AllowsFilter f :=
  fun _ _ _ ↦ Outcome.allows_classified (hf _ _)

private theorem admits_classified (henv : env.OnlyBuiltins) {α : Type} (t : Task α)
    (ht : t.RunsFit) : Outcome.classified.Admits env t := by
  cases t with
  | eval e => cases e <;> trivial
  | evalEntries table es => exact fun _ _ ↦ trivial
  | bindAll params args => exact fun _ _ ↦ trivial
  | runFilters v steps fs => exact ⟨trivial, fun f hf ↦ allowsFilter (ht f hf)⟩
  | runNodeFilters v names =>
    exact ⟨trivial, fun _ _ _ hf ↦ allowsFilter (failsOnUnfit_filter henv hf)⟩
  | render n =>
    cases n with
    | interpolation p names => exact fun _ _ ↦ trivial
    | _ => trivial
  | _ => trivial

private theorem runsFit_of_names (henv : env.OnlyBuiltins) {o : Outcome} {α β : Type} {t : Task α}
    {t' : Task β} (h : o.Names env t t') (ht : t.RunsFit) : t'.RunsFit := by
  cases h with
  | steps p _ hfs => exact forall_mem_filters (fun _ _ _ ↦ failsOnUnfit_filter henv) hfs
  | moreSteps v step steps f fs _ => exact (List.forall_mem_cons.mp ht).2
  | _ => trivial

/-! ### Scripts -/

private theorem meets_classified {α : Type} (t : Task α) (ht : t.RunsFit) (s : Scope) :
    (Script.task d t).Meets classified
      (Settles (fun _ ↦ True) (Outcome.classified.Gives t) (Outcome.classified.Fails t)) s := by
  refine ⟨ht, fun r s' h ↦ ⟨trivial, fun x _ ↦ ?_, h⟩⟩
  exact Outcome.gives_any t x

private theorem classified_script (henv : env.OnlyBuiltins) {α : Type} (t : Task α) (s : Scope)
    (ht : t.RunsFit) :
    (t.script env macros d).Meets classified
      (Settles (fun _ ↦ True) (Outcome.classified.Gives t) (Outcome.classified.Fails t)) s := by
  have hclosed := Outcome.isClosed_classified
  by_cases hplain : Outcome.IsPlain t
  · refine Outcome.walks_script hclosed t hplain (admits_classified henv t ht)
      (fun _ _ _ _ _ _ ↦ trivial) (fun _ _ _ _ ↦ trivial) ?_ s trivial
    intro β t' hnames s₁ _
    exact meets_classified t' (runsFit_of_names henv hnames ht) s₁
  · cases t with
    | valueOf name =>
      refine Outcome.settles_valueOf hclosed trivial (fun _ _ ↦ trivial) ?_ ?_
      · exact fun level _ ↦ meets_classified (.invoke name [] level) trivial s
      · exact fun _ ↦ meets_classified (.call name []) trivial (s.bindMacro name)
    | call name args =>
      refine Outcome.settles_call hclosed trivial ?_ ?_
      · exact fun level _ ↦ meets_classified (.invoke name args level) trivial s
      · exact fun _ ↦ meets_classified (.call name args) trivial (s.bindMacro name)
    | invoke name args level =>
      refine Outcome.settles_invoke hclosed (L := fun _ ↦ True) trivial trivial
        (fun _ _ ↦ trivial) ?_ ?_
      · exact fun m _ _ s₁ _ ↦ meets_classified (.bindAll m.signature.params args) trivial s₁
      · exact fun m _ _ s₁ _ ↦ meets_classified (.renderAll m.body) trivial s₁
    | render n =>
      cases n with
      | outermost body =>
        exact Outcome.settles_outermost (L := fun _ ↦ True) trivial trivial (fun _ _ ↦ trivial)
          fun s₁ _ ↦ meets_classified (.renderAll body) trivial s₁
      | _ => exact absurd trivial hplain
    | renderRuns valueName keyName body i n pairs =>
      cases pairs with
      | nil => exact absurd trivial hplain
      | cons pair pairs =>
        refine Outcome.settles_renderRuns hclosed (L := fun _ ↦ True) trivial (fun _ _ ↦ trivial)
          ?_ ?_
        · exact fun s₁ _ ↦ meets_classified (.renderAll body) trivial s₁
        · intro s₁ _
          exact meets_classified (.renderRuns valueName keyName body (i + 1) n pairs)
            (by trivial) s₁
    | _ => exact absurd trivial hplain

/-- The scripts of tasks fail in the ways of renderings, where the built-in filters are the only
ones. -/
theorem classified_keptBy (henv : env.OnlyBuiltins) : classified.KeptBy (code env macros) := by
  intro α d t s ht
  exact (classified_script henv t s ht).mono fun r s' h ↦ h.2.2

end Task

/-! ### Renderings -/

/-- A context makes up no scope if it cannot be converted, or is no map. -/
theorem Scope.kind_of_ofDatum {context : Datum} {e : Error} (h : Scope.ofDatum context = .error e) :
    e.kind = .invalidOperation ∨ e.kind = .badSerialization ∧ Value.ofDatum context = .error e := by
  rw [Scope.ofDatum] at h
  cases hv : Value.ofDatum context with
  | error e' =>
    rw [hv] at h
    cases h
    exact .inr ⟨List.mem_singleton.mp (Value.failsIn_ofDatum context e hv), rfl⟩
  | ok v =>
    rw [hv] at h
    change Scope.ofContext v = .error e at h
    unfold Scope.ofContext at h
    split at h <;> cases h
    exact .inl rfl

/-- A rendering with the built-in filters fails because of a missing filter or unfit values and
arguments, or because the context cannot be converted. -/
theorem Template.kind_of_render {t : Template} {env : Environment} (henv : env.OnlyBuiltins)
    {context : Datum} {e : Error} (he : t.render env context = .error e) :
    e.kind = .unknownFilter ∨ e.kind = .invalidOperation ∨ e.kind = .invalidArguments ∨
      e.kind = .badSerialization ∧ Value.ofDatum context = .error e := by
  cases hstart : Scope.ofDatum context with
  | error e' =>
    rw [t.render_of_error env hstart] at he
    cases he
    exact .inr ((Scope.kind_of_ofDatum hstart).imp_right .inr)
  | ok s =>
    have hs := Scope.length_pos_of_ofDatum hstart
    have hC : Task.classified.KeptBy (Task.code env t.macroTable) := Task.classified_keptBy henv
    have hpost : FailsIn ofRenderings
        (((Task.renderAll t.nodes).act (Task.setting env t.macroTable 0)).run.run s).1 :=
      Task.post_act hC (d := 0) (.renderAll t.nodes) hs trivial
    rw [t.render_of_ok env hstart] at he
    have hmem := hpost.map String.ofList e he
    simp only [ofRenderings, List.mem_cons, List.not_mem_nil, or_false] at hmem
    exact hmem.imp_right (Or.imp_right .inl)

/-- Source texts fail to be read because they break their grammar or hold an escape without a
meaning. A template fails to be rendered with the built-in filters because of a missing filter or
unfit values and arguments, or because the context cannot be converted; that a called name is
unknown is made up for wherever it is called. -/
theorem failures_classified :
    (∀ source e, Pipeline.read source = .error e → e.kind = .syntaxError ∨ e.kind = .badEscape) ∧
    (∀ source defaultName e, AttributeList.read source defaultName = .error e →
      e.kind = .syntaxError ∨ e.kind = .badEscape) ∧
    (∀ source e, Signature.read source = .error e → e.kind = .syntaxError ∨ e.kind = .badEscape) ∧
    ∀ (t : Template) (env : Environment), env.OnlyBuiltins → ∀ context e,
      t.render env context = .error e →
        e.isUndefinedVariable = false ∧
          (e.kind = .unknownFilter ∨ e.kind = .invalidOperation ∨ e.kind = .invalidArguments ∨
            e.kind = .badSerialization ∧ Value.ofDatum context = .error e) := by
  have hsources {e : Error} (h : e.kind ∈ ofSources) :
      e.kind = .syntaxError ∨ e.kind = .badEscape := by
    simpa [ofSources] using h
  refine ⟨fun source e h ↦ hsources (Pipeline.failsIn_read source e h),
    fun source defaultName e h ↦ hsources (AttributeList.failsIn_read source defaultName e h),
    fun source e h ↦ hsources (Signature.failsIn_read source e h), ?_⟩
  intro t env henv context e he
  have hkind := Template.kind_of_render henv he
  refine ⟨?_, hkind⟩
  rw [Error.isUndefinedVariable]
  rcases hkind with h | h | h | ⟨h, -⟩ <;> rw [h] <;> rfl

/-- Texts that are not read, and a template whose unknown calls are made up for until a filter is
missing. -/
theorem failures_classified_missing :
    let p : Pipeline := ⟨"nope()", .call (.path "nope" []) [], [], false⟩
    let q : Pipeline := ⟨"1 | missing", .const (.int 1), [⟨"missing", []⟩], false⟩
    let t : Template := ⟨[.interpolation p [], .assignment "x" p, .interpolation q []], []⟩
    Environment.new.OnlyBuiltins ∧
      (∃ e, Pipeline.read "" = .error e ∧ (e.kind = .syntaxError ∨ e.kind = .badEscape)) ∧
      (∃ e, AttributeList.read "a=" "d" = .error e ∧
        (e.kind = .syntaxError ∨ e.kind = .badEscape)) ∧
      (∃ e, Signature.read "m(" = .error e ∧ (e.kind = .syntaxError ∨ e.kind = .badEscape)) ∧
      t.render .new (.map []) = .error (.unknownFilter "missing") ∧
      (Error.unknownFilter "missing").isUndefinedVariable = false := by
  intro p q t
  obtain ⟨hpipeline, hlist, hsignature, hrender⟩ := failures_classified
  have henv := Environment.onlyBuiltins_new
  have hfails : t.render .new (.map []) = .error (.unknownFilter "missing") := by rfl
  refine ⟨henv, ?_, ?_, ?_, hfails, (hrender t .new henv _ _ hfails).1⟩
  · cases h : Pipeline.read "" with
    | error e => exact ⟨e, rfl, hpipeline _ _ h⟩
    | ok p => cases h
  · cases h : AttributeList.read "a=" "d" with
    | error e => exact ⟨e, rfl, hlist _ _ _ h⟩
    | ok a => cases h
  · cases h : Signature.read "m(" with
    | error e => exact ⟨e, rfl, hsignature _ _ h⟩
    | ok sig => cases h

end Stencil
