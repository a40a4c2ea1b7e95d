import Stencil.Proofs.LastStep
import Stencil.Proofs.Termination

/-!
# Escaping explicitly

Where everything that is written is escaped, a filter at the end that escapes explicitly changes
nothing, unless the value in front of it is missing: a missing value is written as an empty text,
and escaping it makes a text of the word that stands for it. Only two of the built-in filters give
missing values.
-/

namespace Stencil

/-! ### Filters that give missing values -/

namespace Filter

/-- The built-in filters that may give a missing value. -/
def lossyNames : List String := ["first", "last"]

/-- Whether a filter gives no missing value. -/
def IsLossless (f : Filter) : Prop := ∀ view vs v, f view vs = .ok v → v.isMissing = false

private theorem isLossless_of {kind : ArgKind} {kinds : List ArgKind}
    {f : FilterView → kind.Carrier → Arguments kinds → Except Error Value}
    (h : ∀ view x args vs v, Arguments.ofValues kinds vs = .ok args → f view x args = .ok v →
      v.isMissing = false) :
    IsLossless (.of kind kinds f) := by
  intro view vs v hv
  unfold Filter.of at hv
  split at hv
  · cases hv
  · split at hv
    · cases hv
    · next args hargs => exact h _ _ _ _ _ hargs hv

private theorem isLossless_ofMap {kind : ArgKind} {f : kind.Carrier → Except Error Value}
    (h : ∀ x v, f x = .ok v → v.isMissing = false) : IsLossless (.ofMap kind f) :=
  isLossless_of fun _ x _ _ v _ ↦ h x v

private theorem isLossless_map {kind : ArgKind} {f : kind.Carrier → Value}
    (h : ∀ x, (f x).isMissing = false) : IsLossless (.ofMap kind fun x ↦ .ok (f x)) :=
  isLossless_ofMap fun x _ hv ↦ by
    cases hv
    exact h x

private theorem isMissing_ofNat (n : Nat) : (Value.ofNat n).isMissing = false := by
  rw [Value.ofNat]
  split <;> rfl

private theorem isMissing_absolute {v w : Value} (hw : absolute v = .ok w) :
    w.isMissing = false := by
  unfold absolute at hw
  split at hw
  · split at hw <;> cases hw <;> rfl
  · cases hw
    rfl
  · cases hw

private theorem isMissing_length {v w : Value} (hw : length v = .ok w) : w.isMissing = false := by
  unfold length at hw
  split at hw
  · cases hw
    exact isMissing_ofNat _
  · cases hw

private theorem isMissing_join {v w : Value} {separator : List Char}
    (hw : join v separator = .ok w) : w.isMissing = false := by
  unfold join at hw
  split at hw <;> cases hw <;> rfl

private theorem isMissing_reverse {v w : Value} (hw : reverse v = .ok w) :
    w.isMissing = false := by
  unfold reverse at hw
  split at hw <;> cases hw <;> rfl

private theorem isMissing_round {v w : Value} {places : Option Int64}
    (hw : round v places = .ok w) : w.isMissing = false := by
  unfold round at hw
  split at hw <;> cases hw <;> rfl

private theorem isMissing_toInteger (v : Value) : (toInteger v).isMissing = false := by
  unfold toInteger
  split
  · rfl
  · split
    · split <;> rfl
    · rfl

private theorem isMissing_toJson {around : Surroundings} {v w : Value}
    (h : toJson around v = .ok w) : w.isMissing = false := by
  rw [toJson_eq] at h
  split at h
  · cases h
    rfl
  · cases h

private theorem isMissing_urlEncode (around : Surroundings) (v : Value) :
    (urlEncode around v).isMissing = false := by
  unfold urlEncode
  split <;> rfl

private theorem isMissing_of_convert {v : Option Value} {w : Value}
    (h : (ArgKind.optional .value).convert v = .ok (some w)) : w.isMissing = false := by
  rw [ArgKind.convert] at h
  split at h
  · cases h
  · next hv =>
    cases h
    exact Bool.eq_false_iff.mpr hv

private theorem isMissing_fallback {v : Value} {other : Option Value}
    (h : ∀ w, other = some w → w.isMissing = false) : (fallback v other).isMissing = false := by
  unfold fallback
  split
  · cases other with
    | none => rfl
    | some w => exact h w rfl
  · next hv =>
    simp only [Bool.or_eq_true, not_or] at hv
    exact Bool.eq_false_iff.mpr hv.1

private theorem isLossless_fallback :
    IsLossless (of .value [.optional .value] fun _ v (other, _) ↦ .ok (fallback v other)) := by
  refine isLossless_of fun view v args vs w hargs hw ↦ ?_
  obtain ⟨other, rest⟩ := args
  cases hw
  refine isMissing_fallback fun w hw ↦ ?_
  unfold Arguments.ofValues Arguments.convertEach at hargs
  cases hother : (ArgKind.optional .value).convert vs.head? with
  | error e =>
    rw [hother] at hargs
    cases hargs
  | ok x =>
    rw [hother, Arguments.convertEach] at hargs
    change (if _ then _ else _) = _ at hargs
    split at hargs
    · cases hargs
    · cases hargs
      exact isMissing_of_convert (hother.trans (congrArg _ hw))

private theorem isMissing_escape (v : Value) : (escape v).isMissing = false := by
  rw [escape]
  split
  · next hsafe =>
    cases v with
    | text s safe => rfl
    | _ => cases hsafe
  · rfl

/-- The other built-in filters give no missing value. -/
theorem isLossless_builtins (around : Surroundings) :
    ∀ e ∈ builtins around, e.1 ∉ lossyNames → IsLossless e.2 := by
  have hchars (f : List Char → List Char) : IsLossless (ofChars f) := isLossless_map fun _ ↦ rfl
  simp only [builtins, List.forall_mem_cons, List.not_mem_nil, false_implies, implies_true,
    and_true]
  refine ⟨?abs, ?capitalize, ?count, ?default, ?e, ?escape, ?first, ?float, ?int, ?join, ?last,
    ?length, ?lower, ?nl2br, ?replace, ?reverse, ?round, ?tojson, ?trim, ?upper, ?urlencode⟩
  case first => exact fun hname ↦ absurd (by decide) hname
  case last => exact fun hname ↦ absurd (by decide) hname
  all_goals intro _
  case abs => exact isLossless_ofMap fun _ _ ↦ isMissing_absolute
  case count => exact isLossless_ofMap fun _ _ ↦ isMissing_length
  case default => exact isLossless_fallback
  case e => exact isLossless_map isMissing_escape
  case escape => exact isLossless_map isMissing_escape
  case float => exact isLossless_map fun _ ↦ rfl
  case int => exact isLossless_map isMissing_toInteger
  case join => exact isLossless_of fun _ _ _ _ _ _ ↦ isMissing_join
  case length => exact isLossless_ofMap fun _ _ ↦ isMissing_length
  case nl2br => exact isLossless_map fun _ ↦ rfl
  case replace =>
    refine isLossless_of fun _ _ _ _ _ _ hv ↦ ?_
    cases hv
    rfl
  case reverse => exact isLossless_ofMap fun _ _ ↦ isMissing_reverse
  case round => exact isLossless_of fun _ _ _ _ _ _ ↦ isMissing_round
  case tojson => exact isLossless_ofMap fun _ _ ↦ isMissing_toJson
  case urlencode => exact isLossless_map (isMissing_urlEncode around)
  case capitalize | lower | trim | upper => exact hchars _

/-! ### Writing an escaped value -/

private theorem write_escape (v : Value) :
    Escaping.html.write (escape v) = Escaping.html.write v := by
  rw [escape]
  split
  · rfl
  · exact String.toList_ofList

end Filter

namespace Value

private theorem isMissing_orEmpty (v : Value) : v.orEmpty.isMissing = false := by
  rw [orEmpty]
  split
  · rfl
  · next h => exact Bool.eq_false_iff.mpr h

private theorem orEmpty_of_isMissing {v : Value} (h : v.isMissing = false) : v.orEmpty = v := by
  rw [orEmpty, h]
  rfl

private theorem write_orEmpty_iff {v : Value} :
    Escaping.html.write v = Escaping.html.write v.orEmpty ↔ v.isMissing = false := by
  constructor
  · intro h
    cases v with
    | undefined => exact absurd h (by decide)
    | null => exact absurd h (by decide)
    | _ => rfl
  · intro h
    rw [orEmpty_of_isMissing h]

end Value

/-! ### The value of the last step -/

private theorem Action.exists_of_bind_ok {α β : Type} {a : Action α} {f : α → Action β}
    {s : Scope} {y : β} (h : ((a >>= f).run.run s).1 = .ok y) :
    ∃ x s₁, a.run.run s = (.ok x, s₁) ∧ ((f x).run.run s₁).1 = .ok y := by
  rcases ha : a.run.run s with ⟨e | x, s₁⟩
  · rw [run_bind_error ha] at h
    cases h
  · rw [run_bind_ok ha] at h
    exact ⟨x, s₁, rfl, h⟩

private theorem Action.eq_ok_of_ofExcept {α : Type} {r : Except Error α} {s : Scope} {x : α}
    (h : ((ofExcept r).run.run s).1 = .ok x) : r = .ok x := by
  cases r <;> exact h

namespace Task

variable {env : Environment}

private theorem length_filters {steps : List FilterCall} {fs : List Filter}
    (h : filters env steps = .ok fs) : fs.length = steps.length := by
  induction steps generalizing fs with
  | nil =>
    cases h
    rfl
  | cons step steps ih =>
    rw [filters] at h
    obtain ⟨f, -, h⟩ := exists_of_bind_eq_ok h
    obtain ⟨fs', hfs, h⟩ := exists_of_bind_eq_ok h
    cases h
    rw [List.length_cons, List.length_cons, ih hfs]

private theorem filters_concat (steps : List FilterCall) (step : FilterCall) :
    filters env (steps ++ [step]) = (do
      let fs ← filters env steps
      let f ← filter env step.name
      return fs ++ [f]) := by
  induction steps with
  | nil => rw [List.nil_append, filters, filters]; rfl
  | cons first steps ih =>
    rw [List.cons_append, filters, ih, filters]
    simp only [bind_assoc, pure_bind, List.cons_append]

end Task

namespace Pipeline

variable {s : Setting}

private theorem runFilters_append (v : Value) (xs ys : List (FilterCall × Filter)) :
    runFilters s v (xs ++ ys) = runFilters s v xs >>= fun w ↦ runFilters s w ys := by
  induction xs generalizing v with
  | nil => rfl
  | cons x xs ih =>
    simp only [List.cons_append, runFilters, ih, bind_assoc]

/-- The value of an expression behind the steps of a pipeline. -/
def valueBehind (s : Setting) (base : Expr) (steps : List FilterCall) : Action Value := do
  let filters ← .ofExcept (Task.filters s.env steps)
  let v ← base.eval s
  runFilters s v.orEmpty (steps.zip filters)

/-- Binds the macro that an interpolation calls. -/
def bindCalled (p : Pipeline) (s : Setting) : Action Unit :=
  match p.calledName? with
  | some name => do let _ ← s.bindMacro name
  | none => pure ()

/-- The value that the last step of an interpolation gives. -/
def lastValue (p : Pipeline) (s : Setting) : Action Value := do
  p.bindCalled s
  valueBehind s p.base p.filters

private theorem evalStrict_eq (p : Pipeline) (s : Setting) :
    p.evalStrict s = Value.orEmpty <$> valueBehind s p.base p.filters := by
  simp only [evalStrict, valueBehind, Task.mapM_filter, map_eq_pure_bind, bind_assoc]

private theorem valueBehind_concat {base : Expr} {steps : List FilterCall} {step : FilterCall}
    {f : Filter} (hf : Task.filter s.env step.name = .ok f) :
    valueBehind s base (steps ++ [step]) = (do
      let v ← valueBehind s base steps
      let args ← Expr.evalAll s step.args
      s.applyFilter f (v :: args)) := by
  rw [valueBehind, valueBehind, Task.filters_concat, hf]
  cases hfs : Task.filters s.env steps with
  | error e => rfl
  | ok fs =>
    have hzip : (steps ++ [step]).zip (fs ++ [f]) = steps.zip fs ++ [(step, f)] :=
      List.zip_append (Task.length_filters hfs).symm
    change (do
      let v ← base.eval s
      runFilters s v.orEmpty ((steps ++ [step]).zip (fs ++ [f]))) = (do
        let v ← (do
          let v ← base.eval s
          runFilters s v.orEmpty (steps.zip fs))
        let args ← Expr.evalAll s step.args
        s.applyFilter f (v :: args))
    simp only [hzip, runFilters_append, runFilters, bind_assoc, bind_pure]

private theorem run_bindCalled (p : Pipeline) (scope : Scope) :
    ∃ scope', (p.bindCalled s).run.run scope = (.ok (), scope') := by
  rw [bindCalled]
  cases p.calledName? with
  | none => exact ⟨scope, rfl⟩
  | some name =>
    obtain ⟨b, scope', hbind⟩ : ∃ b scope', (s.bindMacro name).run.run scope = (.ok b, scope') := by
      rw [Task.run_bindMacro]
      split
      · exact ⟨_, _, rfl⟩
      · exact ⟨_, _, rfl⟩
    exact ⟨scope', Action.run_bind_ok hbind⟩

private theorem render_eq {p : Pipeline} (hsafe : p.safe = false) :
    p.render [] s = (do
      p.bindCalled s
      s.env.escaping.write <$> p.eval s) := by
  have hwrite : (do
      let v ← p.eval s
      let v ← runNodeFilters s v []
      return if p.safe then v.chars else s.env.escaping.write v : Action (List Char)) =
      s.env.escaping.write <$> p.eval s := by
    simp only [runNodeFilters, hsafe, map_eq_pure_bind, pure_bind]
    rfl
  rw [render, bindCalled]
  cases p.calledName? with
  | none => exact hwrite
  | some name =>
    simp only [bind_assoc, pure_bind]
    exact congrArg (fun a ↦ s.bindMacro name >>= fun _ ↦ a) hwrite

private theorem run_render {p : Pipeline} (hsafe : p.safe = false) (scope : Scope) :
    ((p.render [] s).run.run scope).1 =
      Action.recovered (((p.lastValue s).run.run scope).1.map
        fun v ↦ s.env.escaping.write v.orEmpty) (s.env.escaping.write (.plain "")) := by
  obtain ⟨scope', hbind⟩ := run_bindCalled (s := s) p scope
  rw [render_eq hsafe, lastValue, Action.run_bind_ok hbind, Action.run_bind_ok hbind,
    Action.run_map, eval, Action.run_orIfUnknown, evalStrict_eq, Action.run_map]
  cases ((valueBehind s p.base p.filters).run.run scope').1 with
  | error e =>
    change
      (if e.isUndefinedVariable then .ok (.plain "") else .error e : Except Error Value).map _ =
      if e.isUndefinedVariable then .ok _ else .error e
    split <;> rfl
  | ok v => rfl

private theorem isMissing_lastValue {p : Pipeline}
    (hlast : ∀ call, p.filters.getLast? = some call →
      ∀ f, Task.filter s.env call.name = .ok f → f.IsLossless)
    {scope : Scope} {v : Value} (h : ((p.lastValue s).run.run scope).1 = .ok v) :
    v.isMissing = false := by
  obtain ⟨_, scope, -, h⟩ := Action.exists_of_bind_ok h
  rcases List.eq_nil_or_concat p.filters with hnil | ⟨steps, call, hconcat⟩
  · rw [hnil, valueBehind] at h
    obtain ⟨fs, scope, -, h⟩ := Action.exists_of_bind_ok h
    obtain ⟨w, scope, -, h⟩ := Action.exists_of_bind_ok h
    cases h
    exact w.isMissing_orEmpty
  · rw [List.concat_eq_append] at hconcat
    rw [hconcat] at h
    cases hf : Task.filter s.env call.name with
    | error e =>
      obtain ⟨fs, scope, hfs, -⟩ := Action.exists_of_bind_ok h
      have hfs := Action.eq_ok_of_ofExcept (congrArg Prod.fst hfs)
      rw [Task.filters_concat, hf] at hfs
      obtain ⟨fs', -, hfs⟩ := exists_of_bind_eq_ok hfs
      cases hfs
    | ok f =>
      rw [valueBehind_concat hf] at h
      obtain ⟨w, scope, -, h⟩ := Action.exists_of_bind_ok h
      obtain ⟨args, scope, -, h⟩ := Action.exists_of_bind_ok h
      obtain ⟨_, scope, -, h⟩ := Action.exists_of_bind_ok h
      exact hlast call (by rw [hconcat, List.getLast?_concat]) f hf _ _ _
        (Action.eq_ok_of_ofExcept h)

private theorem lastValue_escape {p q : Pipeline} (hbase : q.base = p.base)
    (hfilters : q.filters = p.filters ++ [⟨"escape", []⟩])
    (hescape : Task.filter s.env "escape" = .ok (.ofMap .value fun v ↦ .ok (Filter.escape v))) :
    q.lastValue s = Filter.escape <$> p.lastValue s := by
  have happly (v : Value) : (do
      let args ← Expr.evalAll s []
      s.applyFilter (.ofMap .value fun v ↦ .ok (Filter.escape v)) (v :: args)) =
      pure (Filter.escape v) := rfl
  have hcalled : q.bindCalled s = p.bindCalled s := by
    rw [bindCalled, bindCalled, calledName?, calledName?, hbase]
  rw [lastValue, lastValue, hcalled, hbase, hfilters, valueBehind_concat hescape]
  simp only [happly, map_eq_pure_bind, bind_assoc]

end Pipeline

/-! ### Escaping at the end -/

private theorem recovered_escape_iff {r : Except Error Value} :
    Action.recovered ((r.map Filter.escape).map fun v ↦ Escaping.html.write v.orEmpty) [] =
        Action.recovered (r.map fun v ↦ Escaping.html.write v.orEmpty) [] ↔
      ∀ v, r = .ok v → v.isMissing = false := by
  cases r with
  | error e => simp [Except.map, Action.recovered]
  | ok v =>
    have hescape : (Filter.escape v).orEmpty = Filter.escape v :=
      Value.orEmpty_of_isMissing (Filter.isMissing_escape v)
    simp only [Except.map, Action.recovered, Except.ok.injEq, hescape, Filter.write_escape,
      Value.write_orEmpty_iff, forall_eq']

private theorem map_ofList_inj {r r' : Except Error (List Char)} :
    r.map String.ofList = r'.map String.ofList ↔ r = r' := by
  cases r <;> cases r' <;> simp [Except.map, String.ofList_inj]

private theorem Action.runIn_of_ok {α : Type} (a : Action α) {context : Datum} {scope : Scope}
    (h : Scope.ofDatum context = .ok scope) : a.runIn context = (a.run.run scope).1 := by
  rw [Scope.ofDatum] at h
  rw [runIn, ← bind_assoc, h]
  rfl

private theorem Action.exists_of_runIn_eq_ok {α : Type} {a : Action α} {context : Datum} {x : α}
    (h : a.runIn context = .ok x) :
    ∃ scope, Scope.ofDatum context = .ok scope ∧ (a.run.run scope).1 = .ok x := by
  rw [runIn, ← bind_assoc] at h
  exact exists_of_bind_eq_ok h

namespace Template

/-- The template that only writes a pipeline. -/
def writing (p : Pipeline) (macros : List MacroDecl) : Template where
  nodes := [.interpolation p []]
  macros := macros

variable {env : Environment}

private theorem filter_escape (henv : env.OnlyBuiltins) (h : (env.filter? "escape").isSome) :
    Task.filter env "escape" = .ok (.ofMap .value fun v ↦ .ok (Filter.escape v)) := by
  obtain ⟨f, hf⟩ := Option.isSome_iff_exists.mp h
  obtain ⟨around, hmem⟩ := henv.exists_mem hf
  simp only [Filter.builtins, List.mem_cons, Prod.mk.injEq, String.reduceEq, false_and, false_or,
    true_and, List.not_mem_nil, or_false] at hmem
  rw [Task.filter, hf, hmem]

private theorem render_writing (hmode : env.escaping = .html) {p : Pipeline}
    (hsafe : p.safe = false) {macros : List MacroDecl} {context : Datum} {scope : Scope}
    (hscope : Scope.ofDatum context = .ok scope) :
    (writing p macros).render env context =
      (Action.recovered (((p.lastValue
        (Task.setting env (writing p macros).macroTable 0)).run.run scope).1.map
          fun v ↦ Escaping.html.write v.orEmpty) []).map String.ofList := by
  have hall (s : Setting) : (Task.renderAll [.interpolation p []]).act s = p.render [] s := by
    change Node.renderAll s [.interpolation p []] = p.render [] s
    simp only [Node.renderAll, Node.render, pure_bind, List.append_nil, bind_pure]
  have henv : (Task.setting env (writing p macros).macroTable 0).env = env := rfl
  rw [render_of_ok _ env hscope]
  change ((((Task.renderAll [.interpolation p []]).act _).run.run scope).1).map String.ofList = _
  rw [hall, Pipeline.run_render hsafe, henv, hmode]
  rfl

private theorem render_escape_iff (henv : env.OnlyBuiltins)
    (hescape : (env.filter? "escape").isSome) (hmode : env.escaping = .html) {p q : Pipeline}
    (hsafe : p.safe = false) (hbase : q.base = p.base)
    (hfilters : q.filters = p.filters ++ [⟨"escape", []⟩]) (hq : q.safe = false)
    (macros : List MacroDecl) (context : Datum) :
    (writing q macros).render env context = (writing p macros).render env context ↔
      ∀ v, (p.lastValue (.root env (writing p macros).macroTable)).runIn context = .ok v →
        v.isMissing = false := by
  have htable : (writing q macros).macroTable = (writing p macros).macroTable := rfl
  have hlast : q.lastValue (Task.setting env (writing p macros).macroTable 0) =
      Filter.escape <$> p.lastValue (Task.setting env (writing p macros).macroTable 0) :=
    Pipeline.lastValue_escape hbase hfilters (filter_escape henv hescape)
  rw [← Task.setting_zero]
  cases hscope : Scope.ofDatum context with
  | error e =>
    rw [render_of_error _ env hscope, render_of_error _ env hscope]
    refine ⟨fun _ v hv ↦ ?_, fun _ ↦ rfl⟩
    obtain ⟨scope, hok, -⟩ := Action.exists_of_runIn_eq_ok hv
    rw [hscope] at hok
    cases hok
  | ok scope =>
    rw [render_writing hmode hq hscope, render_writing hmode hsafe hscope, htable, hlast,
      Action.run_map, Action.runIn_of_ok _ hscope]
    exact map_ofList_inj.trans recovered_escape_iff

/-- Behind a pipeline that is not marked as safe, and in which no regular expression is left open,
a step that escapes is read as such. It makes no difference to what is rendered exactly if the step
in front of it does not give a missing value, so it makes none behind any of the other built-in
filters or none at all. -/
theorem render_append_escape_iff {source : String} {p : Pipeline} (henv : env.OnlyBuiltins)
    (hescape : (env.filter? "escape").isSome) (hmode : env.escaping = .html)
    (hread : Pipeline.read source = .ok p) (hsafe : p.safe = false)
    (hregex : ¬Text.LeavesRegexOpen (Text.trim source.toList))
    (hblanks : ∀ c ∈ source.toList.rtakeWhile Text.isBlank, isOperatorChar c = true) :
    ∃ q, Pipeline.read (source ++ " | escape") = .ok q ∧
      (∀ macros context,
        (writing q macros).render env context = (writing p macros).render env context ↔
          ∀ v, (p.lastValue (.root env (writing p macros).macroTable)).runIn context = .ok v →
            v.isMissing = false) ∧
      ((∀ call, p.filters.getLast? = some call → call.name ∉ Filter.lossyNames) →
        ∀ macros context,
          (writing q macros).render env context = (writing p macros).render env context) := by
  obtain ⟨q, hq, hbase, hfilters, hq'⟩ : ∃ q, Pipeline.read (source ++ " | escape") = .ok q ∧
      q.base = p.base ∧ q.filters = p.filters ++ [⟨"escape", []⟩] ∧ q.safe = false := by
    have hsource : source ++ " | " ++ String.ofList "escape".toList = source ++ " | escape" := by
      rw [← String.toList_inj]
      simp
    have hname : Text.IsName "escape".toList := by decide
    rw [← hsource]
    exact ⟨_, Pipeline.read_append_filter hread hsafe hregex hblanks hname (by decide) (by decide),
      rfl, by rw [String.ofList_toList], rfl⟩
  have hiff := render_escape_iff henv hescape hmode hsafe hbase hfilters hq'
  refine ⟨q, hq, hiff, fun hlast macros context ↦ (hiff macros context).mpr fun v hv ↦ ?_⟩
  obtain ⟨scope, -, hv⟩ := Action.exists_of_runIn_eq_ok hv
  rw [← Task.setting_zero] at hv
  refine Pipeline.isMissing_lastValue (fun call hcall f hf ↦ ?_) hv
  obtain ⟨around, hmem⟩ := henv.exists_mem (Task.filter?_of_filter hf)
  exact Filter.isLossless_builtins around _ hmem (hlast call hcall)

/-- Escaping a text in capitals makes no difference. -/
theorem render_append_escape_upper :
    let p : Pipeline := ⟨"x | upper", .path "x" [], [⟨"upper", []⟩], false⟩
    Environment.new.OnlyBuiltins ∧ (Environment.new.filter? "escape").isSome ∧
      Pipeline.read "x | upper" = .ok p ∧
      ∃ q, Pipeline.read ("x | upper" ++ " | escape") = .ok q ∧
        ∀ macros context,
          (writing q macros).render .new context = (writing p macros).render .new context := by
  intro p
  have henv := Environment.onlyBuiltins_new
  have hescape : (Environment.new.filter? "escape").isSome := rfl
  have hread : Pipeline.read "x | upper" = .ok p := rfl
  have hblanks : "x | upper".toList.rtakeWhile Text.isBlank = [] := by decide
  obtain ⟨q, hq, -, hsame⟩ := render_append_escape_iff henv hescape rfl hread rfl (by decide)
    (hblanks ▸ List.forall_mem_nil _)
  refine ⟨henv, hescape, hread, q, hq, hsame fun call hcall ↦ ?_⟩
  cases hcall
  decide

/-- The first item of an empty sequence is written as nothing, and in words when it is escaped. -/
theorem render_escape_first :
    let p : Pipeline := ⟨"[] | first", .list [], [⟨"first", []⟩], false⟩
    let q : Pipeline :=
      ⟨"[] | first | escape", .list [], [⟨"first", []⟩, ⟨"escape", []⟩], false⟩
    Pipeline.read "[] | first" = .ok p ∧ Pipeline.read "[] | first | escape" = .ok q ∧
      (writing p []).render .new (.map []) = .ok "" ∧
      (writing q []).render .new (.map []) = .ok "undefined" :=
  ⟨rfl, rfl, rfl, rfl⟩

end Template

end Stencil
