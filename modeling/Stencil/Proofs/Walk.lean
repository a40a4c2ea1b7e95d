import Stencil.Proofs.Task

/-!
# Walking through scripts

A script names tasks about parts of what its own task is about, and puts together what they give. So
it keeps what these tasks keep, provided that the operations on values do so, too. This is shown
here once for each script. What a property has to add are the tasks that are named, and the steps
that look at the bindings of a scope or have frames of their own. Main statement:
`Outcome.walks_script`.
-/

namespace Stencil

/-- What the values, the texts and the failures of a rendering are like. -/
structure Outcome where
  /-- What values are like. -/
  value : Value → Prop
  /-- What written texts are like. -/
  text : List Char → Prop
  /-- What failures are like. -/
  failure : Error → Prop

namespace Outcome

/-- Any values, texts and failures. -/
def any : Outcome := ⟨fun _ ↦ True, fun _ ↦ True, fun _ ↦ True⟩

/-- Whether a value or a failure is as described. -/
def Allows (o : Outcome) (r : Except Error Value) : Prop :=
  (∀ v, r = .ok v → o.value v) ∧ ∀ e, r = .error e → o.failure e

/-- Whether a filter makes what is described of values that are as described. -/
def AllowsFilter (o : Outcome) (f : Filter) : Prop :=
  ∀ view vs, (∀ v ∈ vs, o.value v) → o.Allows (f view vs)

/-- Whether operations make what is described of values and texts that are as described. -/
structure IsClosed (o : Outcome) : Prop where
  /-- The value of what is missing. -/
  undefined : o.value .undefined
  /-- The value in place of what is missing. -/
  empty : o.value (.plain "")
  /-- The value at the end of a path. -/
  path {v : Value} (names : List String) (hv : o.value v) : o.value (v.path names)
  /-- The value of a property. -/
  property {v : Value} (name : String) (hv : o.value v) : o.Allows (v.property name)
  /-- The value of an item. -/
  item {v k : Value} (hv : o.value v) : o.Allows (v.item k)
  /-- The value of a method. -/
  method {v : Value} {args : List Value} (name : String) (hv : o.value v)
    (hargs : ∀ w ∈ args, o.value w) : o.Allows (v.callMethod name args)
  /-- The value of a prefix operator. -/
  unary {op : UnaryOp} {v : Value} (hv : o.value v) : o.Allows (op.apply v)
  /-- The value of an infix operator. -/
  binary {op : BinaryOp} {a b : Value} (ha : o.value a) (hb : o.value b) : o.Allows (op.apply a b)
  /-- A sequence of values. -/
  seq {vs : List Value} (hvs : ∀ v ∈ vs, o.value v) : o.value (.seq vs)
  /-- A map of values. -/
  map {table : Table Value} (htable : ∀ e ∈ table.entries, o.value e.2) : o.value (.ofTable table)
  /-- A text of no characters. -/
  nil : o.text []
  /-- A text behind another one. -/
  append {a b : List Char} (ha : o.text a) (hb : o.text b) : o.text (a ++ b)
  /-- A text that a macro gives. -/
  safe {out : List Char} (hout : o.text out) : o.value (.text (String.ofList out) true)
  /-- The failure that there is no filter with a name. -/
  unknownFilter (name : String) : o.failure (.unknownFilter name)
  /-- The failures of operations that a value does not have. -/
  invalidOperation {e : Error} (he : e.kind = .invalidOperation) : o.failure e

/-- All operations make some values and some failures. -/
theorem isClosed_any : any.IsClosed := by
  constructor <;> simp [any, Allows]

/-- What a task gives. -/
def Gives (o : Outcome) : {α : Type} → Task α → α → Prop
  | _, .eval _ | _, .valueOf _ | _, .call _ _ | _, .invoke _ _ _ | _, .evalPipeline _
  | _, .runFilters _ _ _ | _, .runNodeFilters _ _ => o.value
  | _, .evalAll _ => fun vs ↦ ∀ v ∈ vs, o.value v
  | _, .evalEntries _ _ => fun table ↦ ∀ e ∈ table.entries, o.value e.2
  | _, .bindAll _ _ => fun _ ↦ True
  | _, .render _ | _, .renderAll _ | _, .renderRuns _ _ _ _ _ _ => o.text
  | _, .renderFirst _ => fun chosen ↦ ∀ out, chosen = some out → o.text out

/-- The failures of a task. Inside of expressions a called name may be unknown. -/
def Fails (o : Outcome) : {α : Type} → Task α → Error → Prop
  | _, .eval _ | _, .evalAll _ | _, .evalEntries _ _ | _, .valueOf _ | _, .call _ _
  | _, .invoke _ _ _ | _, .runFilters _ _ _ => fun e ↦ e.isUndefinedVariable = false → o.failure e
  | _, .bindAll _ _ | _, .evalPipeline _ | _, .runNodeFilters _ _ | _, .render _
  | _, .renderAll _ | _, .renderFirst _ | _, .renderRuns _ _ _ _ _ _ => o.failure

/-- Whatever a task gives is a value or a text. -/
theorem gives_any {α : Type} (t : Task α) (x : α) : any.Gives t x := by
  cases t <;> simp [Gives, any]

/-- Whatever a task fails of is a failure. -/
theorem fails_any {α : Type} (t : Task α) (e : Error) : any.Fails t e := by
  cases t <;> simp [Fails, any]

/-- Whether what a task brings along is as described: constants, values, filters and texts. -/
def Admits (o : Outcome) (env : Environment) : {α : Type} → Task α → Prop
  | _, .eval (.const v) => o.value v
  | _, .evalEntries table _ => ∀ e ∈ table.entries, o.value e.2
  | _, .bindAll _ args => ∀ v ∈ args, o.value v
  | _, .runFilters v _ fs => o.value v ∧ ∀ f ∈ fs, o.AllowsFilter f
  | _, .runNodeFilters v names =>
    o.value v ∧ ∀ name ∈ names, ∀ f, Task.filter env name = .ok f → o.AllowsFilter f
  | _, .render (.text t) => o.text t.toList
  | _, .render (.interpolation p _) =>
    ∀ v, o.value v → o.text (if p.safe then v.chars else env.escaping.write v)
  | _, _ => True

/-- Any values, filters and texts may be brought along. -/
theorem admits_any (env : Environment) {α : Type} (t : Task α) : any.Admits env t := by
  cases t with
  | eval e => cases e <;> simp [Admits, any]
  | render n => cases n <;> simp [Admits, any]
  | _ => simp [Admits, any, AllowsFilter, Allows]

/-- The tasks that the script of a task names, where values are as described. Left out are those
that depend on how names are bound or are done in other frames. -/
inductive Names (o : Outcome) (env : Environment) : {α β : Type} → Task α → Task β → Prop where
  /-- A path starts at a name. -/
  | root (root : String) (names : List String) :
      Names o env (.eval (.path root names)) (.valueOf root)
  /-- What has a property is evaluated. -/
  | owner (e : Expr) (name : String) : Names o env (.eval (.property e name)) (.eval e)
  /-- What has an item is evaluated. -/
  | container (e key : Expr) : Names o env (.eval (.item e key)) (.eval e)
  /-- The key of an item is evaluated. -/
  | key (e key : Expr) : Names o env (.eval (.item e key)) (.eval key)
  /-- Arguments are evaluated. -/
  | arguments (callee : Expr) (args : List Expr) :
      Names o env (.eval (.call callee args)) (.evalAll args)
  /-- A name is called. -/
  | call (root : String) (names : List String) (args : List Expr) {vs : List Value}
      (hvs : ∀ v ∈ vs, o.value v) :
      Names o env (.eval (.call (.path root names) args)) (.call root vs)
  /-- The path to an object starts at a name. -/
  | object (root : String) (names : List String) (args : List Expr) :
      Names o env (.eval (.call (.path root names) args)) (.valueOf root)
  /-- What has a method is evaluated. -/
  | receiver (e : Expr) (method : String) (args : List Expr) :
      Names o env (.eval (.call (.property e method) args)) (.eval e)
  /-- The operand of a prefix operator is evaluated. -/
  | operand (op : UnaryOp) (e : Expr) : Names o env (.eval (.unary op e)) (.eval e)
  /-- The left operand is evaluated. -/
  | left (op : BinaryOp) (left right : Expr) :
      Names o env (.eval (.binary op left right)) (.eval left)
  /-- The right operand is evaluated. -/
  | right (op : BinaryOp) (left right : Expr) :
      Names o env (.eval (.binary op left right)) (.eval right)
  /-- The condition of a choice is evaluated. -/
  | test (test yes no : Expr) : Names o env (.eval (.conditional test yes no)) (.eval test)
  /-- The first one of a choice is evaluated. -/
  | yes (test yes no : Expr) : Names o env (.eval (.conditional test yes no)) (.eval yes)
  /-- The other one of a choice is evaluated. -/
  | no (test yes no : Expr) : Names o env (.eval (.conditional test yes no)) (.eval no)
  /-- The items of a list are evaluated. -/
  | items (items : List Expr) : Names o env (.eval (.list items)) (.evalAll items)
  /-- The entries of a map are evaluated. -/
  | entries (entries : List (String × Expr)) :
      Names o env (.eval (.map entries)) (.evalEntries .empty entries)
  /-- The first expression is evaluated. -/
  | head (e : Expr) (es : List Expr) : Names o env (.evalAll (e :: es)) (.eval e)
  /-- The other expressions are evaluated. -/
  | tail (e : Expr) (es : List Expr) : Names o env (.evalAll (e :: es)) (.evalAll es)
  /-- The first entry is evaluated. -/
  | entry (table : Table Value) (name : String) (e : Expr) (es : List (String × Expr)) :
      Names o env (.evalEntries table ((name, e) :: es)) (.eval e)
  /-- The other entries are evaluated. -/
  | moreEntries {table : Table Value} (name : String) (e : Expr) (es : List (String × Expr))
      {v : Value} (htable : ∀ e ∈ table.entries, o.value e.2) (hv : o.value v) :
      Names o env (.evalEntries table ((name, e) :: es)) (.evalEntries (table.insert name v) es)
  /-- The default of a parameter is evaluated. -/
  | default {p : Param} (ps : List Param) (args : List Value) {e : Expr}
      (he : p.default = some e) : Names o env (.bindAll (p :: ps) args) (.eval e)
  /-- The other parameters are bound. -/
  | moreParams (p : Param) (ps : List Param) (args : List Value) :
      Names o env (.bindAll (p :: ps) args) (.bindAll ps args.tail)
  /-- The base of a pipeline is evaluated. -/
  | base (p : Pipeline) : Names o env (.evalPipeline p) (.eval p.base)
  /-- The steps of a pipeline are run. -/
  | steps (p : Pipeline) {v : Value} {fs : List Filter} (hv : o.value v)
      (hfs : Task.filters env p.filters = .ok fs) :
      Names o env (.evalPipeline p) (.runFilters v p.filters fs)
  /-- The arguments of a filter are evaluated. -/
  | stepArguments (v : Value) (step : FilterCall) (steps : List FilterCall) (f : Filter)
      (fs : List Filter) :
      Names o env (.runFilters v (step :: steps) (f :: fs)) (.evalAll step.args)
  /-- The other steps are run. -/
  | moreSteps (v : Value) (step : FilterCall) (steps : List FilterCall) (f : Filter)
      (fs : List Filter) {w : Value} (hw : o.value w) :
      Names o env (.runFilters v (step :: steps) (f :: fs)) (.runFilters w steps fs)
  /-- The other filters of a node are run. -/
  | moreFilters (v : Value) (name : String) (names : List String) {w : Value} (hw : o.value w) :
      Names o env (.runNodeFilters v (name :: names)) (.runNodeFilters w names)
  /-- The pipeline of an interpolation is evaluated. -/
  | interpolated (p : Pipeline) (names : List String) :
      Names o env (.render (.interpolation p names)) (.evalPipeline p)
  /-- The filters of a node are run. -/
  | nodeFilters (p : Pipeline) (names : List String) {v : Value} (hv : o.value v) :
      Names o env (.render (.interpolation p names)) (.runNodeFilters v names)
  /-- What a loop runs over is evaluated. -/
  | iterable (valueName : String) (keyName : Option String) (iterable : Pipeline)
      (body : List Node) :
      Names o env (.render (.loop valueName keyName iterable body)) (.evalPipeline iterable)
  /-- The runs of a loop are rendered. -/
  | runs (valueName : String) (keyName : Option String) (iterable : Pipeline) (body : List Node)
      {v : Value} (hv : o.value v) :
      Names o env (.render (.loop valueName keyName iterable body))
        (.renderRuns valueName keyName body 0 v.iterationPairs.length v.iterationPairs)
  /-- A condition is evaluated. -/
  | condition (test : Pipeline) (body : List Node) (others : List (Pipeline × List Node))
      (otherwise : Option (List Node)) :
      Names o env (.render (.condition test body others otherwise)) (.evalPipeline test)
  /-- What a condition holds for is rendered. -/
  | body (test : Pipeline) (body : List Node) (others : List (Pipeline × List Node))
      (otherwise : Option (List Node)) :
      Names o env (.render (.condition test body others otherwise)) (.renderAll body)
  /-- The other branches are tried. -/
  | others (test : Pipeline) (body : List Node) (others : List (Pipeline × List Node))
      (otherwise : Option (List Node)) :
      Names o env (.render (.condition test body others otherwise)) (.renderFirst others)
  /-- What no condition holds for is rendered. -/
  | otherwise (test : Pipeline) (body : List Node) (others : List (Pipeline × List Node))
      (nodes : List Node) :
      Names o env (.render (.condition test body others (some nodes))) (.renderAll nodes)
  /-- The pipeline of an assignment is evaluated. -/
  | assigned (name : String) (p : Pipeline) :
      Names o env (.render (.assignment name p)) (.evalPipeline p)
  /-- The first node is rendered. -/
  | node (n : Node) (ns : List Node) : Names o env (.renderAll (n :: ns)) (.render n)
  /-- The other nodes are rendered. -/
  | moreNodes (n : Node) (ns : List Node) : Names o env (.renderAll (n :: ns)) (.renderAll ns)
  /-- The condition of the first branch is evaluated. -/
  | branchTest (test : Pipeline) (body : List Node) (branches : List (Pipeline × List Node)) :
      Names o env (.renderFirst ((test, body) :: branches)) (.evalPipeline test)
  /-- The first branch is rendered. -/
  | branch (test : Pipeline) (body : List Node) (branches : List (Pipeline × List Node)) :
      Names o env (.renderFirst ((test, body) :: branches)) (.renderAll body)
  /-- The other branches are tried. -/
  | moreBranches (test : Pipeline) (body : List Node) (branches : List (Pipeline × List Node)) :
      Names o env (.renderFirst ((test, body) :: branches)) (.renderFirst branches)

/-- Whether the script of a task depends on the scope only by the tasks and the filters in it. -/
def IsPlain : {α : Type} → Task α → Prop
  | _, .valueOf _ | _, .call _ _ | _, .invoke _ _ _ | _, .render (.outermost _)
  | _, .renderRuns _ _ _ _ _ (_ :: _) => False
  | _, _ => True

/-- Whether a task binds variables in the frame that it starts in. -/
def SetsVariables : {α : Type} → Task α → Prop
  | _, .bindAll _ _ | _, .render (.assignment _ _) => True
  | _, _ => False

/-- Whether the script of a task binds macros. -/
def BindsMacros : {α : Type} → Task α → Prop
  | _, .render (.interpolation _ _) => True
  | _, _ => False

variable {o : Outcome} {env : Environment} {macros : List (String × MacroDecl)} {d : Nat}
  {C : Contract Task} {K : Scope → Prop}

/-- Whether the tasks that a task names keep the scope as described and end as described. -/
def KeepsNamed (o : Outcome) (env : Environment) (d : Nat) (C : Contract Task) (K : Scope → Prop)
    {α : Type} (t : Task α) : Prop :=
  ∀ {β : Type} {t' : Task β},
    o.Names env t t' → (Script.task d t').Walks C K (o.Gives t') (o.Fails t')

private theorem orEmpty (ho : o.IsClosed) {v : Value} (hv : o.value v) : o.value v.orEmpty := by
  rw [Value.orEmpty]
  split
  · exact ho.empty
  · exact hv

private theorem walks_allowed {r : Except Error Value} (hr : o.Allows r) :
    (.ofExcept r : Script Task Value).Walks C K o.value
      fun e ↦ e.isUndefinedVariable = false → o.failure e :=
  Script.walks_ofExcept hr.1 fun e he _ ↦ hr.2 e he

/-! ### Expressions -/

private theorem walks_call (ho : o.IsClosed) (callee : Expr) (args : List Expr)
    (h : o.KeepsNamed env d C K (.eval (.call callee args))) :
    (Task.evalScript d (.call callee args)).Walks C K (o.Gives (.eval (.call callee args)))
      (o.Fails (.eval (.call callee args))) := by
  cases callee with
  | path root names =>
    refine Script.walks_bind (h (.arguments _ args)) fun vs hvs ↦ ?_
    cases names.getLast? with
    | none => exact h (.call root names args hvs)
    | some method =>
      refine Script.walks_bind (h (.object root names args)) fun v hv ↦ ?_
      exact walks_allowed (ho.method method (ho.path _ hv) hvs)
  | property e method =>
    refine Script.walks_bind (h (.arguments _ args)) fun vs hvs ↦ ?_
    refine Script.walks_bind (h (.receiver e method args)) fun v hv ↦ ?_
    exact walks_allowed (ho.method method hv hvs)
  | _ =>
    refine Script.walks_bind (h (.arguments _ args)) fun vs _ ↦ ?_
    exact Script.walks_error fun _ ↦ ho.invalidOperation rfl

private theorem walks_binary (ho : o.IsClosed) (op : BinaryOp) (left right : Expr)
    (h : o.KeepsNamed env d C K (.eval (.binary op left right))) :
    (Task.evalScript d (.binary op left right)).Walks C K (o.Gives (.eval (.binary op left right)))
      (o.Fails (.eval (.binary op left right))) := by
  have hleft := h (.left op left right)
  have hright := h (.right op left right)
  cases op with
  | and =>
    refine Script.walks_bind hleft fun v hv ↦ ?_
    exact Script.walks_ite hright (Script.walks_pure hv)
  | or =>
    refine Script.walks_bind hleft fun v hv ↦ ?_
    exact Script.walks_ite (Script.walks_pure hv) hright
  | _ =>
    refine Script.walks_bind hleft fun a ha ↦ ?_
    refine Script.walks_bind hright fun b hb ↦ ?_
    exact walks_allowed (ho.binary ha hb)

private theorem walks_eval (ho : o.IsClosed) (e : Expr) (hown : o.Admits env (.eval e))
    (h : o.KeepsNamed env d C K (.eval e)) :
    (Task.evalScript d e).Walks C K (o.Gives (.eval e)) (o.Fails (.eval e)) := by
  cases e with
  | const v => exact Script.walks_pure hown
  | path root names =>
    refine Script.walks_bind (h (.root root names)) fun v hv ↦ ?_
    exact Script.walks_pure (ho.path names hv)
  | property e name =>
    refine Script.walks_bind (h (.owner e name)) fun v hv ↦ ?_
    exact walks_allowed (ho.property name hv)
  | item e key =>
    refine Script.walks_bind (h (.container e key)) fun v hv ↦ ?_
    refine Script.walks_bind (h (.key e key)) fun k _ ↦ ?_
    exact walks_allowed (ho.item hv)
  | call callee args => exact walks_call ho callee args h
  | unary op e =>
    refine Script.walks_bind (h (.operand op e)) fun v hv ↦ ?_
    exact walks_allowed (ho.unary hv)
  | binary op left right => exact walks_binary ho op left right h
  | conditional test yes no =>
    refine Script.walks_bind (h (.test test yes no)) fun v _ ↦ ?_
    exact Script.walks_ite (h (.yes test yes no)) (h (.no test yes no))
  | list items =>
    refine Script.walks_bind (h (.items items)) fun vs hvs ↦ ?_
    exact Script.walks_pure (ho.seq hvs)
  | map entries =>
    refine Script.walks_bind (h (.entries entries)) fun table htable ↦ ?_
    exact Script.walks_pure (ho.map htable)

private theorem walks_evalAll (es : List Expr) (h : o.KeepsNamed env d C K (.evalAll es)) :
    ((Task.evalAll es).script env macros d).Walks C K (o.Gives (.evalAll es))
      (o.Fails (.evalAll es)) := by
  cases es with
  | nil => exact Script.walks_pure (List.forall_mem_nil _)
  | cons e es =>
    refine Script.walks_bind (h (.head e es)) fun v hv ↦ ?_
    refine Script.walks_bind (h (.tail e es)) fun vs hvs ↦ ?_
    exact Script.walks_pure (List.forall_mem_cons.mpr ⟨hv, hvs⟩)

private theorem walks_evalEntries (table : Table Value) (es : List (String × Expr))
    (htable : ∀ e ∈ table.entries, o.value e.2)
    (h : o.KeepsNamed env d C K (.evalEntries table es)) :
    ((Task.evalEntries table es).script env macros d).Walks C K (o.Gives (.evalEntries table es))
      (o.Fails (.evalEntries table es)) := by
  cases es with
  | nil => exact Script.walks_pure htable
  | cons entry es =>
    obtain ⟨name, e⟩ := entry
    refine Script.walks_bind (h (.entry table name e es)) fun v hv ↦ ?_
    exact h (.moreEntries name e es htable hv)

/-! ### Parameters -/

private theorem walks_bindAll (ho : o.IsClosed) (params : List Param) (args : List Value)
    (hargs : ∀ v ∈ args, o.value v)
    (hset : ∀ s name v, K s → o.value v → K (s.set name v))
    (h : o.KeepsNamed env d C K (.bindAll params args)) :
    ((Task.bindAll params args).script env macros d).Walks C K (o.Gives (.bindAll params args))
      (o.Fails (.bindAll params args)) := by
  cases params with
  | nil => exact Script.walks_pure trivial
  | cons p ps =>
    have hrest (v : Value) (hv : o.value v) :
        (do .set p.name v; .task d (.bindAll ps args.tail) : Script Task Unit).Walks C K
          (fun _ ↦ True) o.failure :=
      Script.walks_set_bind (fun s hs ↦ hset s p.name v hs hv) (h (.moreParams p ps args))
    cases args with
    | cons v vs => exact hrest v (hargs v List.mem_cons_self)
    | nil =>
      obtain ⟨name, default⟩ := p
      cases default with
      | none => exact hrest _ ho.empty
      | some e =>
        refine Script.walks_bind ?_ hrest
        exact Script.walks_orIfUnknown (h (.default ps [] rfl)) ho.undefined

/-! ### Pipelines -/

private theorem failure_of_filter (ho : o.IsClosed) {name : String} {e : Error}
    (he : Task.filter env name = .error e) : o.failure e := by
  rw [Task.filter] at he
  split at he
  · cases he
  · cases he
    exact ho.unknownFilter name

private theorem failure_of_filters (ho : o.IsClosed) {steps : List FilterCall} {e : Error}
    (he : Task.filters env steps = .error e) : o.failure e := by
  induction steps with
  | nil => cases he
  | cons step steps ih =>
    rw [Task.filters] at he
    cases hf : Task.filter env step.name with
    | error e' =>
      rw [hf] at he
      cases he
      exact failure_of_filter ho hf
    | ok f =>
      rw [hf] at he
      cases hfs : Task.filters env steps with
      | error e' =>
        rw [hfs] at he
        cases he
        exact ih hfs
      | ok fs =>
        rw [hfs] at he
        cases he

private theorem walks_evalPipeline (ho : o.IsClosed) (p : Pipeline)
    (h : o.KeepsNamed env d C K (.evalPipeline p)) :
    ((Task.evalPipeline p).script env macros d).Walks C K (o.Gives (.evalPipeline p))
      (o.Fails (.evalPipeline p)) := by
  refine Script.walks_orIfUnknown ?_ ho.empty
  refine Script.walks_look_bind (fun _ e he _ ↦ failure_of_filters ho he) fun _ fs hfs ↦ ?_
  refine Script.walks_bind (h (.base p)) fun v hv ↦ ?_
  refine Script.walks_bind (h (.steps p (orEmpty ho hv) hfs)) fun w hw ↦ ?_
  exact Script.walks_pure (orEmpty ho hw)

private theorem walks_runFilters (v : Value) (steps : List FilterCall) (fs : List Filter)
    (hv : o.value v) (hfs : ∀ f ∈ fs, o.AllowsFilter f)
    (h : o.KeepsNamed env d C K (.runFilters v steps fs)) :
    ((Task.runFilters v steps fs).script env macros d).Walks C K (o.Gives (.runFilters v steps fs))
      (o.Fails (.runFilters v steps fs)) := by
  cases steps with
  | nil => exact Script.walks_pure hv
  | cons step steps =>
    cases fs with
    | nil => exact Script.walks_pure hv
    | cons f fs =>
      have hf := hfs f List.mem_cons_self
      refine Script.walks_bind (h (.stepArguments v step steps f fs)) fun vs hvs ↦ ?_
      have hall := List.forall_mem_cons.mpr ⟨hv, hvs⟩
      refine Script.walks_look_bind (fun s e he _ ↦ (hf _ _ hall).2 e he) fun s w hw ↦ ?_
      exact h (.moreSteps v step steps f fs ((hf _ _ hall).1 w hw))

private theorem walks_runNodeFilters (ho : o.IsClosed) (v : Value) (names : List String)
    (hv : o.value v)
    (hnames : ∀ name ∈ names, ∀ f, Task.filter env name = .ok f → o.AllowsFilter f)
    (h : o.KeepsNamed env d C K (.runNodeFilters v names)) :
    ((Task.runNodeFilters v names).script env macros d).Walks C K
      (o.Gives (.runNodeFilters v names)) (o.Fails (.runNodeFilters v names)) := by
  cases names with
  | nil => exact Script.walks_pure hv
  | cons name names =>
    rw [Task.script]
    cases hfilter : Task.filter env name with
    | error e => exact Script.walks_error (failure_of_filter ho hfilter)
    | ok f =>
      have hf := hnames name List.mem_cons_self f hfilter
      have hall := List.forall_mem_singleton.mpr hv
      refine Script.walks_look_bind (fun s e he ↦ (hf _ _ hall).2 e he) fun s w hw ↦ ?_
      exact h (.moreFilters v name names ((hf _ _ hall).1 w hw))

/-! ### Nodes -/

private theorem walks_interpolation (p : Pipeline) (names : List String)
    (hwrite : ∀ v, o.value v → o.text (if p.safe then v.chars else env.escaping.write v))
    (hbind : ∀ s name, K s → K (s.bindMacro name))
    (h : o.KeepsNamed env d C K (.render (.interpolation p names))) :
    (Task.renderScript env macros d (.interpolation p names)).Walks C K o.text o.failure := by
  have hrest : (do
      let v ← .task d (.evalPipeline p)
      let v ← .task d (.runNodeFilters v names)
      return if p.safe then v.chars else env.escaping.write v :
        Script Task (List Char)).Walks C K o.text o.failure := by
    refine Script.walks_bind (h (.interpolated p names)) fun v hv ↦ ?_
    refine Script.walks_bind (h (.nodeFilters p names hv)) fun w hw ↦ ?_
    exact Script.walks_pure (hwrite w hw)
  intro s hs
  rw [Task.renderScript]
  dsimp only
  split
  · exact Task.meets_bindScript_bind (hrest _ (hbind s _ hs)) (hrest s hs)
  · exact hrest s hs

private theorem walks_condition (ho : o.IsClosed) (test : Pipeline) (body : List Node)
    (others : List (Pipeline × List Node)) (otherwise : Option (List Node))
    (h : o.KeepsNamed env d C K (.render (.condition test body others otherwise))) :
    (Task.renderScript env macros d (.condition test body others otherwise)).Walks C K o.text
      o.failure := by
  rw [Task.renderScript.eq_def]
  refine Script.walks_bind (h (.condition test body others otherwise)) fun v _ ↦ ?_
  refine Script.walks_ite (h (.body test body others otherwise)) ?_
  refine Script.walks_bind (h (.others test body others otherwise)) fun chosen hchosen ↦ ?_
  cases chosen with
  | some out => exact Script.walks_pure (hchosen out rfl)
  | none =>
    cases otherwise with
    | none => exact Script.walks_pure ho.nil
    | some nodes => exact h (.otherwise test body others nodes)

private theorem walks_render (ho : o.IsClosed) (n : Node) (hplain : IsPlain (.render n))
    (hown : o.Admits env (.render n))
    (hset : SetsVariables (.render n) → ∀ s name v, K s → o.value v → K (s.set name v))
    (hbind : BindsMacros (.render n) → ∀ s name, K s → K (s.bindMacro name))
    (h : o.KeepsNamed env d C K (.render n)) :
    (Task.renderScript env macros d n).Walks C K o.text o.failure := by
  cases n with
  | text t => exact Script.walks_pure hown
  | interpolation p names => exact walks_interpolation p names hown (hbind trivial) h
  | loop valueName keyName iterable body =>
    refine Script.walks_bind (h (.iterable valueName keyName iterable body)) fun v hv ↦ ?_
    exact h (.runs valueName keyName iterable body hv)
  | condition test body others otherwise => exact walks_condition ho test body others otherwise h
  | assignment name p =>
    refine Script.walks_bind (h (.assigned name p)) fun v hv ↦ ?_
    exact Script.walks_set_bind (fun s hs ↦ hset trivial s name v hs hv) (Script.walks_pure ho.nil)
  | outermost body => exact absurd hplain id

private theorem walks_renderAll (ho : o.IsClosed) (ns : List Node)
    (h : o.KeepsNamed env d C K (.renderAll ns)) :
    ((Task.renderAll ns).script env macros d).Walks C K o.text o.failure := by
  cases ns with
  | nil => exact Script.walks_pure ho.nil
  | cons n ns =>
    refine Script.walks_bind (h (.node n ns)) fun here hhere ↦ ?_
    refine Script.walks_bind (h (.moreNodes n ns)) fun rest hrest ↦ ?_
    exact Script.walks_pure (ho.append hhere hrest)

private theorem walks_renderFirst (branches : List (Pipeline × List Node))
    (h : o.KeepsNamed env d C K (.renderFirst branches)) :
    ((Task.renderFirst branches).script env macros d).Walks C K
      (o.Gives (.renderFirst branches)) o.failure := by
  cases branches with
  | nil => exact Script.walks_pure (by simp [Gives])
  | cons branch branches =>
    obtain ⟨test, body⟩ := branch
    refine Script.walks_bind (h (.branchTest test body branches)) fun v _ ↦ ?_
    refine Script.walks_ite ?_ (h (.moreBranches test body branches))
    refine Script.walks_bind (h (.branch test body branches)) fun out hout ↦ ?_
    exact Script.walks_pure fun out' h ↦ Option.some.inj h ▸ hout

/-! ### Scripts -/

/-- The script of a task keeps the scope as described and ends as described, if the tasks that it
names do so and what the task brings along is as described. -/
theorem walks_script (ho : o.IsClosed) {α : Type} (t : Task α) (hplain : IsPlain t)
    (hown : o.Admits env t)
    (hset : SetsVariables t → ∀ s name v, K s → o.value v → K (s.set name v))
    (hbind : BindsMacros t → ∀ s name, K s → K (s.bindMacro name))
    (h : o.KeepsNamed env d C K t) :
    (t.script env macros d).Walks C K (o.Gives t) (o.Fails t) := by
  cases t with
  | eval e => exact walks_eval ho e hown h
  | evalAll es => exact walks_evalAll es h
  | evalEntries table es => exact walks_evalEntries table es hown h
  | bindAll params args => exact walks_bindAll ho params args hown (hset trivial) h
  | evalPipeline p => exact walks_evalPipeline ho p h
  | runFilters v steps fs => exact walks_runFilters v steps fs hown.1 hown.2 h
  | runNodeFilters v names => exact walks_runNodeFilters ho v names hown.1 hown.2 h
  | render n => exact walks_render ho n hplain hown hset hbind h
  | renderAll ns => exact walks_renderAll ho ns h
  | renderFirst branches => exact walks_renderFirst branches h
  | renderRuns valueName keyName body i n pairs =>
    cases pairs with
    | nil => exact Script.walks_pure ho.nil
    | cons pair pairs => exact absurd hplain id
  | _ => exact absurd hplain id

section

variable {s : Scope} {E : Error → Prop} {L : Scope → Prop}

/-- The value of a name depends on how it is bound. -/
theorem settles_valueOf (ho : o.IsClosed) {name : String} (hs : K s)
    (hvariable : ∀ v, s.resolve name = some (.variable v) → o.value v)
    (hroutine : ∀ level, s.resolve name = some (.routine level) →
      (Script.task d (.invoke name [] level)).Meets C (Settles K o.value E) s)
    (hcall : s.resolve name = none →
      (Script.task d (.call name [])).Meets C (Settles K o.value E) (s.bindMacro name)) :
    ((Task.valueOf name).script env macros d).Meets C (Settles K o.value E) s := by
  refine Script.settles_look_bind hs (by simp) fun binding hbinding ↦ ?_
  cases hbinding
  rcases hr : s.resolve name with _ | v | level
  · exact Task.meets_bindScript_bind (hcall hr) (Script.settles_pure hs ho.undefined)
  · exact Script.settles_pure hs (hvariable v hr)
  · exact hroutine level hr

/-- What a call of a name does depends on how it is bound. -/
theorem settles_call (ho : o.IsClosed) {name : String} {args : List Value} (hs : K s)
    (hroutine : ∀ level, s.resolve name = some (.routine level) →
      (Script.task d (.invoke name args level)).Meets C
        (Settles K o.value (o.Fails (.call name args))) s)
    (hcall : s.resolve name = none →
      (Script.task d (.call name args)).Meets C (Settles K o.value (o.Fails (.call name args)))
        (s.bindMacro name)) :
    ((Task.call name args).script env macros d).Meets C
      (Settles K o.value (o.Fails (.call name args))) s := by
  refine Script.settles_look_bind hs (by simp) fun binding hbinding ↦ ?_
  cases hbinding
  rcases hr : s.resolve name with _ | v | level
  · exact Task.meets_bindScript_bind (hcall hr) (Script.settles_error hs (by intro h; cases h))
  · exact Script.settles_error hs fun _ ↦ ho.invalidOperation rfl
  · exact hroutine level hr

/-- A macro runs in a frame of its own, above the one that it is bound in. -/
theorem settles_invoke (ho : o.IsClosed) {name : String} {args : List Value} {level : Nat}
    (hs : K s) (hframe : L (.empty :: s.drop level))
    (hback : ∀ s', L s' → K (s.take level ++ s'.tail))
    (hparams : ∀ m, Entries.get? name macros = some m → d < env.callLimit →
      (Script.task (d + 1) (.bindAll m.signature.params args)).Walks C L (fun _ ↦ True) o.failure)
    (hbody : ∀ m, Entries.get? name macros = some m → d < env.callLimit →
      (Script.task (d + 1) (.renderAll m.body)).Walks C L o.text o.failure) :
    ((Task.invoke name args level).script env macros d).Meets C
      (Settles K o.value (o.Fails (.invoke name args level))) s := by
  rw [Task.script]
  cases hm : Entries.get? name macros with
  | none => exact Script.settles_error hs (by intro h; cases h)
  | some m =>
    dsimp only
    split
    · exact Script.settles_error hs fun _ ↦ ho.invalidOperation rfl
    · next hd =>
      have hd : d < env.callLimit := Nat.lt_of_not_le hd
      have hcall : (do
          .task (d + 1) (.bindAll m.signature.params args)
          return Value.text (String.ofList (← .task (d + 1) (.renderAll m.body))) true :
            Script Task Value).Walks C L o.value o.failure := by
        refine Script.walks_bind (hparams m hm hd) fun _ _ ↦ ?_
        refine Script.walks_bind (hbody m hm hd) fun out hout ↦ ?_
        exact Script.walks_pure (ho.safe hout)
      apply Script.settles_outside (L := fun s' ↦ K (s.take level ++ s'))
      · apply Script.settles_inFrame _ hback
        exact (hcall _ hframe).mono fun r s' h ↦ ⟨h.1, h.2.1, fun e he _ ↦ h.2.2 e he⟩
      · exact fun _ h ↦ h

/-- A run of a loop has a frame of its own. -/
theorem settles_renderRuns (ho : o.IsClosed) {valueName : String} {keyName : Option String}
    {body : List Node} {i n : Nat} {pair : Value × Value} {pairs : List (Value × Value)}
    (hframe : L (loopFrame valueName keyName pair i n :: s)) (hback : ∀ s', L s' → K s'.tail)
    (hbody : (Script.task d (.renderAll body)).Walks C L o.text o.failure)
    (hpairs : (Script.task d (.renderRuns valueName keyName body (i + 1) n pairs)).Walks C K o.text
      o.failure) :
    ((Task.renderRuns valueName keyName body i n (pair :: pairs)).script env macros d).Meets C
      (Settles K o.text o.failure) s := by
  refine Script.settles_bind (Script.settles_inFrame (hbody _ hframe) hback) ?_
  intro here s₁ hs₁ hhere
  refine Script.settles_bind (hpairs s₁ hs₁) fun rest s₂ hs₂ hrest ↦ ?_
  exact Script.settles_pure hs₂ (ho.append hhere hrest)

/-- A part for the outermost frame leaves the other frames. -/
theorem settles_outermost {body : List Node} (hs : K s) (hframe : L (s.drop (s.length - 1)))
    (hback : ∀ s', L s' → K (s.take (s.length - 1) ++ s'))
    (hbody : (Script.task d (.renderAll body)).Walks C L o.text o.failure) :
    ((Task.render (.outermost body)).script env macros d).Meets C (Settles K o.text o.failure)
      s := by
  refine Script.settles_look_bind hs (by simp) fun s₁ hs₁ ↦ ?_
  cases hs₁
  exact Script.settles_outside (hbody _ hframe) hback

end

end Outcome

end Stencil
