import Stencil.Proofs.Script
import Stencil.Rendering

/-!
# The tasks of a rendering

Evaluating and rendering fall into tasks that name each other. A call of a name that binds a macro
first begins again, now that the name stands for something, and only a call of a macro goes on at a
greater depth.
-/

namespace Stencil

/-! ### Nodes inside of nodes -/

mutual

/-- Whether a node and all nodes inside of it are as described. -/
def Node.All (P : Node → Prop) : Node → Prop
  | .text s => P (.text s)
  | .interpolation p filters => P (.interpolation p filters)
  | .loop valueName keyName iterable body =>
    P (.loop valueName keyName iterable body) ∧ Node.AllOf P body
  | .condition test body others otherwise =>
    P (.condition test body others otherwise) ∧ Node.AllOf P body ∧ Node.AllOfBranches P others ∧
      Node.AllOfRest P otherwise
  | .assignment name p => P (.assignment name p)
  | .outermost body => P (.outermost body) ∧ Node.AllOf P body

/-- Whether nodes and all nodes inside of them are as described. -/
def Node.AllOf (P : Node → Prop) : List Node → Prop
  | [] => True
  | n :: ns => n.All P ∧ Node.AllOf P ns

/-- Whether the nodes of branches and all nodes inside of them are as described. -/
def Node.AllOfBranches (P : Node → Prop) : List (Pipeline × List Node) → Prop
  | [] => True
  | (_, body) :: branches => Node.AllOf P body ∧ Node.AllOfBranches P branches

/-- Whether the nodes behind all branches, if there are any, and all nodes inside of them are as
described. -/
def Node.AllOfRest (P : Node → Prop) : Option (List Node) → Prop
  | none => True
  | some ns => Node.AllOf P ns

end

mutual

/-- What follows from two descriptions of the nodes inside of a node holds of these nodes. -/
theorem Node.All.imp {P Q R : Node → Prop} (h : ∀ n, P n → Q n → R n) :
    ∀ {n : Node}, n.All P → n.All Q → n.All R
  | .text _, hP, hQ => h _ hP hQ
  | .interpolation _ _, hP, hQ => h _ hP hQ
  | .loop _ _ _ _, hP, hQ => ⟨h _ hP.1 hQ.1, Node.AllOf.imp h hP.2 hQ.2⟩
  | .condition _ _ _ _, hP, hQ =>
    ⟨h _ hP.1 hQ.1, Node.AllOf.imp h hP.2.1 hQ.2.1, Node.AllOfBranches.imp h hP.2.2.1 hQ.2.2.1,
      Node.AllOfRest.imp h hP.2.2.2 hQ.2.2.2⟩
  | .assignment _ _, hP, hQ => h _ hP hQ
  | .outermost _, hP, hQ => ⟨h _ hP.1 hQ.1, Node.AllOf.imp h hP.2 hQ.2⟩

/-- What follows from two descriptions of the nodes inside of nodes holds of these nodes. -/
theorem Node.AllOf.imp {P Q R : Node → Prop} (h : ∀ n, P n → Q n → R n) :
    ∀ {ns : List Node}, Node.AllOf P ns → Node.AllOf Q ns → Node.AllOf R ns
  | [], _, _ => trivial
  | _ :: _, hP, hQ => ⟨Node.All.imp h hP.1 hQ.1, Node.AllOf.imp h hP.2 hQ.2⟩

/-- What follows from two descriptions of the nodes inside of branches holds of these nodes. -/
theorem Node.AllOfBranches.imp {P Q R : Node → Prop} (h : ∀ n, P n → Q n → R n) :
    ∀ {branches : List (Pipeline × List Node)}, Node.AllOfBranches P branches →
      Node.AllOfBranches Q branches → Node.AllOfBranches R branches
  | [], _, _ => trivial
  | (_, _) :: _, hP, hQ => ⟨Node.AllOf.imp h hP.1 hQ.1, Node.AllOfBranches.imp h hP.2 hQ.2⟩

/-- What follows from two descriptions of the nodes behind all branches holds of these nodes. -/
theorem Node.AllOfRest.imp {P Q R : Node → Prop} (h : ∀ n, P n → Q n → R n) :
    ∀ {otherwise : Option (List Node)}, Node.AllOfRest P otherwise →
      Node.AllOfRest Q otherwise → Node.AllOfRest R otherwise
  | none, _, _ => trivial
  | some _, hP, hQ => Node.AllOf.imp h hP hQ

end

/-! ### Tasks and their scripts -/

/-- What is to be done in a rendering. -/
inductive Task : Type → Type where
  /-- Evaluates an expression. -/
  | eval (e : Expr) : Task Value
  /-- Evaluates expressions. -/
  | evalAll (es : List Expr) : Task (List Value)
  /-- Evaluates map entries into a table. -/
  | evalEntries (table : Table Value) (es : List (String × Expr)) : Task (Table Value)
  /-- Finds the value that a name stands for. -/
  | valueOf (name : String) : Task Value
  /-- Calls what a name stands for. -/
  | call (name : String) (args : List Value) : Task Value
  /-- Calls the macro with a name that is bound in the frame behind `level` others. -/
  | invoke (name : String) (args : List Value) (level : Nat) : Task Value
  /-- Binds parameters to arguments. -/
  | bindAll (params : List Param) (args : List Value) : Task Unit
  /-- Evaluates a pipeline. -/
  | evalPipeline (p : Pipeline) : Task Value
  /-- Runs a value through the filters of a pipeline. -/
  | runFilters (v : Value) (steps : List FilterCall) (filters : List Filter) : Task Value
  /-- Runs a value through filters without arguments. -/
  | runNodeFilters (v : Value) (names : List String) : Task Value
  /-- Renders a node. -/
  | render (n : Node) : Task (List Char)
  /-- Renders nodes. -/
  | renderAll (ns : List Node) : Task (List Char)
  /-- Renders the first branch whose condition holds. -/
  | renderFirst (branches : List (Pipeline × List Node)) : Task (Option (List Char))
  /-- Renders the runs of a loop from the run `i` of `n` on. -/
  | renderRuns (valueName : String) (keyName : Option String) (body : List Node) (i n : Nat)
      (pairs : List (Value × Value)) : Task (List Char)

namespace Task

/-- Whether the nodes that a task is about, and all nodes inside of them, are as described. -/
@[simp] def AllNodes (P : Node → Prop) : {α : Type} → Task α → Prop
  | _, .render n => n.All P
  | _, .renderAll ns => Node.AllOf P ns
  | _, .renderFirst branches => Node.AllOfBranches P branches
  | _, .renderRuns _ _ body _ _ _ => Node.AllOf P body
  | _, _ => True

/-- The filter with a name. -/
def filter (env : Environment) (name : String) : Except Error Filter :=
  match env.filter? name with
  | some f => .ok f
  | none => .error (.unknownFilter name)

/-- The filters of the steps of a pipeline. -/
def filters (env : Environment) : List FilterCall → Except Error (List Filter)
  | [] => .ok []
  | step :: steps => do
    let f ← filter env step.name
    return f :: (← filters env steps)

/-- A filter that is found is the one of the environment. -/
theorem filter?_of_filter {env : Environment} {name : String} {f : Filter}
    (h : filter env name = .ok f) : env.filter? name = some f := by
  rw [filter] at h
  cases hf : env.filter? name with
  | none =>
    rw [hf] at h
    cases h
  | some f' =>
    rw [hf] at h
    cases h
    rfl

/-- What holds of the filter of each step holds of all the filters. -/
theorem forall_mem_filters {env : Environment} {P : Filter → Prop} {steps : List FilterCall}
    {fs : List Filter} (h : ∀ step ∈ steps, ∀ f, filter env step.name = .ok f → P f)
    (hfs : filters env steps = .ok fs) : ∀ f ∈ fs, P f := by
  induction steps generalizing fs with
  | nil =>
    cases hfs
    exact List.forall_mem_nil P
  | cons step steps ih =>
    obtain ⟨hstep, hsteps⟩ := List.forall_mem_cons.mp h
    rw [filters] at hfs
    obtain ⟨f, hf, hfs⟩ := exists_of_bind_eq_ok hfs
    obtain ⟨fs', htail, hfs⟩ := exists_of_bind_eq_ok hfs
    cases hfs
    exact List.forall_mem_cons.mpr ⟨hstep f hf, ih hsteps htail⟩

/-- The setting of a depth. -/
def setting (env : Environment) (macros : List (String × MacroDecl)) (d : Nat) : Setting where
  env := env
  macros := macros
  depth := d
  invoke := (Setting.at env macros (env.callLimit - d)).invoke

section

variable (env : Environment) (macros : List (String × MacroDecl)) (d : Nat)

/-- Binds a macro if it is declared. Says whether it is. -/
def bindScript (name : String) : Script Task Bool :=
  if (Entries.get? name macros).isSome then do
    .bindMacro name
    return true
  else return false

/-- How an expression is evaluated. -/
def evalScript : Expr → Script Task Value
  | .const v => return v
  | .path root names => do
    let v ← .task d (.valueOf root)
    return v.path names
  | .property e name => do
    let v ← .task d (.eval e)
    .ofExcept (v.property name)
  | .item e key => do
    let v ← .task d (.eval e)
    let k ← .task d (.eval key)
    .ofExcept (v.item k)
  | .call (.path root names) args => do
    let vs ← .task d (.evalAll args)
    match names.getLast? with
    | none => .task d (.call root vs)
    | some method =>
      let v ← .task d (.valueOf root)
      .ofExcept ((v.path names.dropLast).callMethod method vs)
  | .call (.property e method) args => do
    let vs ← .task d (.evalAll args)
    let v ← .task d (.eval e)
    .ofExcept (v.callMethod method vs)
  | .call _ args => do
    let _ ← .task d (.evalAll args)
    .ofExcept (.error (.new .invalidOperation "expression is not callable"))
  | .unary op e => do
    let v ← .task d (.eval e)
    .ofExcept (op.apply v)
  | .binary .and left right => do
    let v ← .task d (.eval left)
    if v.isTrue then .task d (.eval right) else return v
  | .binary .or left right => do
    let v ← .task d (.eval left)
    if v.isTrue then return v else .task d (.eval right)
  | .binary op left right => do
    let a ← .task d (.eval left)
    let b ← .task d (.eval right)
    .ofExcept (op.apply a b)
  | .conditional test yes no => do
    let v ← .task d (.eval test)
    if v.isTrue then .task d (.eval yes) else .task d (.eval no)
  | .list items => do return .seq (← .task d (.evalAll items))
  | .map entries => do return .ofTable (← .task d (.evalEntries .empty entries))

/-- How a pipeline is evaluated, where the failure that a called name is unknown counts. -/
def pipelineScript (p : Pipeline) : Script Task Value := do
  let fs ← .ofExcept (filters env p.filters)
  let v ← .task d (.eval p.base)
  let v ← .task d (.runFilters v.orEmpty p.filters fs)
  return v.orEmpty

/-- How a node is rendered. -/
def renderScript : Node → Script Task (List Char)
  | .text t => return t.toList
  | .interpolation p filters => do
    match p.calledName? with
    | some name => let _ ← bindScript macros name
    | none => pure ()
    let v ← .task d (.evalPipeline p)
    let v ← .task d (.runNodeFilters v filters)
    return if p.safe then v.chars else env.escaping.write v
  | .loop valueName keyName iterable body => do
    let v ← .task d (.evalPipeline iterable)
    let pairs := v.iterationPairs
    .task d (.renderRuns valueName keyName body 0 pairs.length pairs)
  | .condition test body others otherwise => do
    let v ← .task d (.evalPipeline test)
    if v.isTrue then .task d (.renderAll body)
    else
      match (← .task d (.renderFirst others)) with
      | some out => return out
      | none =>
        match otherwise with
        | some nodes => .task d (.renderAll nodes)
        | none => return []
  | .assignment name p => do
    let v ← .task d (.evalPipeline p)
    .set name v
    return []
  | .outermost body => do
    let s ← .look .ok
    .outside (s.length - 1) (.task d (.renderAll body))

/-- How a task is carried out at a depth. -/
def script : {α : Type} → Task α → Script Task α
  | _, .eval e => evalScript d e
  | _, .evalAll [] => return []
  | _, .evalAll (e :: es) => do
    let v ← .task d (.eval e)
    return v :: (← .task d (.evalAll es))
  | _, .evalEntries table [] => return table
  | _, .evalEntries table ((name, e) :: es) => do
    let v ← .task d (.eval e)
    .task d (.evalEntries (table.insert name v) es)
  | _, .valueOf name => do
    match (← .look fun s ↦ .ok (s.resolve name)) with
    | some (.variable v) => return v
    | some (.routine level) => .task d (.invoke name [] level)
    | none => if (← bindScript macros name) then .task d (.call name []) else return .undefined
  | _, .call name args => do
    match (← .look fun s ↦ .ok (s.resolve name)) with
    | some (.variable v) =>
      .ofExcept (.error (.new .invalidOperation
        ("`" ++ name ++ "` is not callable (got " ++ v.kind.name ++ ")")))
    | some (.routine level) => .task d (.invoke name args level)
    | none =>
      if (← bindScript macros name) then .task d (.call name args)
      else .ofExcept (.error (.undefinedVariable name))
  | _, .invoke name args level =>
    match Entries.get? name macros with
    | none => .ofExcept (.error (.undefinedVariable name))
    | some m =>
      if env.callLimit ≤ d then .ofExcept (.error (callLimitExceeded name))
      else .outside level <| .inFrame .empty do
        .task (d + 1) (.bindAll m.signature.params args)
        return .text (String.ofList (← .task (d + 1) (.renderAll m.body))) true
  | _, .bindAll [] _ => return ()
  | _, .bindAll (p :: ps) args => do
    let v : Value ← match args, p.default with
      | v :: _, _ => pure v
      | [], some e => .orIfUnknown (.task d (.eval e)) .undefined
      | [], none => pure (.plain "")
    .set p.name v
    .task d (.bindAll ps args.tail)
  | _, .evalPipeline p => .orIfUnknown (pipelineScript env d p) (.plain "")
  | _, .runFilters v (step :: steps) (f :: fs) => do
    let args ← .task d (.evalAll step.args)
    let v ← .look fun s ↦ f ((setting env macros d).view s) (v :: args)
    .task d (.runFilters v steps fs)
  | _, .runFilters v _ _ => return v
  | _, .runNodeFilters v [] => return v
  | _, .runNodeFilters v (name :: names) =>
    match filter env name with
    | .error e => .ofExcept (.error e)
    | .ok f => do
      let v ← .look fun s ↦ f ((setting env macros d).view s) [v]
      .task d (.runNodeFilters v names)
  | _, .render n => renderScript env macros d n
  | _, .renderAll [] => return []
  | _, .renderAll (n :: ns) => do
    let here ← .task d (.render n)
    let rest ← .task d (.renderAll ns)
    return here ++ rest
  | _, .renderFirst [] => return none
  | _, .renderFirst ((test, body) :: branches) => do
    let v ← .task d (.evalPipeline test)
    if v.isTrue then return some (← .task d (.renderAll body)) else .task d (.renderFirst branches)
  | _, .renderRuns _ _ _ _ _ [] => return []
  | _, .renderRuns valueName keyName body i n (pair :: pairs) => do
    let here ← .inFrame (loopFrame valueName keyName pair i n) (.task d (.renderAll body))
    let rest ← .task d (.renderRuns valueName keyName body (i + 1) n pairs)
    return here ++ rest

end

/-- What the tasks of a rendering stand for. -/
def code (env : Environment) (macros : List (String × MacroDecl)) : Code Task where
  script d t := t.script env macros d

/-- A macro is bound if it is declared, and only then. -/
theorem meets_bindScript_bind {macros : List (String × MacroDecl)} {C : Contract Task} {α : Type}
    {name : String} {next : Bool → Script Task α} {Q : Except Error α → Scope → Prop} {s : Scope}
    (hyes : (next true).Meets C Q (s.bindMacro name)) (hno : (next false).Meets C Q s) :
    (bindScript macros name >>= next).Meets C Q s := by
  rw [bindScript]
  split
  · exact hyes
  · exact hno

/-- It makes no difference to a filter that makes nothing of what it can see which setting it is run
in. -/
theorem look_view {f : Filter} (hf : f.IsBlind) (a b : Setting) (vs : List Value) :
    (.look fun s ↦ f (a.view s) vs : Script Task Value) = .look fun s ↦ f (b.view s) vs := by
  congr 1
  funext s
  exact hf _ _ _

/-- What carries out a task in a setting. -/
def act (s : Setting) : {α : Type} → Task α → Action α
  | _, .eval e => e.eval s
  | _, .evalAll es => Expr.evalAll s es
  | _, .evalEntries table es => Expr.evalEntries s table es
  | _, .valueOf name => s.valueOf name
  | _, .call name args => s.call name args
  | _, .invoke name args level => s.invoke name args level
  | _, .bindAll params args => Param.bindAll s params args
  | _, .evalPipeline p => p.eval s
  | _, .runFilters v steps filters => Pipeline.runFilters s v (steps.zip filters)
  | _, .runNodeFilters v names => Stencil.runNodeFilters s v names
  | _, .render n => n.render s
  | _, .renderAll ns => Node.renderAll s ns
  | _, .renderFirst branches => Node.renderFirst s branches
  | _, .renderRuns valueName keyName body i n pairs =>
    Stencil.renderRuns valueName keyName (Node.renderAll s body) i n pairs

/-- The actions of the tasks of a rendering. -/
def handler (env : Environment) (macros : List (String × MacroDecl)) : Handler Task where
  act d t := t.act (setting env macros d)

end Task

end Stencil
