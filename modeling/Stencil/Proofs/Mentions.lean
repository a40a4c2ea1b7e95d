import Stencil.Rendering

/-!
# The names that a template mentions

A template mentions the names at the roots of the paths in its nodes, and as soon as it mentions the
name of a macro, also those in the body and the defaults of the macro. The filters in the same
places are the ones that it uses.
-/

namespace Stencil

/-! ### Names in expressions -/

mutual

/-- The names at the roots of the paths in an expression. -/
def Expr.roots : Expr → List String
  | .const _ => []
  | .path root _ => [root]
  | .property e _ => e.roots
  | .item e key => e.roots ++ key.roots
  | .call callee args => callee.roots ++ Expr.rootsOfAll args
  | .unary _ e => e.roots
  | .binary _ left right => left.roots ++ right.roots
  | .conditional test yes no => test.roots ++ yes.roots ++ no.roots
  | .list items => Expr.rootsOfAll items
  | .map entries => Expr.rootsOfEntries entries

/-- The names at the roots of the paths in expressions. -/
def Expr.rootsOfAll : List Expr → List String
  | [] => []
  | e :: es => e.roots ++ Expr.rootsOfAll es

/-- The names at the roots of the paths in the entries of a map. -/
def Expr.rootsOfEntries : List (String × Expr) → List String
  | [] => []
  | (_, e) :: es => e.roots ++ Expr.rootsOfEntries es

end

/-- The names in the arguments of filters. -/
def FilterCall.rootsOfAll (steps : List FilterCall) : List String :=
  steps.flatMap fun step ↦ Expr.rootsOfAll step.args

/-- The names in a pipeline, those in the arguments of its filters among them. -/
def Pipeline.roots (p : Pipeline) : List String := p.base.roots ++ FilterCall.rootsOfAll p.filters

/-- The names in a pipeline that calls a name include that name. -/
theorem Pipeline.mem_roots_of_calledName? {p : Pipeline} {name : String}
    (h : p.calledName? = some name) : name ∈ p.roots := by
  rw [calledName?] at h
  split at h
  · next callee args hbase =>
    cases callee with
    | path root names =>
      cases names with
      | nil =>
        cases h
        rw [roots, hbase, Expr.roots, Expr.roots]
        exact List.mem_cons_self
      | cons _ _ => cases h
    | _ => cases h
  · cases h

/-- The names in the default of a parameter. -/
def Param.roots (p : Param) : List String :=
  match p.default with
  | some e => e.roots
  | none => []

/-! ### Names in nodes -/

mutual

/-- The pipelines in a node, each with the filters that run behind it. -/
def Node.chains : Node → List (Pipeline × List String)
  | .text _ => []
  | .interpolation p filters => [(p, filters)]
  | .loop _ _ iterable body => (iterable, []) :: Node.chainsOfAll body
  | .condition test body others otherwise =>
    (test, []) :: Node.chainsOfAll body ++ Node.chainsOfBranches others ++
      Node.chainsOfRest otherwise
  | .assignment _ p => [(p, [])]
  | .outermost body => Node.chainsOfAll body

/-- The pipelines in nodes. -/
def Node.chainsOfAll : List Node → List (Pipeline × List String)
  | [] => []
  | n :: ns => n.chains ++ Node.chainsOfAll ns

/-- The pipelines in the branches of a condition. -/
def Node.chainsOfBranches : List (Pipeline × List Node) → List (Pipeline × List String)
  | [] => []
  | (test, body) :: branches =>
    (test, []) :: Node.chainsOfAll body ++ Node.chainsOfBranches branches

/-- The pipelines in the nodes behind all branches, if there are any. -/
def Node.chainsOfRest : Option (List Node) → List (Pipeline × List String)
  | none => []
  | some ns => Node.chainsOfAll ns

end

/-- The names at the roots of the paths in nodes. -/
def Node.names (ns : List Node) : List String := (Node.chainsOfAll ns).flatMap fun p ↦ p.1.roots

/-- The names of the filters in nodes. -/
def Node.filterNames (ns : List Node) : List String :=
  (Node.chainsOfAll ns).flatMap fun p ↦ p.1.filterNames ++ p.2

/-- The names in the body and the defaults of a macro. -/
def MacroDecl.names (m : MacroDecl) : List String :=
  m.signature.params.flatMap Param.roots ++ Node.names m.body

/-- The names of the filters in the body of a macro. Defaults have no filters. -/
def MacroDecl.filterNames (m : MacroDecl) : List String := Node.filterNames m.body

/-! ### Names in templates -/

namespace Template

/-- The last declaration of a macro. -/
def decl? (t : Template) (name : String) : Option MacroDecl :=
  t.macros.reverse.find? fun m ↦ m.signature.name == name

/-- The names that a template mentions, in its nodes or in the macros that it mentions. -/
inductive Mentions (t : Template) : String → Prop where
  /-- The nodes mention the name. -/
  | nodes {name : String} (h : name ∈ Node.names t.nodes) : t.Mentions name
  /-- A macro that is mentioned mentions the name. -/
  | decl {name name' : String} {m : MacroDecl} (hname : t.Mentions name)
      (hm : t.decl? name = some m) (h : name' ∈ m.names) : t.Mentions name'

/-- The filters that a template uses, in its nodes or in the macros that it mentions. -/
inductive UsesFilter (t : Template) : String → Prop where
  /-- The nodes use the filter. -/
  | nodes {filter : String} (h : filter ∈ Node.filterNames t.nodes) : t.UsesFilter filter
  /-- A macro that is mentioned uses the filter. -/
  | decl {name filter : String} {m : MacroDecl} (hname : t.Mentions name)
      (hm : t.decl? name = some m) (h : filter ∈ m.filterNames) : t.UsesFilter filter

/-- A macro is looked up as its last declaration. -/
theorem get?_macroTable (t : Template) (name : String) :
    Entries.get? name t.macroTable = t.decl? name := by
  have hfold (ms : List MacroDecl) (table : List (String × MacroDecl)) :
      Entries.get? name
          (ms.foldl (fun table m ↦ Entries.insertOrdered m.signature.name m table) table) =
        (ms.reverse.find? fun m ↦ m.signature.name == name).or (Entries.get? name table) := by
    induction ms generalizing table with
    | nil => rfl
    | cons m ms ih =>
      rw [List.foldl_cons, ih, Entries.get?_insertOrdered, List.reverse_cons, List.find?_append,
        Option.or_assoc]
      congr 1
      by_cases hm : m.signature.name = name
      · simp [hm]
      · simp [hm, Ne.symm hm]
  rw [macroTable, hfold, decl?]
  simp [Entries.get?]

end Template

end Stencil
