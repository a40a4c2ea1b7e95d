import Stencil.Evaluation
import Stencil.Value.Conversion

/-!
# Rendering

Nodes are rendered in order. Every run of a loop and every call of a macro has a frame of its own,
so that assignments inside do not leak. How many calls of macros may be nested is limited.
-/

namespace Stencil

/-- What a loop says about its run `i` of `n`. -/
def loopInfo (i n : Nat) : Value :=
  .ofTable (.ofList [("index", .ofNat (i + 1)), ("index0", .ofNat i), ("length", .ofNat n),
    ("first", .bool (i == 0)), ("last", .bool (i + 1 == n))])

/-- The frame of a run of a loop. -/
def loopFrame (valueName : String) (keyName : Option String) (pair : Value × Value) (i n : Nat) :
    Frame :=
  let f := Frame.empty.set valueName pair.2
  let f := match keyName with
    | some name => f.set name pair.1
    | none => f
  f.set "loop" (loopInfo i n)

/-- Renders the runs of a loop from the run `i` of `n` on. -/
def renderRuns (valueName : String) (keyName : Option String) (body : Action (List Char))
    (i n : Nat) : List (Value × Value) → Action (List Char)
  | [] => return []
  | pair :: pairs => do
    let here ← Action.inFrame (loopFrame valueName keyName pair i n) body
    let rest ← renderRuns valueName keyName body (i + 1) n pairs
    return here ++ rest

/-- Runs a value through filters without arguments. -/
def runNodeFilters (s : Setting) (v : Value) : List String → Action Value
  | [] => return v
  | name :: names => do
    let f ← s.filter name
    let v ← s.applyFilter f [v]
    runNodeFilters s v names

/-- Renders an interpolation. If it calls a name, the macro of that name is bound before. -/
def Pipeline.render (p : Pipeline) (filters : List String) (s : Setting) : Action (List Char) := do
  match p.calledName? with
  | some name => let _ ← s.bindMacro name
  | none => pure ()
  let v ← p.eval s
  let v ← runNodeFilters s v filters
  return if p.safe then v.chars else s.env.escaping.write v

mutual

/-- Renders a node. -/
def Node.render (s : Setting) : Node → Action (List Char)
  | .text t => return t.toList
  | .interpolation p filters => p.render filters s
  | .loop valueName keyName iterable body => do
    let v ← iterable.eval s
    let pairs := v.iterationPairs
    renderRuns valueName keyName (Node.renderAll s body) 0 pairs.length pairs
  | .condition test body others otherwise => do
    let v ← test.eval s
    if v.isTrue then Node.renderAll s body
    else
      match (← Node.renderFirst s others) with
      | some out => return out
      | none =>
        match otherwise with
        | some nodes => Node.renderAll s nodes
        | none => return []
  | .assignment name p => do
    let v ← p.eval s
    modify (·.set name v)
    return []
  | .outermost body => Action.outermost (Node.renderAll s body)

/-- Renders nodes in order. -/
def Node.renderAll (s : Setting) : List Node → Action (List Char)
  | [] => return []
  | n :: ns => do
    let here ← n.render s
    let rest ← Node.renderAll s ns
    return here ++ rest

/-- Renders the first branch whose condition holds, if there is one. -/
def Node.renderFirst (s : Setting) :
    List (Pipeline × List Node) → Action (Option (List Char))
  | [] => return none
  | (test, body) :: branches => do
    let v ← test.eval s
    if v.isTrue then return some (← Node.renderAll s body) else Node.renderFirst s branches

end

/-- Calls a macro: binds its parameters in a new frame and renders its body there. The result is a
safe text. -/
def MacroDecl.call (m : MacroDecl) (s : Setting) (args : List Value) (level : Nat) : Action Value :=
  Action.outside level <| Action.inFrame .empty do
    Param.bindAll s m.signature.params args
    return .text (String.ofList (← Node.renderAll s m.body)) true

/-- A macro is called while as many calls as may be nested are going on. -/
def callLimitExceeded (name : String) : Error :=
  .new .invalidOperation ("recursion limit exceeded while calling macro `" ++ name ++ "`")

/-- The setting in which `n` more calls of macros may be nested. -/
def Setting.at (env : Environment) (macros : List (String × MacroDecl)) (n : Nat) : Setting where
  env := env
  macros := macros
  depth := env.callLimit - n
  invoke name args level :=
    match Entries.get? name macros with
    | none => throw (.undefinedVariable name)
    | some m =>
      match n with
      | 0 => throw (callLimitExceeded name)
      | n + 1 => m.call (Setting.at env macros n) args level

/-- The setting outside of all macros. -/
def Setting.root (env : Environment) (macros : List (String × MacroDecl)) : Setting :=
  .at env macros env.callLimit

/-- The scope that a context makes up: the entries of a map, or nothing if it is missing. -/
def Scope.ofContext (v : Value) : Except Error Scope :=
  match v with
  | .map rows => .ok [⟨rows.entries, []⟩]
  | .undefined | .null => .ok [.empty]
  | v => .error (.new .invalidOperation ("render context must be a map, got " ++ v.kind.name))

/-- Runs an action in the scope of a context. -/
def Action.runIn {α : Type} (a : Action α) (context : Datum) : Except Error α := do
  let scope ← Scope.ofContext (← Value.ofDatum context)
  (a.run.run scope).1

/-- The declared macros in the order of their names. A later declaration replaces an earlier one. -/
def Template.macroTable (t : Template) : List (String × MacroDecl) :=
  t.macros.foldl (fun table m ↦ Entries.insertOrdered m.signature.name m table) []

/-- Renders a template. -/
def Template.render (t : Template) (env : Environment) (context : Datum) : Except Error String :=
  (String.ofList <$> Node.renderAll (.root env t.macroTable) t.nodes).runIn context

/-- The value of a pipeline on its own. -/
def Pipeline.run (p : Pipeline) (env : Environment) (context : Datum) : Except Error Value :=
  (p.eval (.root env [])).runIn context

/-- The value of an attribute list on its own. -/
def AttributeList.run (a : AttributeList) (env : Environment) (context : Datum) :
    Except Error Value :=
  (a.eval (.root env [])).runIn context

end Stencil
