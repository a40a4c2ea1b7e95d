import Stencil.Action
import Stencil.Environment
import Stencil.Template
import Stencil.Value.Arithmetic
import Stencil.Value.Lookup
import Stencil.Value.Method

/-!
# Evaluation

Expressions are evaluated in a scope. A name that stands for nothing is undefined, unless it is
called; the name of a declared macro is bound in the innermost frame when it is used first, and
evaluates to a call without arguments. What a call of a macro does is a parameter here.
-/

namespace Stencil

/-! ### Operators -/

/-- Applies an operator in front of its operand. -/
def UnaryOp.apply (op : UnaryOp) (v : Value) : Except Error Value :=
  match op with
  | .not => .ok (.bool (!v.isTrue))
  | .negate => v.negate
  | .number => v.toNumeric

/-- Applies an operator between its operands. -/
def BinaryOp.apply (op : BinaryOp) (a b : Value) : Except Error Value :=
  match op with
  | .eq => .ok (.bool (Value.looselyEqual a b))
  | .ne => .ok (.bool (!Value.looselyEqual a b))
  | .strictEq => .ok (.bool (Value.strictlyEqual a b))
  | .strictNe => .ok (.bool (!Value.strictlyEqual a b))
  | .lt => .ok (.bool (Value.relate? a b == some .lt))
  | .le => .ok (.bool (Value.relate? a b == some .lt || Value.relate? a b == some .eq))
  | .gt => .ok (.bool (Value.relate? a b == some .gt))
  | .ge => .ok (.bool (Value.relate? a b == some .gt || Value.relate? a b == some .eq))
  | .and => .ok (if a.isTrue then b else a)
  | .or => .ok (if a.isTrue then a else b)
  | .add => Value.add a b
  | .sub => Value.sub a b
  | .mul => Value.mul a b
  | .div => Value.div a b
  | .rem => Value.rem a b

/-! ### Names -/

/-- What evaluation takes place in, apart from the scope. -/
structure Setting where
  /-- The environment. -/
  env : Environment
  /-- The declared macros, in the order of their names. -/
  macros : List (String × MacroDecl)
  /-- How many calls of macros are going on. -/
  depth : Nat
  /-- Calls the macro with a name that is bound in the frame behind `level` others. -/
  invoke : (name : String) → (args : List Value) → (level : Nat) → Action Value

namespace Setting

/-- Whether a macro is declared. -/
def isDeclared (s : Setting) (name : String) : Bool := (Entries.get? name s.macros).isSome

/-- What a filter can see. -/
def view (s : Setting) (scope : Scope) : FilterView where
  escaping := s.env.escaping
  callLimit := s.env.callLimit
  macroNames := s.macros.map (·.1)
  depth := s.depth
  lookup := scope.lookup

/-- Binds a macro in the innermost frame if it is declared, and not bound yet. Says whether it is
declared. -/
def bindMacro (s : Setting) (name : String) : Action Bool := do
  if s.isDeclared name then
    modify (·.bindMacro name)
    return true
  else return false

/-- Calls what a name is bound to. -/
def callBound (s : Setting) (name : String) (args : List Value) (binding : Option Binding) :
    Action Value :=
  match binding with
  | some (.routine level) => s.invoke name args level
  | some (.variable v) =>
    throw (.new .invalidOperation ("`" ++ name ++ "` is not callable (got " ++ v.kind.name ++ ")"))
  | none => throw (.undefinedVariable name)

/-- Calls what a name stands for. -/
def call (s : Setting) (name : String) (args : List Value) : Action Value := do
  match (← get).resolve name with
  | some binding => s.callBound name args (some binding)
  | none =>
    let _ ← s.bindMacro name
    s.callBound name args ((← get).resolve name)

/-- The value that a name stands for. -/
def valueOf (s : Setting) (name : String) : Action Value := do
  match (← get).resolve name with
  | some (.variable v) => return v
  | some (.routine level) => s.invoke name [] level
  | none => if (← s.bindMacro name) then s.call name [] else return .undefined

/-- The value at the end of a path. -/
def valueAt (s : Setting) (root : String) (names : List String) : Action Value := do
  return (← s.valueOf root).path names

end Setting

/-! ### Expressions -/

mutual

/-- The value of an expression. -/
def Expr.eval (s : Setting) : Expr → Action Value
  | .const v => return v
  | .path root names => s.valueAt root names
  | .property e name => do
    let v ← e.eval s
    .ofExcept (v.property name)
  | .item e key => do
    let v ← e.eval s
    let k ← key.eval s
    .ofExcept (v.item k)
  | .call (.path root names) args => do
    let vs ← Expr.evalAll s args
    match names.getLast? with
    | none => s.call root vs
    | some method =>
      let v ← s.valueAt root names.dropLast
      .ofExcept (v.callMethod method vs)
  | .call (.property e method) args => do
    let vs ← Expr.evalAll s args
    let v ← e.eval s
    .ofExcept (v.callMethod method vs)
  | .call _ args => do
    let _ ← Expr.evalAll s args
    throw (.new .invalidOperation "expression is not callable")
  | .unary op e => do
    let v ← e.eval s
    .ofExcept (op.apply v)
  | .binary .and left right => do
    let v ← left.eval s
    if v.isTrue then right.eval s else return v
  | .binary .or left right => do
    let v ← left.eval s
    if v.isTrue then return v else right.eval s
  | .binary op left right => do
    let a ← left.eval s
    let b ← right.eval s
    .ofExcept (op.apply a b)
  | .conditional test yes no => do
    let v ← test.eval s
    if v.isTrue then yes.eval s else no.eval s
  | .list items => do return .seq (← Expr.evalAll s items)
  | .map entries => do return .ofTable (← Expr.evalEntries s .empty entries)

/-- The values of expressions, from first to last. -/
def Expr.evalAll (s : Setting) : List Expr → Action (List Value)
  | [] => return []
  | e :: es => do
    let v ← e.eval s
    return v :: (← Expr.evalAll s es)

/-- Adds the values of map entries to a table, from first to last. -/
def Expr.evalEntries (s : Setting) (table : Table Value) :
    List (String × Expr) → Action (Table Value)
  | [] => return table
  | (name, e) :: es => do
    let v ← e.eval s
    Expr.evalEntries s (table.insert name v) es

end

/-! ### Pipelines, attribute lists and parameters -/

/-- The value, or an empty text if it is missing. -/
def Value.orEmpty (v : Value) : Value := if v.isMissing then .plain "" else v

/-- The filter with a name. -/
def Setting.filter (s : Setting) (name : String) : Action Filter :=
  match s.env.filter? name with
  | some f => return f
  | none => throw (.unknownFilter name)

/-- Applies a filter. -/
def Setting.applyFilter (s : Setting) (f : Filter) (vs : List Value) : Action Value := do
  .ofExcept (f (s.view (← get)) vs)

/-- Runs a value through the filters of a pipeline. -/
def Pipeline.runFilters (s : Setting) (v : Value) : List (FilterCall × Filter) → Action Value
  | [] => return v
  | (call, f) :: steps => do
    let args ← Expr.evalAll s call.args
    let v ← s.applyFilter f (v :: args)
    Pipeline.runFilters s v steps

/-- The value of a pipeline, which fails if a called name is unknown. -/
def Pipeline.evalStrict (p : Pipeline) (s : Setting) : Action Value := do
  let filters ← p.filters.mapM fun call ↦ s.filter call.name
  let v ← p.base.eval s
  let v ← Pipeline.runFilters s v.orEmpty (p.filters.zip filters)
  return v.orEmpty

/-- The value of a pipeline. It is an empty text if a called name is unknown. -/
def Pipeline.eval (p : Pipeline) (s : Setting) : Action Value :=
  (p.evalStrict s).orIfUnknown (.plain "")

/-- Adds the values of an attribute list to a table. One that calls an unknown name is undefined. -/
def AttributeList.evalFrom (s : Setting) (table : Table Value) :
    List (String × Expr) → Action (Table Value)
  | [] => return table
  | (name, e) :: es => do
    let v ← (e.eval s).orIfUnknown .undefined
    AttributeList.evalFrom s (table.insert name v) es

/-- The map that an attribute list stands for. -/
def AttributeList.eval (a : AttributeList) (s : Setting) : Action Value := do
  return .ofTable (← AttributeList.evalFrom s .empty a.entries)

/-- The value of a parameter whose argument is not given. -/
def Param.defaultValue (p : Param) (s : Setting) : Action Value :=
  match p.default with
  | some e => (e.eval s).orIfUnknown .undefined
  | none => return .plain ""

/-- Binds parameters to arguments in the innermost frame, from first to last. Arguments beyond the
parameters are ignored. -/
def Param.bindAll (s : Setting) : List Param → List Value → Action Unit
  | [], _ => return ()
  | p :: ps, args => do
    let v ← match args with
      | v :: _ => pure v
      | [] => p.defaultValue s
    modify (·.set p.name v)
    Param.bindAll s ps args.tail

end Stencil
