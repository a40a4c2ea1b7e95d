import Stencil.Expr.Outline
import Stencil.Expr.Parser
import Stencil.Expr.Scanner

/-!
# Pipelines

A pipeline is an expression followed by filters, with a bar in front of each. A filter may have
arguments in parentheses. The step `safe` is no filter: it marks the result as safe.
-/

namespace Stencil

/-- A filter in a pipeline. -/
structure FilterCall where
  /-- The name of the filter. -/
  name : String
  /-- The arguments behind the value. -/
  args : List Expr

/-- An expression and the filters that its value runs through. -/
structure Pipeline where
  /-- The source text without the blanks at its ends. -/
  source : String
  /-- The expression. -/
  base : Expr
  /-- The filters, the first one first. -/
  filters : List FilterCall
  /-- Whether the result is marked as safe. -/
  safe : Bool

/-- The fragments between those that satisfy `p`. -/
def Fragment.splitBy (p : Fragment → Bool) : List Fragment → List (List Fragment)
  | [] => [[]]
  | f :: fs =>
    if p f then [] :: splitBy p fs
    else
      match splitBy p fs with
      | [] => [[f]]
      | part :: parts => (f :: part) :: parts

/-- Whether the fragments stand between parentheses. -/
def Fragment.isParenthesized (fs : List Fragment) : Bool :=
  (fs.head?.map (·.isOperator ['('])).getD false &&
    (fs.getLast?.map (·.isOperator [')'])).getD false

namespace FilterCall

/-- The step of a pipeline that fragments make up, or nothing if it is the mark of safe results. -/
def ofFragments? (fs : List Fragment) : Except Error (Option FilterCall) :=
  match Fragment.trimSpaces fs with
  | [] => .error (.syntaxError "missing filter name")
  | name :: rest =>
    let rest := Fragment.trimSpaces rest
    if name.kind != .path then
      .error (.syntaxError ("expected filter name, got `" ++ String.ofList name.text ++ "`"))
    else if name.text == "safe".toList then .ok none
    else if rest.isEmpty then .ok (some ⟨String.ofList name.text, []⟩)
    else if Fragment.isParenthesized rest then
      (Expr.argumentsOfFragments rest).map fun args ↦ some ⟨String.ofList name.text, args⟩
    else
      .error (.syntaxError ("filter invalid: " ++ String.ofList (Fragment.joinText rest)))

/-- The outline of a filter. -/
def outline (f : FilterCall) : String :=
  Text.Outline.record "FilterCall"
    [("name", Text.quote f.name), ("args", Text.Outline.list (Expr.outlines f.args))]

end FilterCall

namespace Pipeline

/-- Whether the fragment stands between the steps of a pipeline. -/
def isBar (f : Fragment) : Bool := f.isOperator ['|']

/-- Reads a pipeline. -/
def read (source : String) : Except Error Pipeline := do
  let trimmed := Text.trim source.toList
  if trimmed.isEmpty then throw (.syntaxError "parse error, expression is empty")
  let segments := Fragment.splitBy isBar (Fragment.scan trimmed)
  let base ← Expr.ofFragments (segments.head?.getD [])
  let steps ← segments.tail.mapM FilterCall.ofFragments?
  return {
    source := String.ofList trimmed
    base
    filters := steps.filterMap id
    safe := steps.any Option.isNone }

/-- The names of the filters. -/
def filterNames (p : Pipeline) : List String := p.filters.map (·.name)

/-- The name that the expression calls, if it is a call of a name. -/
def calledName? (p : Pipeline) : Option String :=
  match p.base with
  | .call callee _ => callee.asName?
  | _ => none

/-- The outline of a pipeline. -/
def outline (p : Pipeline) : String :=
  Text.Outline.record "CompiledExpression"
    [("source", Text.quote p.source), ("base", p.base.outline),
      ("filters", Text.Outline.list (p.filters.map (·.outline))),
      ("safe", Text.Outline.bool p.safe)]

end Pipeline

end Stencil
