import Stencil.Expr.Basic
import Stencil.Expr.Fragment
import Stencil.Text.Outline
import Stencil.Value.Written

/-!
# Outlines of expressions
-/

namespace Stencil

open Text (Outline.record Outline.constructor Outline.list Outline.pair)

/-- The name of a kind of fragments. -/
def FragmentKind.name : FragmentKind → String
  | .str => "Str"
  | .regex => "Regex"
  | .literal => "Literal"
  | .path => "Path"
  | .operator => "Operator"
  | .objectKey => "ObjectKey"
  | .other => "Opaque"

/-- The outline of a fragment. -/
def Fragment.outline (f : Fragment) : String :=
  Outline.constructor f.kind.name (Text.quote (String.ofList f.text))

/-- The name of an operator in front of its operand. -/
def UnaryOp.name : UnaryOp → String
  | .not => "Not"
  | .negate => "Neg"
  | .number => "Pos"

/-- The name of an operator between its operands. -/
def BinaryOp.name : BinaryOp → String
  | .eq => "Eq"
  | .ne => "Ne"
  | .strictEq => "StrictEq"
  | .strictNe => "StrictNe"
  | .lt => "Lt"
  | .le => "Lte"
  | .gt => "Gt"
  | .ge => "Gte"
  | .and => "ScAnd"
  | .or => "ScOr"
  | .add => "Add"
  | .sub => "Sub"
  | .mul => "Mul"
  | .div => "Div"
  | .rem => "Rem"

mutual

/-- The outline of an expression. -/
def Expr.outline : Expr → String
  | .const v => Outline.constructor "Const" v.describe
  | .path root names =>
    Outline.constructor "Path"
      (Outline.record "Path" [("root", Text.quote root), ("segments", Text.Outline.names names)])
  | .property e name =>
    Outline.constructor "GetAttr"
      (Outline.record "GetAttr" [("expr", e.outline), ("name", Text.quote name)])
  | .item e key =>
    Outline.constructor "GetItem"
      (Outline.record "GetItem" [("expr", e.outline), ("subscript_expr", key.outline)])
  | .call callee args =>
    Outline.constructor "Call"
      (Outline.record "Call"
        [("expr", callee.outline), ("args", Outline.list (Expr.outlines args))])
  | .unary op e =>
    Outline.constructor "UnaryOp" (Outline.record "UnaryOp" [("op", op.name), ("expr", e.outline)])
  | .binary op left right =>
    Outline.constructor "BinOp"
      (Outline.record "BinOp"
        [("op", op.name), ("left", left.outline), ("right", right.outline)])
  | .conditional test yes no =>
    Outline.constructor "IfExpr"
      (Outline.record "IfExpr"
        [("test_expr", test.outline), ("true_expr", yes.outline), ("false_expr", no.outline)])
  | .list items => Outline.constructor "List" (Outline.list (Expr.outlines items))
  | .map entries => Outline.constructor "Map" (Outline.list (Expr.entryOutlines entries))

/-- The outlines of a list of expressions. -/
def Expr.outlines : List Expr → List String
  | [] => []
  | e :: es => e.outline :: Expr.outlines es

/-- The outlines of the entries of a map. -/
def Expr.entryOutlines : List (String × Expr) → List String
  | [] => []
  | (key, e) :: es => Outline.pair (Text.quote key) e.outline :: Expr.entryOutlines es

end

end Stencil
