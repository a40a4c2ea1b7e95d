import Stencil.Value.Basic

/-!
# Expressions

The expressions that templates are made of: constants, paths into the scope, access to properties
and items, calls, operators, conditions, lists and maps.
-/

namespace Stencil

/-- An operator in front of its operand. -/
inductive UnaryOp where
  /-- The opposite truth value. -/
  | not
  /-- The number with the opposite sign. -/
  | negate
  /-- The value as a number. -/
  | number
deriving DecidableEq, Repr

/-- An operator between its operands. -/
inductive BinaryOp where
  /-- Equality that converts. -/
  | eq
  /-- Inequality that converts. -/
  | ne
  /-- Equality that does not convert. -/
  | strictEq
  /-- Inequality that does not convert. -/
  | strictNe
  /-- Less than. -/
  | lt
  /-- Less than or equal. -/
  | le
  /-- Greater than. -/
  | gt
  /-- Greater than or equal. -/
  | ge
  /-- The left operand if it is false, else the right one. -/
  | and
  /-- The left operand if it is true, else the right one. -/
  | or
  /-- Sum, or texts joined. -/
  | add
  /-- Difference. -/
  | sub
  /-- Product. -/
  | mul
  /-- Quotient. -/
  | div
  /-- Remainder. -/
  | rem
deriving DecidableEq, Repr

/-- An expression. -/
inductive Expr where
  /-- A constant. -/
  | const (v : Value)
  /-- A name in the scope and the properties to follow from its value. -/
  | path (root : String) (names : List String)
  /-- A property of a value. -/
  | property (e : Expr) (name : String)
  /-- An item of a value. -/
  | item (e key : Expr)
  /-- A call. -/
  | call (callee : Expr) (args : List Expr)
  /-- An operator in front of its operand. -/
  | unary (op : UnaryOp) (e : Expr)
  /-- An operator between its operands. -/
  | binary (op : BinaryOp) (left right : Expr)
  /-- One of two expressions, as a condition says. -/
  | conditional (test yes no : Expr)
  /-- A list of expressions. -/
  | list (items : List Expr)
  /-- A map of expressions. -/
  | map (entries : List (String × Expr))

/-- The name that the expression consists of. -/
def Expr.asName? : Expr → Option String
  | .path root [] => some root
  | _ => none

end Stencil
