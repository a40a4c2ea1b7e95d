import Stencil.Text.Quoted

/-!
# Outlines

An outline shows the structure of something for diagnosis, in one line: records with named fields,
constructors with one argument, lists and options.
-/

namespace Stencil.Text.Outline

/-- A record with named fields. -/
def record (name : String) (fields : List (String × String)) : String :=
  name ++ " \x7b " ++ ", ".intercalate (fields.map fun f ↦ f.1 ++ ": " ++ f.2) ++ " \x7d"

/-- A constructor with one argument. -/
def constructor (name argument : String) : String := name ++ "(" ++ argument ++ ")"

/-- A list. -/
def list (items : List String) : String := "[" ++ ", ".intercalate items ++ "]"

/-- A pair. -/
def pair (a b : String) : String := "(" ++ a ++ ", " ++ b ++ ")"

/-- An option. -/
def option (x : Option String) : String :=
  match x with
  | some s => constructor "Some" s
  | none => "None"

/-- A truth value. -/
def bool (b : Bool) : String := if b then "true" else "false"

/-- A list of names. -/
def names (ns : List String) : String := list (ns.map quote)

end Stencil.Text.Outline
