import Stencil.Text.Entity
import Stencil.Value.Written

/-!
# Escaping

What a template writes is escaped for markup unless it is safe or escaping is off.
-/

namespace Stencil

/-- How values are escaped when they are written. -/
inductive Escaping where
  /-- Not at all. -/
  | none
  /-- For markup. -/
  | html
deriving DecidableEq, Repr

namespace Escaping

/-- The name of the mode. -/
def name : Escaping → String
  | .none => "None"
  | .html => "Html"

/-- The text of a value as it is written. -/
def write (mode : Escaping) (v : Value) : List Char :=
  match mode with
  | .none => v.chars
  | .html => if v.isSafe then v.chars else Text.escapeMarkup v.chars

end Escaping

end Stencil
