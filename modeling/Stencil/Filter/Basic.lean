import Stencil.Escaping
import Stencil.Text.Outline
import Stencil.Value.Argument

/-!
# Filters

A filter makes a value of the value that it is applied to and of further arguments. It can see how
far the rendering is and look up variables, and change nothing.
-/

namespace Stencil

/-- What a filter can see of the rendering that it is part of. -/
structure FilterView where
  /-- How values are escaped. -/
  escaping : Escaping
  /-- How many calls of macros may be nested. -/
  callLimit : Nat
  /-- The names of the declared macros in order. -/
  macroNames : List String
  /-- How many calls of macros are going on. -/
  depth : Nat
  /-- The value of a variable. -/
  lookup : String → Option Value

/-- The outline of what a filter can see. -/
def FilterView.outline (view : FilterView) : String :=
  Text.Outline.record "State"
    [("auto_escape", view.escaping.name), ("macros", Text.Outline.names view.macroNames),
      ("depth", toString view.depth)]

/-- A filter, applied to the value and the arguments behind it. -/
abbrev Filter := FilterView → List Value → Except Error Value

/-- The filter that converts the value and then the arguments by their kinds. -/
def Filter.of (kind : ArgKind) (kinds : List ArgKind)
    (f : FilterView → kind.Carrier → Arguments kinds → Except Error Value) : Filter :=
  fun view vs ↦
    match kind.convert vs.head? with
    | .error e => .error e
    | .ok v =>
      match Arguments.ofValues kinds vs.tail with
      | .error e => .error e
      | .ok args => f view v args

/-- The filter that only looks at the converted value. -/
def Filter.ofMap (kind : ArgKind) (f : kind.Carrier → Except Error Value) : Filter :=
  Filter.of kind [] fun _ v _ ↦ f v

end Stencil
