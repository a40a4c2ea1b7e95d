import Stencil.Filter.Builtin

/-!
# Environments

An environment holds what templates are rendered with: filters, which go before built-in ones of the
same name, the way of escaping, and how many calls of macros may be nested.
-/

namespace Stencil

/-- What templates are rendered with. -/
structure Environment where
  /-- The filters that were added, in the order of their names. -/
  filters : List (String × Filter)
  /-- The built-in filters. -/
  builtins : List (String × Filter)
  /-- How values are escaped. -/
  escaping : Escaping
  /-- How many calls of macros may be nested. -/
  callLimit : Nat

namespace Environment

/-- An environment without filters. -/
def empty : Environment := ⟨[], [], .html, 100⟩

/-- An environment with the built-in filters in the given surroundings. -/
def within (around : Filter.Surroundings) : Environment :=
  { empty with builtins := Filter.builtins around }

/-- An environment with the built-in filters. -/
def new : Environment := .within .standard

/-- Adds a filter. -/
def addFilter (env : Environment) (name : String) (f : Filter) : Environment :=
  { env with filters := Entries.insertOrdered name f env.filters }

/-- Removes a filter that was added. -/
def removeFilter (env : Environment) (name : String) : Environment :=
  { env with filters := env.filters.filter fun e ↦ e.1 != name }

/-- The filter with a name. -/
def filter? (env : Environment) (name : String) : Option Filter :=
  match Entries.get? name env.filters with
  | some f => some f
  | none => Entries.get? name env.builtins

/-- Whether the only filters are the built-in ones, in whatever surroundings. -/
def OnlyBuiltins (env : Environment) : Prop :=
  ∃ around, ∀ name f, env.filter? name = some f → (name, f) ∈ Filter.builtins around

/-- The outline of an environment. -/
def outline (env : Environment) : String :=
  Text.Outline.record "Environment"
    [("filters", Text.Outline.names (env.filters.map (·.1))),
      ("builtin_filters", Text.Outline.names (env.builtins.map (·.1))),
      ("auto_escape", env.escaping.name), ("recursion_limit", toString env.callLimit)]

/-- A filter that such an environment knows is built in under its name. -/
theorem OnlyBuiltins.exists_mem {env : Environment} (henv : env.OnlyBuiltins) {name : String}
    {f : Filter} (h : env.filter? name = some f) : ∃ around, (name, f) ∈ Filter.builtins around :=
  henv.imp fun _ hmem ↦ hmem name f h

/-- A new environment has only the built-in filters. -/
theorem onlyBuiltins_within (around : Filter.Surroundings) : (within around).OnlyBuiltins := by
  refine ⟨around, fun name f h ↦ ?_⟩
  exact Entries.mem_of_get? h

/-- So has one in the usual surroundings. -/
theorem onlyBuiltins_new : new.OnlyBuiltins := onlyBuiltins_within .standard

end Environment

end Stencil
