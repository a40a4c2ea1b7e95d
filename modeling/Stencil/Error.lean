import Stencil.Text.Quoted

/-!
# Errors

An error has a kind, an optional detail and the chain of causes that it was raised from, the
nearest first.
-/

namespace Stencil

/-- What sort of failure an error reports. -/
inductive ErrorKind where
  /-- A source text does not follow its grammar. -/
  | syntaxError
  /-- A filter is neither registered nor built in. -/
  | unknownFilter
  /-- An operation cannot be carried out on its operands. -/
  | invalidOperation
  /-- A filter or method was given arguments that it cannot take. -/
  | invalidArguments
  /-- A called name is neither a variable nor a declared macro. -/
  | undefinedVariable
  /-- A string literal holds an escape without a meaning. -/
  | badEscape
  /-- Data cannot be converted into a value. -/
  | badSerialization
deriving DecidableEq, Repr

/-- The name of the kind. -/
def ErrorKind.name : ErrorKind → String
  | .syntaxError => "SyntaxError"
  | .unknownFilter => "UnknownFilter"
  | .invalidOperation => "InvalidOperation"
  | .invalidArguments => "InvalidArguments"
  | .undefinedVariable => "UndefinedVariable"
  | .badEscape => "BadEscape"
  | .badSerialization => "BadSerialization"

/-- The kind in words, the start of every message. -/
def ErrorKind.description : ErrorKind → String
  | .syntaxError => "syntax error"
  | .unknownFilter => "unknown filter"
  | .invalidOperation => "invalid operation"
  | .invalidArguments => "invalid arguments"
  | .undefinedVariable => "undefined variable"
  | .badEscape => "bad string escape"
  | .badSerialization => "could not serialize to internal format"

/-- One link in a chain of errors. -/
structure Cause where
  /-- What sort of failure it is. -/
  kind : ErrorKind
  /-- What exactly failed. -/
  detail : Option String
deriving DecidableEq, Repr

/-- A failure and the failures behind it. -/
structure Error extends Cause where
  /-- The causes behind this error, the nearest first. -/
  sources : List Cause := []
deriving DecidableEq, Repr

/-- The kind in words, followed by the detail if there is one. -/
def Cause.message (c : Cause) : String :=
  match c.detail with
  | some detail => c.kind.description ++ ": " ++ detail
  | none => c.kind.description

namespace Error

/-- An error with a detail. -/
def new (kind : ErrorKind) (detail : String) : Error := { kind, detail := some detail }

/-- An error that its kind says everything about. -/
def ofKind (kind : ErrorKind) : Error := { kind, detail := none }

/-- The message of the error itself. -/
def message (e : Error) : String := e.toCause.message

/-- The error with another one as its cause. -/
def withSource (e source : Error) : Error :=
  { e with sources := source.toCause :: source.sources }

/-- The nearest cause, itself an error. -/
def source? (e : Error) : Option Error :=
  match e.sources with
  | [] => none
  | c :: cs => some { toCause := c, sources := cs }

/-- Errors are alike when they are of one kind. -/
def alike (a b : Error) : Bool := a.kind == b.kind

private def describeChain (c : Cause) (behind : Option String) : String :=
  let detail := match c.detail with
    | some d => ", detail: " ++ Text.quote d
    | none => ""
  let source := match behind with
    | some s => ", source: " ++ s
    | none => ""
  "Error \x7b kind: " ++ c.kind.name ++ detail ++ source ++ " \x7d"

/-- The structure of the error with all its causes, for diagnosis. -/
def describe (e : Error) : String :=
  let behind := e.sources.foldr (fun c rest ↦ some (describeChain c rest)) none
  describeChain e.toCause behind

/-! ### Errors without a home of their own -/

/-- A source text that breaks a rule of its grammar. -/
def syntaxError (detail : String) : Error := new .syntaxError detail

/-- Something other than what the grammar asks for. -/
def unexpected (found expected : String) : Error :=
  syntaxError ("unexpected " ++ found ++ ", expected " ++ expected)

/-- An escape in a string literal that has no meaning. -/
def badEscape : Error := ofKind .badEscape

/-- A filter that no one registered. -/
def unknownFilter (name : String) : Error := new .unknownFilter name

/-- A called name that is neither a variable nor a macro. -/
def undefinedVariable (name : String) : Error :=
  new .undefinedVariable ("`" ++ name ++ "` is not defined")

/-- A value could not be written. -/
def formatting : Error := new .invalidOperation "formatting failed"

/-- A failure that data reports while it is converted. -/
def custom (detail : String) : Error := new .badSerialization detail

/-- Whether the error only says that a called name is unknown. -/
def isUndefinedVariable (e : Error) : Bool := e.kind == .undefinedVariable

end Error

/-- Steps that succeed together succeed one after the other. -/
theorem exists_of_bind_eq_ok {α β : Type} {r : Except Error α} {f : α → Except Error β} {y : β}
    (h : (r >>= f) = .ok y) : ∃ x, r = .ok x ∧ f x = .ok y := by
  cases r with
  | error e => cases h
  | ok x => exact ⟨x, rfl, h⟩

/-- A result that is mapped to a success is one. -/
theorem exists_of_map_eq_ok {α β : Type} {r : Except Error α} {f : α → β} {y : β}
    (h : r.map f = .ok y) : ∃ x, r = .ok x ∧ f x = y := by
  cases r with
  | error e => cases h
  | ok x =>
    cases h
    exact ⟨x, rfl, rfl⟩

end Stencil
