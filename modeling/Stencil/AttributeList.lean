import Stencil.Pipeline

/-!
# Attribute lists

An attribute list is a row of assignments. The name of each stands between the last space in front
of its equals sign and the sign, and its value reaches up to the name of the next assignment. Values
in front of the first name go to a name of their own.
-/

namespace Stencil

/-- A list of named expressions. -/
structure AttributeList where
  /-- The names and their expressions. -/
  entries : List (String × Expr)

/-- A name without the blanks and then without the quotes around it. -/
def stripName (s : List Char) : List Char := Text.trimWhile Text.isQuote (Text.trim s)

namespace AttributeList

/-- Whether an operator makes the equals sign behind it a comparison. -/
def isComparisonStart (f : Fragment) : Bool :=
  f.isOperator ['<'] || f.isOperator ['>'] || f.isOperator ['!']

/-- The fragments up to each assignment, and those behind the last one. `before` holds the fragments
since the last assignment, the latest first, and `last` the fragment in front. -/
def segmentsFrom (before : List Fragment) (last : Option Fragment) :
    List Fragment → List (List Fragment) × List Fragment
  | [] => ([], before.reverse)
  | f :: fs =>
    if f.isOperator ['='] && !(last.map isComparisonStart).getD false then
      let (segments, rest) := segmentsFrom [] (some f) fs
      (before.reverse :: segments, rest)
    else segmentsFrom (f :: before) (some f) fs

/-- Splits the fragments in front of an assignment at the last space, into the value of the
assignment before and the name. -/
def splitName (segment : List Fragment) : List Fragment × List Fragment :=
  let trimmed := Fragment.trimSpaces segment
  let name := (trimmed.reverse.takeWhile fun f ↦ !f.isSpace).reverse
  (trimmed.take (trimmed.length - name.length - 1), name)

/-- The entry of a name with the value that fragments make up. Without a name and a value there is
none. -/
def entry? (defaultName : String) (key : Option String) (fs : List Fragment) :
    Except Error (Option (String × Expr)) :=
  let fs := Fragment.trimSpaces fs
  let name := key.getD defaultName
  if fs.isEmpty then
    if key.isNone then .ok none
    else .error (.syntaxError ("missing value for attribute `" ++ name ++ "`"))
  else (Expr.ofFragments fs).map fun e ↦ some (name, e)

/-- The entries from the name `key` on. -/
def entriesFrom (defaultName : String) (key : Option String) (rest : List Fragment) :
    List (List Fragment) → Except Error (List (String × Expr))
  | [] => do
    let last ← entry? defaultName key rest
    return last.toList
  | segment :: segments => do
    let (value, nameFragments) := splitName segment
    let entry ← entry? defaultName key value
    let name := stripName (Fragment.joinText nameFragments)
    if name.isEmpty then throw (.syntaxError "missing attribute name")
    let entries ← entriesFrom defaultName (some (String.ofList name)) rest segments
    return entry.toList ++ entries

/-- Reads an attribute list. -/
def read (source defaultName : String) : Except Error AttributeList := do
  let (segments, rest) := segmentsFrom [] none (Fragment.scan source.toList)
  return ⟨← entriesFrom defaultName none rest segments⟩

/-- The names in order. -/
def names (a : AttributeList) : List String := a.entries.map (·.1)

/-- The outline of an attribute list. -/
def outline (a : AttributeList) : String :=
  Text.Outline.record "CompiledAttribute"
    [("entries", Text.Outline.list
      (a.entries.map fun e ↦ Text.Outline.pair (Text.quote e.1) e.2.outline))]

end AttributeList

end Stencil
