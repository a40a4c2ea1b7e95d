import Stencil.AttributeList
import Stencil.Text.Alphanumeric

/-!
# Signatures of macros

A signature is the name of a macro and its parameters in parentheses, with commas between them. A
parameter may have a default expression behind an equals sign; commas in brackets belong to it.
-/

namespace Stencil

/-- A parameter of a macro. -/
structure Param where
  /-- The name that the argument is bound to. -/
  name : String
  /-- The expression that takes the place of an argument that is not given. -/
  default : Option Expr

/-- The name and the parameters of a macro. -/
structure Signature where
  /-- The name of the macro. -/
  name : String
  /-- The parameters. -/
  params : List Param

namespace Signature

/-- Whether the text names a macro or a parameter. -/
def isIdentifier (s : List Char) : Bool :=
  match s with
  | [] => false
  | c :: _ => !c.isDigit && s.all fun c ↦ Text.isAlphanumeric c || c == '_' || c == '$'

/-- The brackets that are open behind an operator, each by the one that closes it. A closing bracket
closes nothing but the innermost one, if it fits. -/
def bracketsAfter (closing : List Char) (text : List Char) : List Char :=
  match text with
  | [c] =>
    match bracketPairs.lookup c with
    | some close => close :: closing
    | none => if closing.head? == some c then closing.tail else closing
  | _ => closing

/-- The fragments between the commas outside of all brackets. -/
def splitArguments (closing : List Char) : List Fragment → List (List Fragment)
  | [] => [[]]
  | f :: fs =>
    if f.isOperator [','] && closing.isEmpty then [] :: splitArguments closing fs
    else
      let closing := if f.kind == .operator then bracketsAfter closing f.text else closing
      match splitArguments closing fs with
      | [] => [[f]]
      | part :: parts => (f :: part) :: parts

/-- Reads a parameter. -/
def readParam (fs : List Fragment) : Except Error Param := do
  let isAssign (f : Fragment) : Bool := f.isOperator ['=']
  let key := fs.takeWhile fun f ↦ !isAssign f
  let keyText := Fragment.joinText key
  let name := stripName keyText
  if !isIdentifier name then
    throw (.syntaxError ("invalid macro parameter `" ++ String.ofList (Text.trim keyText) ++ "`"))
  match fs.drop key.length with
  | [] => return ⟨String.ofList name, none⟩
  | _ :: default =>
    if default.all Fragment.isSpace then
      throw (.syntaxError
        ("missing default value for macro parameter `" ++ String.ofList name ++ "`"))
    return ⟨String.ofList name, some (← Expr.ofFragments default)⟩

/-- Reads parameters. The last one may be left out behind a comma. -/
def readParams : List (List Fragment) → Except Error (List Param)
  | [] => .ok []
  | part :: parts => do
    if part.all Fragment.isSpace then
      if parts.isEmpty then return [] else throw (.syntaxError "empty macro parameter")
    let param ← readParam part
    return param :: (← readParams parts)

/-- Splits a signature into the name and the text between its first opening and its last closing
parenthesis. -/
def splitSource (source : List Char) : Except Error (List Char × List Char) :=
  let name := source.takeWhile (· != '(')
  match source.drop name.length with
  | [] => .ok (source, [])
  | _ :: rest =>
    let after := (rest.reverse.takeWhile (· != ')')).reverse
    if name.isEmpty then .error (.syntaxError "missing macro name")
    else if after.length = rest.length then .error (.syntaxError "unclosed macro argument list")
    else if !(Text.trim after).isEmpty then
      .error (.syntaxError
        ("unexpected `" ++ String.ofList (Text.trim after) ++ "` after macro arguments"))
    else .ok (Text.trim name, Text.trim (rest.take (rest.length - after.length - 1)))

/-- Reads a signature. -/
def read (source : String) : Except Error Signature := do
  let (name, args) ← splitSource (Text.trim source.toList)
  if !isIdentifier name then
    throw (.syntaxError ("invalid macro name `" ++ String.ofList name ++ "`"))
  let params ← if args.isEmpty then pure [] else readParams (splitArguments [] (Fragment.scan args))
  return ⟨String.ofList name, params⟩

/-- The outline of a signature. -/
def outline (s : Signature) : String :=
  let param (p : Param) : String := Text.Outline.record "MacroParam"
    [("name", Text.quote p.name), ("default", Text.Outline.option (p.default.map Expr.outline))]
  Text.Outline.record "MacroSignature"
    [("name", Text.quote s.name), ("params", Text.Outline.list (s.params.map param))]

end Signature

end Stencil
