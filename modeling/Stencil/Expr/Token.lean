import Stencil.Expr.Fragment
import Stencil.Number.Reader
import Stencil.Text.Literal

/-!
# Tokens

Tokens are the units of the grammar. Operators that touch each other are joined and cut again, the
longest operator first, so that operators scanned apart make one token; spaces separate them.
-/

namespace Stencil

/-- A token that is always written the same. -/
inductive Symbol where
  /-- The operator `===`. -/
  | strictEq
  /-- The operator `!==`. -/
  | strictNe
  /-- The operator `==`. -/
  | eq
  /-- The operator `!=`. -/
  | ne
  /-- The operator `<=`. -/
  | le
  /-- The operator `>=`. -/
  | ge
  /-- The operator `&&`. -/
  | and
  /-- The operator `||`. -/
  | or
  /-- The operator `!`. -/
  | bang
  /-- The operator `<`. -/
  | lt
  /-- The operator `>`. -/
  | gt
  /-- The operator `+`. -/
  | plus
  /-- The operator `-`. -/
  | minus
  /-- The operator `*`. -/
  | times
  /-- The operator `/`. -/
  | slash
  /-- The operator `%`. -/
  | percent
  /-- The question mark of a condition. -/
  | question
  /-- The colon of a condition or of a map entry. -/
  | colon
  /-- The equals sign. -/
  | assign
  /-- The comma. -/
  | comma
  /-- The bar. -/
  | pipe
  /-- The dot in front of a name. -/
  | dot
  /-- The bracket `(`. -/
  | parenOpen
  /-- The bracket `)`. -/
  | parenClose
  /-- The bracket `[`. -/
  | bracketOpen
  /-- The bracket `]`. -/
  | bracketClose
  /-- The opening brace. -/
  | braceOpen
  /-- The closing brace. -/
  | braceClose
deriving DecidableEq, Repr

/-- How a symbol is written. -/
def Symbol.text : Symbol → List Char
  | .strictEq => ['=', '=', '=']
  | .strictNe => ['!', '=', '=']
  | .eq => ['=', '=']
  | .ne => ['!', '=']
  | .le => ['<', '=']
  | .ge => ['>', '=']
  | .and => ['&', '&']
  | .or => ['|', '|']
  | .bang => ['!']
  | .lt => ['<']
  | .gt => ['>']
  | .plus => ['+']
  | .minus => ['-']
  | .times => ['*']
  | .slash => ['/']
  | .percent => ['%']
  | .question => ['?']
  | .colon => [':']
  | .assign => ['=']
  | .comma => [',']
  | .pipe => ['|']
  | .dot => ['.']
  | .parenOpen => ['(']
  | .parenClose => [')']
  | .bracketOpen => ['[']
  | .bracketClose => [']']
  | .braceOpen => ['\x7b']
  | .braceClose => ['\x7d']

/-- The symbols among operator characters, longer ones first. -/
def operatorSymbols : List Symbol :=
  [.strictEq, .strictNe, .eq, .ne, .le, .ge, .and, .or, .bang, .lt, .gt, .plus, .minus, .times,
    .slash, .percent, .question, .colon, .assign, .comma, .pipe]

/-- The brackets. -/
def bracketSymbols : List Symbol :=
  [.parenOpen, .parenClose, .bracketOpen, .bracketClose, .braceOpen, .braceClose]

/-- A unit of the grammar. -/
inductive Token where
  /-- Names joined by dots. -/
  | path (text : List Char)
  /-- A name behind a dot. -/
  | identifier (text : List Char)
  /-- The key of a map. -/
  | objectKey (text : List Char)
  /-- The text that a string stands for. -/
  | str (s : String)
  /-- An integer. -/
  | int (n : Int64)
  /-- A floating-point number. -/
  | float (x : Float)
  /-- A truth value. -/
  | bool (b : Bool)
  /-- The word `null`. -/
  | null
  /-- The word `undefined`. -/
  | undefined
  /-- A regular expression. -/
  | regex (source flags : List Char)
  /-- An operator or bracket. -/
  | symbol (s : Symbol)

namespace Token

/-- The token in words. -/
def description : Token → String
  | .path _ => "path"
  | .identifier _ => "identifier"
  | .objectKey _ => "object key"
  | .str _ => "string"
  | .int _ => "number"
  | .float _ => "number"
  | .bool _ => "literal"
  | .null => "literal"
  | .undefined => "literal"
  | .regex _ _ => "regex"
  | .symbol s => "`" ++ String.ofList s.text ++ "`"

/-- Cuts operator characters into symbols, the longest first, after passing over `skip` characters
of a symbol that has been found already. -/
def cutOperatorsFrom : Nat → List Char → Except Error (List Token)
  | _, [] => .ok []
  | skip + 1, _ :: cs => cutOperatorsFrom skip cs
  | 0, c :: cs =>
    match operatorSymbols.find? fun s ↦ s.text.isPrefixOf (c :: cs) with
    | some s =>
      match cutOperatorsFrom (s.text.length - 1) cs with
      | .ok rest => .ok (.symbol s :: rest)
      | .error e => .error e
    | none => .error (.syntaxError ("unexpected operator `" ++ String.ofList (c :: cs) ++ "`"))

/-- Cuts operator characters into symbols, the longest first. -/
def cutOperators (s : List Char) : Except Error (List Token) := cutOperatorsFrom 0 s

/-- The number that a word is: an integer if it fits, else a floating-point number if the word
starts with a digit. -/
def number? (s : List Char) : Option Token :=
  match Number.readInt64? s with
  | some n => some (.int n)
  | none =>
    if (s.head?.map Char.isDigit).getD false then (Number.readFloat? s).map .float else none

/-- The token of a literal. -/
def ofLiteral (s : List Char) : Except Error Token :=
  if s == "true".toList then .ok (.bool true)
  else if s == "false".toList then .ok (.bool false)
  else if s == "null".toList then .ok .null
  else if s == "undefined".toList then .ok .undefined
  else if s == "NaN".toList then .ok (.float Number.notANumber)
  else
    match number? s with
    | some t => .ok t
    | none => .error (.syntaxError ("invalid number `" ++ String.ofList s ++ "`"))

/-- The token of a regular expression: the source stands between the first and the last slash. -/
def ofRegex (s : List Char) : Except Error Token :=
  let flags := (s.reverse.takeWhile (· != '/')).reverse
  if flags.length + 1 < s.length then
    .ok (.regex ((s.drop 1).take (s.length - flags.length - 2)) flags)
  else .error (.syntaxError ("unterminated regex literal `" ++ String.ofList s ++ "`"))

/-- The tokens of a word that is neither literal nor path: names with a dot in front of each. -/
def ofDottedNames (s : List Char) : Except Error (List Token) :=
  let unexpected : Error := .syntaxError ("unexpected `" ++ String.ofList s ++ "`")
  match s with
  | '.' :: rest =>
    let names := Text.splitAtChar '.' rest
    if names.all fun name ↦ !name.isEmpty && name.all isNameChar then
      .ok (names.flatMap fun name ↦ [.symbol .dot, .identifier name])
    else .error unexpected
  | _ => .error unexpected

/-- The bracket with the given text. -/
def bracket? (s : List Char) : Option Token :=
  (bracketSymbols.find? fun b ↦ b.text == s).map .symbol

/-- Whether the fragment is joined with operators that touch it. -/
def isJoined (f : Fragment) : Bool :=
  f.kind == .operator && !f.isSpace && (bracket? f.text).isNone

/-- The tokens of a fragment that is not joined with others. Spaces have none. -/
def ofFragment (f : Fragment) : Except Error (List Token) :=
  match f.kind with
  | .operator => .ok (bracket? f.text).toList
  | .str => (Text.readLiteral f.text).map fun s ↦ [.str s]
  | .regex => (ofRegex f.text).map ([·])
  | .literal => (ofLiteral f.text).map ([·])
  | .path => .ok [(number? f.text).getD (.path f.text)]
  | .objectKey => .ok [.objectKey f.text]
  | .other => ofDottedNames f.text

/-- The tokens of fragments behind operator characters that have not been cut yet. -/
def ofFragmentsAfter (pending : List Char) : List Fragment → Except Error (List Token)
  | [] => cutOperators pending
  | f :: fs =>
    if isJoined f then ofFragmentsAfter (pending ++ f.text) fs
    else do
      let operators ← cutOperators pending
      let here ← ofFragment f
      let rest ← ofFragmentsAfter [] fs
      return operators ++ here ++ rest

/-- The tokens of fragments. -/
def ofFragments (fs : List Fragment) : Except Error (List Token) := ofFragmentsAfter [] fs

end Token

end Stencil
