import Stencil.Expr.Basic
import Stencil.Expr.Token
import Stencil.Value.Written

/-!
# Parsing expressions

The grammar, from the weakest to the strongest: conditions, the binary operators on six levels (all
of them associate to the left), operators in front of their operand, and access and calls behind
one. Lists, maps and argument lists may end with a comma. How deeply expressions may be nested is
limited.
-/

namespace Stencil

/-- Reads a part of an expression from tokens. -/
abbrev Parser := StateT (List Token) (Except Error)

namespace Parser

/-- The next token has to be something else. -/
def unexpected {α : Type} (t : Token) (expected : String) : Parser α :=
  throw (.unexpected t.description expected)

/-- The tokens must not end here. -/
def unexpectedEnd {α : Type} (expected : String) : Parser α :=
  throw (.unexpected "end of expression" expected)

/-- Reads the next token. -/
def next (expected : String) : Parser Token := do
  match (← get) with
  | [] => unexpectedEnd expected
  | t :: ts =>
    set ts
    return t

/-- Whether the next token is the symbol. -/
def sees (s : Symbol) : Parser Bool := do
  match (← get) with
  | .symbol t :: _ => return t == s
  | _ => return false

/-- Passes over the symbol if it comes next. -/
def skip (s : Symbol) : Parser Bool := do
  if (← sees s) then
    modify List.tail
    return true
  else return false

/-- Passes over the symbol, which has to come next. -/
def expect (s : Symbol) : Parser Unit := do
  let expected := "`" ++ String.ofList s.text ++ "`"
  match (← next expected) with
  | .symbol t => if t == s then return () else unexpected (.symbol t) expected
  | t => unexpected t expected

/-- Everything has to have been read. -/
def finish : Parser Unit := do
  match (← get) with
  | [] => return ()
  | t :: _ => unexpected t "end of expression"

/-- Reads operands with operators between them, of which the first operand is `left`. The operators
associate to the left; the last argument exceeds their number. -/
def chain (op? : Symbol → Option BinaryOp) (operand : Parser Expr) (left : Expr) :
    Nat → Parser Expr
  | 0 => return left
  | fuel + 1 => do
    match (← get) with
    | .symbol s :: rest =>
      match op? s with
      | some op =>
        set rest
        let right ← operand
        chain op? operand (.binary op left right) fuel
      | none => return left
    | _ => return left

/-- Reads a level of binary operators. -/
def level (op? : Symbol → Option BinaryOp) (operand : Parser Expr) : Parser Expr := do
  let fuel := (← get).length
  let left ← operand
  chain op? operand left fuel

/-- The levels of binary operators, the weakest first. -/
def levels : List (Symbol → Option BinaryOp) := [
  fun | .or => some .or | _ => none,
  fun | .and => some .and | _ => none,
  fun
    | .eq => some .eq | .ne => some .ne | .strictEq => some .strictEq
    | .strictNe => some .strictNe | _ => none,
  fun | .lt => some .lt | .le => some .le | .gt => some .gt | .ge => some .ge | _ => none,
  fun | .plus => some .add | .minus => some .sub | _ => none,
  fun | .times => some .mul | .slash => some .div | .percent => some .rem | _ => none]

/-- Reads binary operators of all levels between operands. -/
def binary (operand : Parser Expr) : Parser Expr := levels.foldr level operand

/-- Reads items with commas between them up to a closing bracket, in front of which one more comma
may stand. The first argument exceeds the number of items. -/
def itemsUpTo {α : Type} (close : Symbol) (item : Parser α) : Nat → Parser (List α)
  | 0 => return []
  | fuel + 1 => do
    let x ← item
    if (← skip close) then return [x]
    expect .comma
    if (← skip close) then return [x]
    return x :: (← itemsUpTo close item fuel)

/-- Reads items up to a closing bracket. -/
def items {α : Type} (close : Symbol) (item : Parser α) : Parser (List α) := do
  if (← skip close) then return []
  itemsUpTo close item ((← get).length + 1)

/-- Reads an argument list with its parentheses. -/
def arguments (expr : Parser Expr) : Parser (List Expr) := do
  expect .parenOpen
  items .parenClose expr

/-- Reads an entry of a map. -/
def entry (expr : Parser Expr) : Parser (String × Expr) := do
  let key ← match (← next "object key") with
    | .objectKey key => pure (String.ofList key)
    | .path key => pure (String.ofList key)
    | .str key => pure key
    | .int n => pure (Number.integerText n)
    | .float x => pure (Value.float x).display
    | t => unexpected t "object key"
  expect .colon
  return (key, ← expr)

/-- The path with the given text. -/
def ofPath (text : List Char) : Expr :=
  match (Text.splitAtChar '.' text).map String.ofList with
  | [] => .path "" []
  | root :: names => .path root names

/-- Reads an expression that is no operator and has nothing behind it. -/
def primary (expr : Parser Expr) : Parser Expr := do
  match (← next "expression") with
  | .path text => return ofPath text
  | .str s => return .const (.plain s)
  | .int n => return .const (.int n)
  | .float x => return .const (.float x)
  | .bool b => return .const (.bool b)
  | .null => return .const .null
  | .undefined => return .const .undefined
  | .regex source flags =>
    match Regex.read (String.ofList source) (String.ofList flags) with
    | .ok r => return .const (.regex r)
    | .error e => throw e
  | .symbol .parenOpen => do
    let e ← expr
    expect .parenClose
    return e
  | .symbol .bracketOpen => return .list (← items .bracketClose expr)
  | .symbol .braceOpen => return .map (← items .braceClose (entry expr))
  | t => unexpected t "expression"

/-- Reads access and calls behind the expression `e`. The last argument exceeds their number. -/
def postfixes (expr : Parser Expr) (e : Expr) : Nat → Parser Expr
  | 0 => return e
  | fuel + 1 => do
    match (← get) with
    | .symbol .dot :: rest =>
      set rest
      match (← next "identifier") with
      | .identifier name => postfixes expr (.property e (String.ofList name)) fuel
      | t => unexpected t "identifier"
    | .symbol .bracketOpen :: rest =>
      set rest
      if (← sees .bracketClose) then throw (.syntaxError "empty subscript")
      let key ← expr
      expect .bracketClose
      postfixes expr (.item e key) fuel
    | .symbol .parenOpen :: _ =>
      let args ← arguments expr
      postfixes expr (.call e args) fuel
    | _ => return e

/-- The operator in front of an operand. -/
def unaryOp? : Symbol → Option UnaryOp
  | .bang => some .not
  | .minus => some .negate
  | .plus => some .number
  | _ => none

/-- Expressions are nested too deeply. -/
def tooDeep {α : Type} : Parser α := throw (.syntaxError "expression nested too deeply")

/-- Reads an expression of binary operators between operands, or a condition. -/
def conditional (operand branch : Parser Expr) : Parser Expr := do
  let test ← binary operand
  if (← skip .question) then
    let yes ← branch
    expect .colon
    let no ← branch
    return .conditional test yes no
  else return test

/-- Reads an operand: operators in front of one, or a primary expression, which nests `inner`
expressions, and what stands behind it, which nests `expr`. -/
def operand (expr inner : Parser Expr) (nested : Parser Expr) : Parser Expr := do
  let fuel := (← get).length
  let withoutOperator : Parser Expr := do
    let e ← primary inner
    postfixes expr e fuel
  match (← get) with
  | .symbol s :: rest =>
    match unaryOp? s with
    | some op =>
      set rest
      return .unary op (← nested)
    | none => withoutOperator
  | _ => withoutOperator

/-- Reads expressions, and operands, that may be nested to the given depth. -/
def nested : Nat → Parser Expr × Parser Expr
  | 0 => (tooDeep, tooDeep)
  | n + 1 =>
    let (expr, operand') := nested n
    let outer := conditional operand' expr
    (outer, operand outer expr operand')

/-- How deeply expressions may be nested. -/
def maxNesting : Nat := 150

/-- Reads an expression. -/
def expression : Parser Expr := (nested maxNesting).1

end Parser

namespace Expr

/-- The expression that tokens make up. -/
def ofTokens (tokens : List Token) : Except Error Expr := do
  if tokens.isEmpty then throw (.syntaxError "expression is empty")
  let (e, rest) ← Parser.expression.run tokens
  let _ ← Parser.finish.run rest
  return e

/-- The expression that fragments make up. -/
def ofFragments (fs : List Fragment) : Except Error Expr := do
  let tokens ← Token.ofFragments fs
  ofTokens tokens

/-- The arguments that fragments make up with the parentheses around them. -/
def argumentsOfFragments (fs : List Fragment) : Except Error (List Expr) := do
  let tokens ← Token.ofFragments fs
  let (args, rest) ← (Parser.arguments Parser.expression).run tokens
  let _ ← Parser.finish.run rest
  return args

end Expr

end Stencil
