import Stencil.Pattern.Expr
import Stencil.Text.Alphanumeric
import Stencil.Text.Hex
import Stencil.Text.Search

/-!
# Reading patterns

A pattern is read from left to right. Letters in a group such as `(?i)` switch between modes, which
hold until the end of the enclosing group. There are no conditions on what stands further ahead or
behind, and no references to groups.
-/

namespace Stencil.Pattern

/-- The modes that a pattern is read in. -/
structure Mode where
  /-- Letter case makes no difference. -/
  ignoreCase : Bool := false
  /-- `^` and `$` stand at lines. -/
  multiLine : Bool := false
  /-- The dot matches line feeds as well. -/
  dotAll : Bool := false
  /-- Repetitions are greedy with a question mark and not without. -/
  swapGreed : Bool := false
  /-- Classes hold characters beyond ASCII. -/
  unicode : Bool := true
  /-- Lines may also end with carriage returns. -/
  crlf : Bool := false
  /-- Blanks and comments are skipped. -/
  spaced : Bool := false
deriving DecidableEq, Repr

/-- Switches the mode with the given letter. -/
def Mode.switch? (m : Mode) (letter : Char) (on : Bool) : Option Mode :=
  match letter with
  | 'i' => some { m with ignoreCase := on }
  | 'm' => some { m with multiLine := on }
  | 's' => some { m with dotAll := on }
  | 'U' => some { m with swapGreed := on }
  | 'u' => some { m with unicode := on }
  | 'R' => some { m with crlf := on }
  | 'x' => some { m with spaced := on }
  | _ => none

/-- Switches modes on, and off those behind a minus sign. -/
def Mode.switchAll? (on : Bool) (m : Mode) : List Char → Option Mode
  | [] => some m
  | c :: cs =>
    if c = '-' then m.switchAll? false cs
    else (m.switch? c on).bind fun m ↦ m.switchAll? on cs

/-- What remains to be read, and what has been seen. -/
structure Cursor where
  /-- The rest of the pattern. -/
  rest : List Char
  /-- The modes at this place. -/
  mode : Mode
  /-- The number of groups so far. -/
  groups : Nat
  /-- The named groups so far. -/
  names : List (List Char × Nat)

/-- Reads a part of a pattern, or fails. -/
abbrev Reader := StateT Cursor Option

/-- What a part of a pattern stands for, and how deeply operators are nested in it. -/
structure Nested (α : Type) where
  /-- What the part stands for. -/
  value : α
  /-- The greatest number of operators on top of each other. -/
  depth : Nat

/-- A part without operators. -/
def Nested.flat (value : α) : Nested α := ⟨value, 0⟩

/-- What an operator makes of a part. -/
def Nested.under (part : Nested α) (value : β) : Nested β := ⟨value, part.depth + 1⟩

/-- The depth of parts that are joined. Joining one part takes no operator. -/
def joinedDepth (depths : List Nat) : Nat :=
  match depths with
  | [] => 0
  | [depth] => depth
  | depths => depths.foldl max 0 + 1

/-- A part of a pattern that nothing further belongs to. -/
inductive Item where
  /-- A character that stands for itself. -/
  | char (c : Char)
  /-- A class of characters. -/
  | set (s : CharSet)
  /-- A condition on the place. -/
  | look (k : Look)

/-- Drops blanks, and comments from a number sign to the end of the line. -/
def dropBlanks (inComment : Bool) : List Char → List Char
  | [] => []
  | c :: cs =>
    if inComment then dropBlanks (c != '\n') cs
    else if Text.isBlank c then dropBlanks false cs
    else if c = '#' then dropBlanks true cs
    else c :: cs

namespace Reader

/-- The rest of the pattern. -/
def rest : Reader (List Char) := do return (← get).rest

/-- The next character. -/
def peek : Reader (Option Char) := do return (← rest).head?

/-- Passes over `n` characters. -/
def advance (n : Nat) : Reader Unit := modify fun c ↦ { c with rest := c.rest.drop n }

/-- Passes over blanks and comments where the mode has them skipped. -/
def skipBlanks : Reader Unit :=
  modify fun c ↦ if c.mode.spaced then { c with rest := dropBlanks false c.rest } else c

/-- Passes over one character and the blanks behind it. -/
def next : Reader Unit := do advance 1; skipBlanks

/-- The modes at this place. -/
def mode : Reader Mode := do return (← get).mode

/-- Changes the modes from here on. -/
def setMode (m : Mode) : Reader Unit := modify fun c ↦ { c with mode := m }

/-- Passes over the character `c`, which has to come next. -/
def expect (c : Char) : Reader Unit := do
  unless (← peek) == some c do failure
  advance 1

/-- Reads characters for as long as they satisfy `p`, blanks between them being skipped, but at
most as many as the first argument says. -/
def collectUpTo (p : Char → Bool) : Nat → Reader (List Char)
  | 0 => pure []
  | n + 1 => do
    match (← peek) with
    | some c => if p c then do next; return c :: (← collectUpTo p n) else return []
    | none => return []

/-- Reads characters for as long as they satisfy `p`. -/
def collect (p : Char → Bool) : Reader (List Char) := do
  collectUpTo p (← rest).length

/-! ### Sets -/

/-- A set as it is meant in a mode: closed under letter case, and complemented if `negated`. Without
Unicode a set has to stay inside ASCII. -/
def setIn (m : Mode) (negated : Bool) (s : CharSet) : Option CharSet :=
  let closed :=
    if !m.ignoreCase then s else if m.unicode then .folded s else .foldedAscii s
  let result := closed.negatedIf negated
  if m.unicode || result.isAscii then some result else none

/-- What the dot stands for. -/
def anyChar (m : Mode) : Option CharSet :=
  if !m.unicode then none
  else if m.dotAll then some .all
  else if m.crlf then some (.diff .all (.ranges [(0x0A, 0x0A), (0x0D, 0x0D)]))
  else some (.diff .all (.single '\n'))

/-- What a backslash and one of the letters `dswDSW` stand for. -/
def letterClass (m : Mode) (letter : Char) : Option CharSet :=
  let s := match letter.toLower with
    | 'd' => CharSet.digit m.unicode
    | 's' => CharSet.blank m.unicode
    | _ => CharSet.word m.unicode
  let result := s.negatedIf letter.isUpper
  if m.unicode || result.isAscii then some result else none

/-! ### Escapes -/

/-- Reads exactly `n` hexadecimal digits after the number `acc`. -/
def hexDigits : (n acc : Nat) → Reader Nat
  | 0, acc => pure acc
  | n + 1, acc => do
    let some c ← peek | failure
    let some d := Text.hexValue? c | failure
    next
    hexDigits n (16 * acc + d)

/-- Reads a character by its code point, behind the letter `x`, `u` or `U`. -/
def codePoint (letter : Char) : Reader Char := do
  next
  let n ← match (← peek) with
    | some '\x7b' => do
      next
      let digits ← collect (· != '\x7d')
      expect '\x7d'
      skipBlanks
      if digits.isEmpty then failure
      match Text.readHex? 0 digits with
      | some n => pure n
      | none => failure
    | _ => hexDigits (match letter with | 'x' => 2 | 'u' => 4 | _ => 8) 0
  if n < 0xD800 ∨ (0xDFFF < n ∧ n < 0x110000) then return Char.ofNat n else failure

/-- Reads a class by a property, behind the letter `p` or `P`. -/
def propertyClass (negated : Bool) : Reader CharSet := do
  next
  let some c ← peek | failure
  let m ← mode
  unless m.unicode do failure
  if c = '\x7b' then
    next
    let name ← collect (· != '\x7d')
    expect '\x7d'
    let value (sep : List Char) := (Text.indexOf? sep name).map fun i ↦
      CharSet.propertyValue? (name.take i) (name.drop (i + sep.length))
    let (s, negated) := match value ['!', '='], value [':'], value ['='] with
      | some s, _, _ => (s, !negated)
      | none, some s, _ => (s, negated)
      | none, none, some s => (s, negated)
      | none, none, none => (CharSet.property? name, negated)
    match s.bind (setIn m negated) with
    | some s => return s
    | none => failure
  else
    if c = '\\' then failure
    next
    match (CharSet.property? [c]).bind (setIn m negated) with
    | some s => return s
    | none => failure

/-- Reads the name in braces that may stand behind `\b`. Braces that start with anything but a
letter or a hyphen are left for a repetition. -/
def boundary (unicode : Bool) : Reader Look := do
  let isNameChar (c : Char) : Bool := c.isAlpha || c == '-'
  let before ← get
  if (← peek) != some '\x7b' then return .wordBoundary unicode false
  next
  let some c ← peek | failure
  if !isNameChar c then
    set before
    return .wordBoundary unicode false
  let name ← collect isNameChar
  expect '\x7d'
  match String.ofList name with
  | "start" => return .wordStart unicode
  | "end" => return .wordEnd unicode
  | "start-half" => return .wordStartHalf unicode
  | "end-half" => return .wordEndHalf unicode
  | _ => failure

/-- Whether a backslash in front of the character makes it stand for itself. -/
def isEscapable (c : Char) : Bool :=
  c.toNat < 128 && !c.isAlphanum && c != '<' && c != '>'

/-- Reads a backslash and what belongs to it. -/
def escape : Reader Item := do
  advance 1
  let some c ← peek | failure
  let m ← mode
  match c with
  | 'x' | 'u' | 'U' => return .char (← codePoint c)
  | 'p' | 'P' => return .set (← propertyClass (c == 'P'))
  | 'd' | 's' | 'w' | 'D' | 'S' | 'W' =>
    advance 1
    match letterClass m c with
    | some s => return .set s
    | none => failure
  | _ =>
    advance 1
    match c with
    | 'a' => return .char '\x07'
    | 'f' => return .char '\x0c'
    | 't' => return .char '\t'
    | 'n' => return .char '\n'
    | 'r' => return .char '\r'
    | 'v' => return .char '\x0b'
    | 'A' => return .look .textStart
    | 'z' => return .look .textEnd
    | 'b' => return .look (← boundary m.unicode)
    | 'B' => return .look (.wordBoundary m.unicode true)
    | '<' => return .look (.wordStart m.unicode)
    | '>' => return .look (.wordEnd m.unicode)
    | _ => if isEscapable c then return .char c else failure

/-! ### Classes in brackets -/

/-- An operation between two parts of a class. -/
inductive SetOperation where
  /-- The characters of both parts. -/
  | inter
  /-- The characters that the second part lacks. -/
  | diff
  /-- The characters of exactly one part. -/
  | symmDiff

/-- Applies an operation; in a mode without letter case both parts are closed under it before. -/
def SetOperation.apply (op : SetOperation) (m : Mode) (a b : CharSet) : CharSet :=
  let close (s : CharSet) : CharSet :=
    if !m.ignoreCase then s else if m.unicode then .folded s else .foldedAscii s
  match op with
  | .inter => .inter (close a) (close b)
  | .diff => .diff (close a) (close b)
  | .symmDiff => .symmDiff (close a) (close b)

/-- The items after the last operation of a class, the latest first, joined and made the second part
of the operation that is pending. -/
def resolve (m : Mode) (pending : Option (SetOperation × Nested CharSet))
    (items : List (Nested CharSet)) : Nested CharSet :=
  let joined : Nested CharSet :=
    ⟨CharSet.unions (items.reverse.map (·.value)), joinedDepth (items.map (·.depth))⟩
  match pending with
  | some (op, a) => ⟨op.apply m a.value joined.value, joinedDepth [a.depth, joined.depth]⟩
  | none => joined

/-- Reads a class such as `[:alpha:]`. If there is none, nothing is read. -/
def namedClass : Reader (Option (Bool × CharSet)) := do
  match (← rest) with
  | '[' :: ':' :: cs =>
    let (negated, cs) := match cs with
      | '^' :: cs => (true, cs)
      | _ => (false, cs)
    let name := cs.takeWhile (· != ':')
    match cs.drop name.length, CharSet.asciiClass? (String.ofList name) with
    | ':' :: ']' :: after, some s =>
      modify fun c ↦ { c with rest := after }
      return some (negated, s)
    | _, _ => return none
  | _ => return none

/-- Reads one character of a class, or an escape. -/
def classItem : Reader Item := do
  let some c ← peek | failure
  if c = '\\' then escape
  else
    advance 1
    return .char c

/-- The set of a single item of a class. -/
def itemSet (m : Mode) : Item → Option CharSet
  | .char c => if m.unicode || c.toNat < 128 then some (.single c) else none
  | .set s => some s
  | .look _ => none

/-- Reads an item of a class, or a range between two characters. A hyphen in front of a bracket or
of another hyphen makes no range. -/
def classRange : Reader CharSet := do
  let m ← mode
  let first ← classItem
  skipBlanks
  let cs ← rest
  let ahead := if m.spaced then dropBlanks false (cs.drop 1) else cs.drop 1
  if cs.isEmpty then failure
  if cs.head? != some '-' || ahead.head? == some ']' || ahead.head? == some '-' then
    match itemSet m first with
    | some s => return s
    | none => failure
  else
    next
    match first, (← classItem) with
    | .char a, .char b =>
      if a ≤ b && (m.unicode || b.toNat < 128) then return .ranges [(a.toNat, b.toNat)] else failure
    | _, _ => failure

/-- Reads the start of a class: the bracket, a circumflex that negates the class, and the hyphens or
the closing bracket that stand for themselves. -/
def openClass : Reader (Bool × List (Nested CharSet)) := do
  next
  let negated := (← peek) == some '^'
  if negated then next
  let hyphens ← collect (· == '-')
  if !hyphens.isEmpty then return (negated, hyphens.map fun c ↦ .flat (.single c))
  if (← peek) == some ']' then
    next
    return (negated, [.flat (.single ']')])
  return (negated, [])

mutual

/-- Reads a class in brackets. The argument exceeds twice the length of the rest. -/
def bracketClass : Nat → Reader (Nested CharSet)
  | 0 => failure
  | fuel + 1 => do
    let (negated, start) ← openClass
    let inside ← classItems fuel none start
    match setIn (← mode) negated inside.value with
    | some s => return inside.under s
    | none => failure

/-- Reads a class from its items to the closing bracket: `items` are those after the pending
operation, the latest first. -/
def classItems : Nat → Option (SetOperation × Nested CharSet) → List (Nested CharSet) →
    Reader (Nested CharSet)
  | 0, _, _ => failure
  | fuel + 1, pending, items => do
    skipBlanks
    let m ← mode
    let operate (op : SetOperation) : Reader (Nested CharSet) := do
      advance 2
      classItems fuel (some (op, resolve m pending items)) []
    match (← rest) with
    | [] => failure
    | ']' :: _ => do
      advance 1
      return resolve m pending items
    | '[' :: _ =>
      match (← namedClass) with
      | some (negated, named) =>
        match setIn m negated named with
        | some named => classItems fuel pending (.flat named :: items)
        | none => failure
      | none =>
        let nested ← bracketClass fuel
        classItems fuel pending (nested :: items)
    | '&' :: '&' :: _ => operate .inter
    | '-' :: '-' :: _ => operate .diff
    | '~' :: '~' :: _ => operate .symmDiff
    | _ =>
      let r ← classRange
      classItems fuel pending (.flat r :: items)

end

/-! ### Groups and repetitions -/

/-- The start of a group. -/
inductive GroupStart where
  /-- A group that remembers what it matches. -/
  | capture (index : Nat)
  /-- A group with modes of its own. -/
  | scoped (m : Mode)
  /-- Only a change of modes. -/
  | directive (m : Mode)

/-- Whether the character may stand in the name of a group. -/
def isGroupNameChar (first : Bool) (c : Char) : Bool :=
  if first then c == '_' || Text.isAlphabetic c
  else c == '_' || c == '.' || c == '[' || c == ']' || Text.isAlphanumeric c

/-- Reads the name of a group and the angle bracket behind it. -/
def groupName : Reader (List Char) := do
  let name := (← rest).takeWhile (· != '>')
  advance name.length
  expect '>'
  match name with
  | [] => failure
  | c :: cs =>
    if isGroupNameChar true c && cs.all (isGroupNameChar false) then return name else failure

/-- The number of the next group, which may have a name that no other group has. -/
def openGroup (name : Option (List Char)) : Reader GroupStart := do
  let cursor ← get
  let index := cursor.groups + 1
  match name with
  | some name =>
    if (cursor.names.lookup name).isSome then failure
    set { cursor with groups := index, names := cursor.names ++ [(name, index)] }
  | none => set { cursor with groups := index }
  return .capture index

/-- Reads the letters that switch modes, and the character that ends them. -/
def modeLetters : Reader GroupStart := do
  let letters := (← rest).takeWhile fun c ↦ c != ':' && c != ')'
  advance letters.length
  let some stop ← peek | failure
  advance 1
  if letters.getLast? == some '-' || letters.eraseDups != letters then failure
  match (← mode).switchAll? true letters with
  | none => failure
  | some m =>
    if stop = ':' then return .scoped m
    else if letters.isEmpty then failure
    else return .directive m

/-- Reads the start of a group, behind its parenthesis. -/
def groupStart : Reader GroupStart := do
  skipBlanks
  match (← rest) with
  | '?' :: '=' :: _ | '?' :: '!' :: _ | '?' :: '<' :: '=' :: _ | '?' :: '<' :: '!' :: _ => failure
  | '?' :: 'P' :: '<' :: _ => do
    advance 3
    openGroup (some (← groupName))
  | '?' :: '<' :: _ => do
    advance 2
    openGroup (some (← groupName))
  | '?' :: _ => do
    advance 1
    modeLetters
  | _ => openGroup none

/-- Reads a decimal number below 2^32, with blanks around it. -/
def count : Reader Nat := do
  modify fun c ↦ { c with rest := c.rest.dropWhile Text.isBlank }
  let digits ← collect Char.isDigit
  modify fun c ↦ { c with rest := c.rest.dropWhile Text.isBlank }
  skipBlanks
  if digits.isEmpty then failure
  let n := digits.foldl (fun n d ↦ 10 * n + (d.toNat - 48)) 0
  if n < UInt32.size then return n else failure

/-- Reads the numbers of a repetition, from brace to brace. -/
def counts : Reader (Nat × Option Nat) := do
  next
  let min ← count
  let max ← match (← peek) with
    | some ',' => do
      next
      if (← peek) == some '\x7d' then pure none else some <$> count
    | _ => pure (some min)
  expect '\x7d'
  skipBlanks
  match max with
  | some max => if min ≤ max then return (min, some max) else failure
  | none => return (min, none)

/-- Repeats the last item. A question mark behind the operator turns its greed around. There has to
be an item, and it must not be a change of modes. -/
def repeatLast (min : Nat) (max : Option Nat) (items : List (Option (Nested Expr))) :
    Reader (List (Option (Nested Expr))) := do
  let lazy := (← peek) == some '?'
  if lazy then advance 1
  match items with
  | some e :: before =>
    return some (e.under (.times e.value min max ((!lazy) != (← mode).swapGreed))) :: before
  | _ => failure

/-- The expression of one character in a mode. -/
def charExpr (m : Mode) (c : Char) : Expr :=
  if !m.ignoreCase then .set (.single c)
  else if m.unicode then .set (.folded (.single c))
  else .set (.foldedAscii (.single c))

/-- Reads an item that is neither a class, a group nor an operator. -/
def simpleItem (c : Char) : Reader Expr := do
  let m ← mode
  match c with
  | '\\' =>
    match (← escape) with
    | .char c => return charExpr m c
    | .set s => return .set s
    | .look k => return .look k
  | '.' =>
    advance 1
    match anyChar m with
    | some s => return .set s
    | none => failure
  | '^' =>
    advance 1
    return .look (if m.multiLine then .lineStart m.crlf else .textStart)
  | '$' =>
    advance 1
    return .look (if m.multiLine then .lineEnd m.crlf else .textEnd)
  | _ =>
    advance 1
    return charExpr m c

/-- The items of an alternative, the latest first, one behind the other. A change of modes is an
item too, although nothing is left of it. -/
def sequence (items : List (Option (Nested Expr))) : Nested Expr :=
  ⟨.concat ((items.reverse.filterMap id).map (·.value)),
    joinedDepth (items.map fun item ↦ (item.map (·.depth)).getD 0)⟩

/-- The choice between alternatives, the latest first. -/
def choose (alternatives : List (Nested Expr)) : Nested Expr :=
  ⟨.choose (alternatives.reverse.map (·.value)), joinedDepth (alternatives.map (·.depth))⟩

/-- Reads alternatives up to the end of the pattern, or of the group if they are `nested`. The first
argument exceeds twice the length of the rest. -/
def expression : Nat → Bool → List (Nested Expr) → List (Option (Nested Expr)) →
    Reader (Nested Expr)
  | 0, _, _, _ => failure
  | fuel + 1, nested, done, items => do
    skipBlanks
    let alternatives := sequence items :: done
    match (← peek) with
    | none => if nested then failure else return choose alternatives
    | some ')' =>
      advance 1
      if nested then return choose alternatives else failure
    | some '|' =>
      advance 1
      expression fuel nested alternatives []
    | some '(' =>
      let outer ← mode
      advance 1
      match (← groupStart) with
      | .directive m =>
        setMode m
        expression fuel nested done (none :: items)
      | .scoped m =>
        setMode m
        let e ← expression fuel true [] []
        setMode outer
        expression fuel nested done (some (e.under e.value) :: items)
      | .capture i =>
        let e ← expression fuel true [] []
        setMode outer
        expression fuel nested done (some (e.under (.group i e.value)) :: items)
    | some '[' =>
      let s ← bracketClass fuel
      expression fuel nested done (some ⟨.set s.value, s.depth⟩ :: items)
    | some '*' =>
      advance 1
      expression fuel nested done (← repeatLast 0 none items)
    | some '+' =>
      advance 1
      expression fuel nested done (← repeatLast 1 none items)
    | some '?' =>
      advance 1
      expression fuel nested done (← repeatLast 0 (some 1) items)
    | some '\x7b' =>
      if items.isEmpty then failure
      let (min, max) ← counts
      expression fuel nested done (← repeatLast min max items)
    | some c =>
      let e ← simpleItem c
      expression fuel nested done (some (.flat e) :: items)

end Reader

/-- How deeply the operators of a pattern may be nested. -/
def depthLimit : Nat := 250

/-- Reads a whole pattern. -/
def read? (m : Mode) (source : List Char) : Option (Expr × Cursor) := do
  let (e, cursor) ←
    (Reader.expression (2 * source.length + 2) false [] []).run ⟨source, m, 0, []⟩
  if e.depth ≤ depthLimit then some (e.value, cursor) else none

end Stencil.Pattern
