import Stencil.Text.Blank

/-!
# Fragments

A source text falls into fragments: strings and regular expressions with their delimiters, words,
and operators, among which brackets and spaces count. A word is a literal, a path of names joined by
dots, or neither.
-/

namespace Stencil

/-- What a fragment is. -/
inductive FragmentKind where
  /-- A quoted string with its quotes. -/
  | str
  /-- A regular expression with its slashes and flags. -/
  | regex
  /-- A constant word or a number. -/
  | literal
  /-- Names joined by dots. -/
  | path
  /-- A bracket, or one operator character or several of the same, spaces included. -/
  | operator
  /-- A path that turned out to be the key of a map. -/
  | objectKey
  /-- Anything else. -/
  | other
deriving DecidableEq, Repr

/-- A classified piece of a source text. -/
structure Fragment where
  /-- The text of the fragment. -/
  text : List Char
  /-- What the fragment is. -/
  kind : FragmentKind
deriving DecidableEq, Repr

namespace Fragment

/-- Whether the fragment consists of spaces. -/
def isSpace (f : Fragment) : Bool := f.kind == .operator && f.text.all (· == ' ')

/-- Whether the fragment is the given operator. -/
def isOperator (f : Fragment) (op : List Char) : Bool := f.kind == .operator && f.text == op

/-- The fragments without the spaces at their two ends. -/
def trimSpaces (fs : List Fragment) : List Fragment :=
  ((fs.dropWhile isSpace).reverse.dropWhile isSpace).reverse

/-- The texts of fragments, one after the other. -/
def joinText (fs : List Fragment) : List Char := fs.flatMap text

end Fragment

/-! ### Characters and words -/

/-- The brackets that open, each with the one that closes it. -/
def bracketPairs : List (Char × Char) := [('(', ')'), ('[', ']'), ('\x7b', '\x7d')]

/-- Whether the character is a bracket. -/
def isBracket (c : Char) : Bool := bracketPairs.any fun p ↦ c == p.1 || c == p.2

/-- The characters that end words and stand in operators, spaces among them. -/
def operatorChars : List Char :=
  ['\x7b', '(', '[', '\x7d', ')', ']', '%', '+', '-', '<', '>', '!', '?', '*', '/', ':', '=', '&',
    '|', ',', ' ', '\t', '\r', '\n']

/-- Whether the character ends a word. -/
def isOperatorChar (c : Char) : Bool := operatorChars.contains c

/-- Whether the character may stand in a name. -/
def isNameChar (c : Char) : Bool := c.isAlphanum || c == '_'

/-- Whether the text is a nonempty row of digits. -/
def isDigits (s : List Char) : Bool := !s.isEmpty && s.all Char.isDigit

/-- Whether the text is a number: digits with at most one point between them. -/
def isNumber (s : List Char) : Bool :=
  let whole := s.takeWhile (· != '.')
  match s.drop whole.length with
  | [] => isDigits whole
  | _ :: fraction => isDigits whole && isDigits fraction

/-- The words that stand for values. -/
def literalWords : List (List Char) :=
  ["true".toList, "false".toList, "null".toList, "NaN".toList, "undefined".toList]

/-- Whether the word is a literal. -/
def isLiteral (s : List Char) : Bool := literalWords.contains s || isNumber s

/-- Whether the text may follow a dot in a path. -/
def isSegment (s : List Char) : Bool :=
  !s.isEmpty && s.all fun c ↦ isNameChar c || c == '-' || c == '\'' || c == '"'

/-- Whether the word is a path: a name, and any number of segments behind dots. -/
def isPath (s : List Char) : Bool :=
  match Text.splitAtChar '.' s with
  | [] => false
  | root :: segments => !root.isEmpty && root.all isNameChar && segments.all isSegment

/-- What a word is. -/
def classify (word : List Char) : FragmentKind :=
  if isLiteral word then .literal else if isPath word then .path else .other

end Stencil
