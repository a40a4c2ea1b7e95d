import Stencil.Expr.Fragment
import Stencil.Text.Literal

/-!
# Scanning

A source text is scanned one character at a time. Strings end at their quote, unless it is doubled
or stands behind a backslash; a slash behind the word `r` starts a regular expression. The words
`not`, `or` and `and` become operators, equal operator characters in a row become one fragment, and
a path in front of a colon, behind an opening brace or a comma, becomes the key of a map.
-/

namespace Stencil

/-- What the scanner is inside of. -/
inductive ScanMode where
  /-- Words and operators. -/
  | words
  /-- A string; `escaped` says that the next character cannot end it. -/
  | string (quote : Char) (escaped : Bool)
  /-- A string behind a quote that ends it unless the next character doubles it. -/
  | afterQuote (quote : Char)
  /-- A regular expression; `escaped` says that the next character cannot end it. -/
  | regex (escaped : Bool)
  /-- The flags of a regular expression. -/
  | flags
deriving DecidableEq, Repr

/-- The state of a scan. -/
structure Scanner where
  /-- The fragments that are complete. -/
  fragments : Array Fragment := #[]
  /-- The characters of the fragment that is not, the last one first. -/
  pending : List Char := []
  /-- What the scanner is inside of. -/
  mode : ScanMode := .words
  /-- The index of the last operator that is no space. -/
  lastOperator : Option Nat := none
  /-- The index of the last fragment that is no operator. -/
  lastWord : Option Nat := none

namespace Scanner

/-- Adds a character to the fragment that is not complete. -/
def extend (s : Scanner) (c : Char) (mode : ScanMode) : Scanner :=
  { s with pending := c :: s.pending, mode := mode }

/-- Completes a fragment that is no operator. -/
def pushWord (s : Scanner) (text : List Char) (kind : FragmentKind) : Scanner :=
  { s with
    fragments := s.fragments.push ⟨text, kind⟩
    pending := []
    mode := .words
    lastWord := some s.fragments.size }

/-- Whether the last operator opens a map or separates its entries. -/
def startsEntry (s : Scanner) : Bool :=
  match s.lastOperator.bind fun i ↦ s.fragments[i]? with
  | some f => f.text == ['\x7b'] || f.text == [',']
  | none => false

/-- Makes the last word the key of a map if it is a path. -/
def markKey (s : Scanner) : Scanner :=
  match s.lastWord with
  | none => s
  | some i =>
    { s with fragments := s.fragments.modify i fun f ↦
        if f.kind == .path then { f with kind := .objectKey } else f }

/-- Completes an operator. -/
def appendOperator (s : Scanner) (op : List Char) : Scanner :=
  { s with
    lastOperator := if op == [' '] then s.lastOperator else some s.fragments.size
    fragments := s.fragments.push ⟨op, .operator⟩ }

/-- Whether an operator character only makes the last fragment longer. -/
def continues (s : Scanner) (c : Char) : Bool :=
  match s.fragments.back? with
  | some f => f.kind == .operator && !isBracket c && f.text.all (· == c)
  | none => false

/-- Adds an operator character that is no carriage return, tab or line feed. -/
def pushSymbol (s : Scanner) (c : Char) : Scanner :=
  if s.continues c then
    { s with fragments := s.fragments.modify (s.fragments.size - 1) fun f ↦
        { f with text := f.text ++ [c] } }
  else
    let s := if c == ':' && s.startsEntry then s.markKey else s
    s.appendOperator [c]

/-- Adds an operator character. Tabs and line feeds count as spaces, carriage returns as nothing. -/
def pushOperatorChar (s : Scanner) (c : Char) : Scanner :=
  if c == '\r' then s
  else if c == '\n' || c == '\t' then s.pushSymbol ' '
  else s.pushSymbol c

/-- Completes the pending word, if there is one. -/
def flushWord (s : Scanner) : Scanner :=
  let word := s.pending.reverse
  let empty := { s with pending := [] }
  if word.isEmpty then s
  else if word == "not".toList then empty.pushSymbol '!'
  else if word == "or".toList then empty.appendOperator ['|', '|']
  else if word == "and".toList then empty.appendOperator ['&', '&']
  else s.pushWord word (classify word)

/-- Scans a character among words and operators. -/
def stepWords (s : Scanner) (c : Char) : Scanner :=
  if Text.isQuote c then s.flushWord.extend c (.string c false)
  else if !isOperatorChar c then s.extend c .words
  else if c == '/' && s.pending == ['r'] then { s with pending := ['/'], mode := .regex false }
  else s.flushWord.pushOperatorChar c

/-- Completes the pending string or regular expression. -/
def close (s : Scanner) (kind : FragmentKind) : Scanner := s.pushWord s.pending.reverse kind

/-- Whether the character is a flag of regular expressions. -/
def isFlag (c : Char) : Bool := c == 'i' || c == 'g' || c == 'm' || c == 'y'

/-- Scans one character. -/
def step (s : Scanner) (c : Char) : Scanner :=
  match s.mode with
  | .words => s.stepWords c
  | .string q escaped =>
    s.extend c
      (if escaped then .string q false
        else if c == '\\' then .string q true
        else if c == q then .afterQuote q
        else .string q false)
  | .afterQuote q =>
    if c == q then s.extend c (.string q false) else (s.close .str).stepWords c
  | .regex escaped =>
    s.extend c (if c == '/' && !escaped then .flags else .regex (c == '\\' && !escaped))
  | .flags => if isFlag c then s.extend c .flags else (s.close .regex).stepWords c

/-- Completes what is pending at the end of the source. A string without its end is no string. -/
def finish (s : Scanner) : Scanner :=
  match s.mode with
  | .words => s.flushWord
  | .string _ _ => s.close .other
  | .afterQuote _ => s.close .str
  | .regex _ => s.close .regex
  | .flags => s.close .regex

end Scanner

/-- The fragments of a source text. -/
def Fragment.scan (source : List Char) : List Fragment :=
  (source.foldl Scanner.step {}).finish.fragments.toList

end Stencil
