import Stencil.Error
import Stencil.Text.Hex
import Stencil.Text.Search

/-!
# String literals

A string literal stands between two equal quotes. Inside it a doubled quote means one quote, and a
backslash gives the next character a meaning: the letters `b f n r t` stand for controls, `u` with
four hexadecimal digits for a UTF-16 code unit, and any other character for itself. Two code units
that form a surrogate pair have to follow each other directly.
-/

namespace Stencil.Text

/-- The character that a backslash and `c` stand for, where `c` is not `u`. -/
def escapedChar (c : Char) : Char :=
  match c with
  | 'b' => '\x08'
  | 'f' => '\x0c'
  | 'n' => '\n'
  | 'r' => '\r'
  | 't' => '\t'
  | _ => c

/-- The code unit written by four characters after `\u`: hexadecimal digits, the first of which may
be replaced by a plus sign. -/
def codeUnit? (a b c d : Char) : Option Nat :=
  if a = '+' then readHex? 0 [b, c, d] else readHex? 0 [a, b, c, d]

/-- Whether the code unit is one half of a surrogate pair. -/
def isSurrogate (u : Nat) : Bool := 0xD800 ≤ u && u ≤ 0xDFFF

/-- The character of a high and a low surrogate. -/
def surrogatePair? (high low : Nat) : Option Char :=
  if 0xD800 ≤ high ∧ high < 0xDC00 ∧ 0xDC00 ≤ low ∧ low < 0xE000 then
    some (Char.ofNat (0x10000 + (high - 0xD800) * 0x400 + (low - 0xDC00)))
  else none

/-- Resolves the escapes of a text, after the surrogate `pending` that still waits for its other
half. There is no result if an escape has no meaning or a surrogate stays alone. -/
def unescapeAfter (pending : Option Nat) : List Char → Option (List Char)
  | [] => if pending.isNone then some [] else none
  | c :: cs =>
    if c = '\\' then
      match cs with
      | [] => none
      | d :: ds =>
        if d = 'u' then
          match ds with
          | x₁ :: x₂ :: x₃ :: x₄ :: rest =>
            match codeUnit? x₁ x₂ x₃ x₄, pending with
            | none, _ => none
            | some u, none =>
              if isSurrogate u then unescapeAfter (some u) rest
              else (unescapeAfter none rest).map (Char.ofNat u :: ·)
            | some u, some high =>
              match surrogatePair? high u with
              | some p => (unescapeAfter none rest).map (p :: ·)
              | none => none
          | _ => none
        else if pending.isNone then (unescapeAfter none ds).map (escapedChar d :: ·)
        else none
    else if pending.isNone then (unescapeAfter none cs).map (c :: ·)
    else none

/-- The text that a text with escapes stands for. -/
def unescape? (s : List Char) : Option (List Char) := unescapeAfter none s

/-- Whether the character opens and closes string literals. -/
def isQuote (c : Char) : Bool := c == '\'' || c == '"'

/-- The text that a string literal stands for. Doubled quotes are rewritten to escaped quotes
before the escapes are resolved. -/
def readLiteral (literal : List Char) : Except Error String :=
  match literal with
  | [] => .error (.syntaxError "expected string literal")
  | q :: rest =>
    if !isQuote q then .error (.syntaxError "expected string literal")
    else if rest.getLast? ≠ some q then .error (.syntaxError "unterminated string literal")
    else
      match unescape? (replaceAll [q, q] ['\\', q] rest.dropLast) with
      | some s => .ok (String.ofList s)
      | none => .error .badEscape

end Stencil.Text
