import Stencil.Text.Displayable
import Stencil.Text.Hex

/-!
# Quoted texts

The quoted form of a text stands between double quotes. The quote, the backslash and the common
controls are written by a backslash and a letter, and every other character that is not displayable
by its code point in braces.
-/

namespace Stencil.Text

/-- The letter that stands for a character after a backslash. -/
def quotedLetter? (c : Char) : Option Char :=
  match c with
  | '"' => some '"'
  | '\\' => some '\\'
  | '\n' => some 'n'
  | '\r' => some 'r'
  | '\t' => some 't'
  | '\x00' => some '0'
  | _ => none

/-- One character as it stands between double quotes. -/
def quotedChar (c : Char) : List Char :=
  match quotedLetter? c with
  | some l => ['\\', l]
  | none =>
    if isDisplayable c then [c]
    else ['\\', 'u', '\x7b'] ++ hexOfCode c.toNat ++ ['\x7d']

/-- The text between double quotes. -/
def quoted (s : List Char) : List Char := '"' :: s.flatMap quotedChar ++ ['"']

/-- The quoted form of a string. -/
def quote (s : String) : String := String.ofList (quoted s.toList)

end Stencil.Text
