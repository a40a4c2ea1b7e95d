import Stencil.Number.Integer
import Stencil.Pattern.Match

/-!
# Replacing matches

A replacement is a text in which `$1`, `$name` and the same with braces around the number or name
stand for what a group has matched, and `$$` for a dollar sign. Any other dollar sign stands for
itself.
-/

namespace Stencil.Pattern

/-- What a dollar sign in a replacement refers to. -/
inductive Reference where
  /-- A dollar sign. -/
  | dollar
  /-- A group. -/
  | group (name : List Char)

/-- Whether the character may stand in a reference without braces. -/
def isReferenceChar (c : Char) : Bool := c.isAlphanum || c == '_'

/-- The reference behind a dollar sign and the number of characters that it takes. -/
def reference? (s : List Char) : Option (Reference × Nat) :=
  match s with
  | [] => none
  | '$' :: _ => some (.dollar, 1)
  | '\x7b' :: cs =>
    let name := cs.takeWhile (· != '\x7d')
    if name.length < cs.length then some (.group name, name.length + 2) else none
  | cs =>
    let name := cs.takeWhile isReferenceChar
    if name.isEmpty then none else some (.group name, name.length)

/-- The number of the group with the given number or name. -/
def groupIndex? (p : Pattern) (name : List Char) : Option Nat :=
  match Number.readPosition? name with
  | some i => some i
  | none => p.names.lookup name

/-- The text that a replacement stands for at a match, after passing over `skip` characters of the
replacement. -/
def expandFrom (p : Pattern) (text : List Char) (m : Match) : Nat → List Char → List Char
  | _, [] => []
  | skip + 1, _ :: cs => expandFrom p text m skip cs
  | 0, c :: cs =>
    if c = '$' then
      match reference? cs with
      | some (.dollar, n) => '$' :: expandFrom p text m n cs
      | some (.group name, n) =>
        (match p.groupIndex? name with
          | some i => m.group text i
          | none => []) ++ expandFrom p text m n cs
      | none => '$' :: expandFrom p text m 0 cs
    else c :: expandFrom p text m 0 cs

/-- The text that a replacement stands for at a match. -/
def expand (p : Pattern) (text : List Char) (m : Match) (replacement : List Char) : List Char :=
  p.expandFrom text m 0 replacement

/-- Writes the replacement in place of the given matches in the text from position `start` on. -/
def replaceFrom (p : Pattern) (text replacement : List Char) (start : Nat) :
    List Match → List Char
  | [] => text.drop start
  | m :: ms =>
    part text start m.first ++ p.expand text m replacement ++
      p.replaceFrom text replacement m.last ms

/-- Writes the replacement in place of every match. -/
def replaceAll (p : Pattern) (text replacement : List Char) : List Char :=
  p.replaceFrom text replacement 0 (p.allMatches text)

/-- Writes the replacement in place of the first match. -/
def replaceFirst (p : Pattern) (text replacement : List Char) : List Char :=
  p.replaceFrom text replacement 0 (p.find? text 0).toList

end Stencil.Pattern
