/-!
# Searching and replacing inside a text

Texts are lists of characters. A separator is found from left to right and its occurrences never
overlap; `pieces` cuts a text at them, and `replaceAll` joins the pieces by another text.
-/

namespace Stencil.Text

/-- The number of characters before the first occurrence of `needle`. -/
def indexOf? (needle : List Char) : List Char → Option Nat
  | [] => if needle.isEmpty then some 0 else none
  | c :: cs =>
    if needle.isPrefixOf (c :: cs) then some 0 else (indexOf? needle cs).map (· + 1)

/-- Whether `needle` occurs somewhere in the text. -/
def includes (needle s : List Char) : Bool := (indexOf? needle s).isSome

/-- Puts a character in front of the first piece. -/
def consHead (c : Char) : List (List Char) → List (List Char)
  | [] => [[c]]
  | p :: ps => (c :: p) :: ps

/-- Cuts at a nonempty separator after passing over `skip` characters, the rest of an occurrence
that has been found already. -/
def piecesFrom (sep : List Char) : Nat → List Char → List (List Char)
  | _, [] => [[]]
  | skip + 1, _ :: cs => piecesFrom sep skip cs
  | 0, c :: cs =>
    if sep.isPrefixOf (c :: cs) then [] :: piecesFrom sep (sep.length - 1) cs
    else consHead c (piecesFrom sep 0 cs)

/-- The parts of a text between the occurrences of `sep`. The empty separator occurs in front of
every character and once more at the end. -/
def pieces (sep s : List Char) : List (List Char) :=
  if sep.isEmpty then [] :: s.map ([·]) ++ [[]] else piecesFrom sep 0 s

/-- Writes `new` in place of every occurrence of `sep`. -/
def replaceAll (sep new s : List Char) : List Char := List.intercalate new (pieces sep s)

/-- Writes `new` in place of the first occurrence of `sep`, if there is one. -/
def replaceFirst (sep new s : List Char) : List Char :=
  match indexOf? sep s with
  | some i => s.take i ++ new ++ s.drop (i + sep.length)
  | none => s

/-- Cuts at every single occurrence of the character `sep`. -/
def splitAtChar (sep : Char) : List Char → List (List Char)
  | [] => [[]]
  | c :: cs => if c = sep then [] :: splitAtChar sep cs else consHead c (splitAtChar sep cs)

/-- Drops the last characters for as long as they satisfy `p`. -/
def dropEndWhile (p : Char → Bool) (s : List Char) : List Char :=
  (s.reverse.dropWhile p).reverse

/-- Drops the first and the last characters for as long as they satisfy `p`. -/
def trimWhile (p : Char → Bool) (s : List Char) : List Char :=
  dropEndWhile p (s.dropWhile p)

end Stencil.Text
