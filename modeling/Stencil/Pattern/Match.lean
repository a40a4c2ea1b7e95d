import Stencil.Pattern.Reader
import Stencil.Pattern.Search

/-!
# Matches of a pattern

A pattern finds matches from left to right. Matches do not overlap, and an empty match does not
touch the match in front of it.
-/

namespace Stencil

/-- A pattern that texts can be searched for. -/
structure Pattern where
  /-- The program of the pattern. -/
  program : Pattern.Program
  /-- The number of groups, the whole match not counted. -/
  groups : Nat
  /-- The numbers of the groups with names. -/
  names : List (List Char × Nat)

namespace Pattern

/-- The pattern with the given source, if it is well formed. -/
def ofSource? (m : Mode) (source : List Char) : Option Pattern :=
  (read? m source).bind fun (e, cursor) ↦
    (program? e).map fun program ↦ ⟨program, cursor.groups, cursor.names⟩

/-- The part of a text from position `first` to before position `last`. -/
def part (text : List Char) (first last : Nat) : List Char := (text.drop first).take (last - first)

/-- A match: the part of the text that it covers and the parts of its groups. -/
structure Match where
  /-- The position of the first character. -/
  first : Nat
  /-- The position behind the last character. -/
  last : Nat
  /-- The positions remembered for the groups. -/
  slots : Slots

/-- What a group has matched; a group without a part in the match has matched nothing. -/
def Match.group (m : Match) (text : List Char) (index : Nat) : List Char :=
  match m.slots[2 * index]?, m.slots[2 * index + 1]? with
  | some (some first), some (some last) => part text first last
  | _, _ => []

/-- The first match at or behind a position. -/
def find? (p : Pattern) (text : List Char) (start : Nat) : Option Match :=
  if text.length < start then none
  else
    match search p.program (2 * (p.groups + 1)) text start with
    | some slots =>
      match slots[0]?, slots[1]? with
      | some (some first), some (some last) => some ⟨first, last, slots⟩
      | _, _ => none
    | none => none

/-- The matches from position `start` on, behind a match that ended at `lastEnd`. The first argument
bounds their number. -/
def matchesFrom (p : Pattern) (text : List Char) : Nat → Nat → Option Nat → List Match
  | 0, _, _ => []
  | n + 1, start, lastEnd =>
    let touches (m : Match) : Bool := m.first == m.last && some m.last == lastEnd
    let found := match p.find? text start with
      | some m => if touches m then p.find? text (start + 1) else some m
      | none => none
    match found with
    | some m => m :: matchesFrom p text n m.last (some m.last)
    | none => []

/-- All matches in a text. -/
def allMatches (p : Pattern) (text : List Char) : List Match :=
  p.matchesFrom text (text.length + 2) 0 none

/-- Whether the pattern matches somewhere in the text. -/
def isMatch (p : Pattern) (text : List Char) : Bool := (p.find? text 0).isSome

/-- The text from position `start` on, cut into the parts between the matches. -/
def partsBetween (text : List Char) (start : Nat) : List Match → List (List Char)
  | [] => [text.drop start]
  | m :: ms => part text start m.first :: partsBetween text m.last ms

/-- The parts of a text between the matches of the pattern. -/
def split (p : Pattern) (text : List Char) : List (List Char) :=
  partsBetween text 0 (p.allMatches text)

end Pattern

end Stencil
