import Stencil.Text.Blank
import Stencil.Text.CaseFolding

/-!
# Sets of characters in patterns

A set is built from ranges of code points by the operations of set algebra and by closing it under
letter case. Membership is decided from the parts of a set; its members are laid out in ranges only
where its extent matters.
-/

namespace Stencil.Pattern

open Stencil.Text (CharRanges)

/-- A set of characters. -/
inductive CharSet where
  /-- The characters in ascending ranges. -/
  | ranges (rs : CharRanges)
  /-- The characters of either set. -/
  | union (a b : CharSet)
  /-- The characters of both sets. -/
  | inter (a b : CharSet)
  /-- The characters of the first set that the second one lacks. -/
  | diff (a b : CharSet)
  /-- The characters of exactly one set. -/
  | symmDiff (a b : CharSet)
  /-- The characters outside of a set. -/
  | compl (a : CharSet)
  /-- The characters that differ from a member by letter case alone. -/
  | folded (a : CharSet)
  /-- The same for the letter case of ASCII letters only. -/
  | foldedAscii (a : CharSet)
deriving Repr

/-- The code points that differ from `n` by the letter case of an ASCII letter alone. -/
def asciiVariants (n : Nat) : List Nat :=
  if 0x41 ≤ n ∧ n ≤ 0x5A then [n, n + 0x20]
  else if 0x61 ≤ n ∧ n ≤ 0x7A then [n, n - 0x20]
  else [n]

namespace CharSet

/-- Whether the code point belongs to the set. -/
def contains : CharSet → Nat → Bool
  | .ranges rs, n => rs.contains n
  | .union a b, n => a.contains n || b.contains n
  | .inter a b, n => a.contains n && b.contains n
  | .diff a b, n => a.contains n && !b.contains n
  | .symmDiff a b, n => a.contains n != b.contains n
  | .compl a, n => !a.contains n
  | .folded a, n => (Text.caseVariants n).any fun m ↦ a.contains m
  | .foldedAscii a, n => (asciiVariants n).any fun m ↦ a.contains m

/-- Adds to ranges the variants of those members that lie in `domain`; the others are their only
variants. -/
def closeRanges (domain : CharRanges) (variants : Nat → List Nat) (rs : CharRanges) : CharRanges :=
  rs.union (.ofList ((rs.inter domain).toList.flatMap variants))

/-- The members of the set in ascending ranges that lie apart. -/
def toRanges : CharSet → CharRanges
  | .ranges rs => CharRanges.union [] rs
  | .union a b => a.toRanges.union b.toRanges
  | .inter a b => a.toRanges.inter b.toRanges
  | .diff a b => a.toRanges.diff b.toRanges
  | .symmDiff a b =>
    let rs := a.toRanges
    let ss := b.toRanges
    (rs.diff ss).union (ss.diff rs)
  | .compl a => a.toRanges.compl
  | .folded a => closeRanges Text.foldingRanges Text.caseVariants a.toRanges
  | .foldedAscii a => closeRanges [(0x41, 0x5A), (0x61, 0x7A)] asciiVariants a.toRanges

/-- The set without members. -/
def empty : CharSet := .ranges []

/-- The set of all characters. -/
def all : CharSet := .ranges [(0, 0x10FFFF)]

/-- The set of one character. -/
def single (c : Char) : CharSet := .ranges [(c.toNat, c.toNat)]

/-- The characters of any of some sets. -/
def unions (sets : List CharSet) : CharSet := sets.foldr .union .empty

/-- Whether no byte outside of ASCII belongs to the set. -/
def isAscii (s : CharSet) : Bool :=
  (List.range 128).all fun i ↦ !s.contains (128 + i)

/-- The set itself or its complement. -/
def negatedIf (negated : Bool) (s : CharSet) : CharSet := if negated then .compl s else s

end CharSet

end Stencil.Pattern
