import Stencil.Text.CaseTable

/-!
# Uppercase and lowercase

The full case mappings of a text. A character may become several, and a capital sigma at the end of
a word becomes a final sigma.
-/

namespace Stencil.Text

private def mapCase (expansions : List (Nat × List Nat)) (shifts : List CharShift) (c : Char) :
    List Char :=
  match expansions.lookup c.toNat with
  | some codes => codes.map Char.ofNat
  | none => [Char.ofNat ((CharShift.image? shifts c.toNat).getD c.toNat)]

/-- The uppercase form of one character. -/
def upperChar (c : Char) : List Char := mapCase upperExpansions upperShifts c

/-- The lowercase form of one character outside of any word. -/
def lowerChar (c : Char) : List Char := mapCase lowerExpansions lowerShifts c

/-- Whether the first character that is not case-ignorable is cased. -/
def startsCased (s : List Char) : Bool :=
  match s.dropWhile fun c ↦ caseIgnorableRanges.contains c.toNat with
  | c :: _ => casedRanges.contains c.toNat
  | [] => false

/-- The text in uppercase. -/
def upper (s : List Char) : List Char := s.flatMap upperChar

/-- The rest of a text in lowercase, after the characters `before`, nearest first. A sigma is final
when a cased character stands before it and none after it. -/
def lowerAfter (before : List Char) : List Char → List Char
  | [] => []
  | c :: cs =>
    let here :=
      if c = 'Σ' then [if startsCased before && !startsCased cs then 'ς' else 'σ']
      else lowerChar c
    here ++ lowerAfter (c :: before) cs

/-- The text in lowercase. -/
def lower (s : List Char) : List Char := lowerAfter [] s

/-- The first character in uppercase and the others in lowercase. -/
def capitalize : List Char → List Char
  | [] => []
  | c :: cs => upperChar c ++ lower cs

end Stencil.Text
