import Stencil.Pattern.CharSet
import Stencil.Text.CaseTable
import Stencil.Text.Category
import Stencil.Text.Property.Identifier
import Stencil.Text.Property.Letter
import Stencil.Text.Property.Symbol

/-!
# Derived properties of characters

The properties that Unicode 16.0 derives from general categories, letter case and lists of other
characters.
-/

namespace Stencil.Pattern

open Stencil.Text

namespace CharSet

/-- The characters of any of some tables. -/
def tables (ts : List CharRanges) : CharSet := unions (ts.map .ranges)

/-! ### General categories -/

/-- The assigned characters. -/
def assigned : CharSet := tables (categoryTables.map (·.2))

/-- The characters of the categories whose short names start with a letter. -/
def categoryGroup (letter : Char) : CharSet :=
  tables ((categoryTables.filter fun t ↦ t.1.toList.head? == some letter).map (·.2))

/-- The marks. -/
def marks : CharSet := categoryGroup 'm'

/-! ### Letters and their case -/

/-- The lowercase characters. -/
def lowercase : CharSet := tables [categoryLlRanges, otherLowercaseRanges]

/-- The uppercase characters. -/
def uppercase : CharSet := tables [categoryLuRanges, otherUppercaseRanges]

/-- The characters that are uppercase, lowercase or titlecase. -/
def cased : CharSet := unions [lowercase, uppercase, .ranges categoryLtRanges]

/-- The letters, the letter numbers, and the marks and symbols that count as letters. -/
def alphabetic : CharSet :=
  unions [cased, tables [categoryLmRanges, categoryLoRanges, categoryNlRanges,
    otherAlphabeticRanges]]

/-- The punctuation that holds a word together like a colon. -/
def wordColons : CharSet :=
  .ranges [(0x3A, 0x3A), (0xB7, 0xB7), (0x387, 0x387), (0x55F, 0x55F), (0x5F4, 0x5F4),
    (0x2027, 0x2027), (0xFE13, 0xFE13), (0xFE55, 0xFE55), (0xFF1A, 0xFF1A)]

/-- The punctuation that holds words and numbers together like a full stop. -/
def wordStops : CharSet :=
  .ranges [(0x2E, 0x2E), (0x2018, 0x2019), (0x2024, 0x2024), (0xFE52, 0xFE52), (0xFF07, 0xFF07),
    (0xFF0E, 0xFF0E)]

/-- The characters that leave the case of a word open. -/
def caseIgnorable : CharSet :=
  unions [tables [categoryMnRanges, categoryMeRanges, categoryCfRanges, categoryLmRanges,
    categorySkRanges], wordColons, wordStops, .single '\'']

/-- The code points that a case mapping changes. -/
def changedBy (shifts : List CharShift) (expansions : List (Nat × List Nat)) : CharSet :=
  .union (tables (shifts.map (·.domain))) (.ranges (expansions.map fun e ↦ (e.1, e.1)))

/-- The characters whose lowercase form is another one. -/
def changesWhenLowercased : CharSet := .inter (changedBy lowerShifts lowerExpansions) assigned

/-- The characters whose uppercase form is another one. The capitals of two of the letters in the
case table are not assigned yet in this version. -/
def changesWhenUppercased : CharSet :=
  .diff (.inter (changedBy upperShifts upperExpansions) assigned)
    (.ranges [(0xA7D3, 0xA7D3), (0xA7D5, 0xA7D5)])

/-- The lowercase letters of Georgian, which start no titlecase word with a capital. -/
def georgianLowercase : CharSet := .ranges [(0x10D0, 0x10FA), (0x10FD, 0x10FF)]

/-- The capital letters of Georgian, which start no titlecase word. -/
def georgianUppercase : CharSet := .ranges [(0x1C90, 0x1CBA), (0x1CBD, 0x1CBF)]

/-- The characters whose titlecase form is another one: those with another uppercase form, unless
they are in titlecase already, and the capital digraphs. -/
def changesWhenTitlecased : CharSet :=
  .union (.diff changesWhenUppercased (.union (.ranges categoryLtRanges) georgianLowercase))
    (.ranges [(0x1C4, 0x1C4), (0x1C7, 0x1C7), (0x1CA, 0x1CA), (0x1F1, 0x1F1)])

/-- The characters that some case mapping changes. -/
def changesWhenCasemapped : CharSet :=
  unions [changesWhenLowercased, changesWhenUppercased, changesWhenTitlecased]

/-- The characters whose full case folding is another text than themselves, decomposed: those with
a simple folding, three that fold to their decomposition excepted, and those that fold to several
letters. -/
def changesWhenCasefolded : CharSet :=
  .union
    (.diff (changedBy foldShifts [])
      (.ranges [(0x1FBE, 0x1FBE), (0x1FD3, 0x1FD3), (0x1FE3, 0x1FE3)]))
    (.ranges [(0xDF, 0xDF), (0x130, 0x130), (0x149, 0x149), (0x587, 0x587), (0x1E9A, 0x1E9A),
      (0x1F80, 0x1F87), (0x1F90, 0x1F97), (0x1FA0, 0x1FA7), (0x1FB2, 0x1FB4), (0x1FB7, 0x1FB7),
      (0x1FC2, 0x1FC4), (0x1FC7, 0x1FC7), (0x1FF2, 0x1FF4), (0x1FF7, 0x1FF7), (0xFB00, 0xFB06),
      (0xFB13, 0xFB17)])

/-! ### Graphemes and display -/

/-- The characters that extend the one in front of them. -/
def graphemeExtend : CharSet :=
  tables [categoryMnRanges, categoryMeRanges, otherGraphemeExtendRanges]

/-- The characters that are shown and extend no other one. -/
def graphemeBase : CharSet :=
  .diff assigned (.union (tables [categoryCcRanges, categoryCfRanges, categoryCoRanges,
    categoryZlRanges, categoryZpRanges]) graphemeExtend)

/-- The code points that are left out of a display that does not support them. -/
def defaultIgnorable : CharSet :=
  .diff (tables [otherIgnorableRanges, categoryCfRanges, variationSelectorRanges])
    (tables [blankRanges, [(0xFFF9, 0xFFFB)], [(0x13430, 0x1343F)],
      prependedConcatenationMarkRanges])

/-- The characters of formulas. -/
def math : CharSet := tables [categorySmRanges, otherMathRanges]

/-! ### Identifiers -/

/-- The characters that have a meaning in the syntax of patterns. -/
def reservedInPatterns : CharSet := tables [patternSyntaxRanges, patternWhiteSpaceRanges]

/-- The characters that identifiers start with. -/
def idStart : CharSet :=
  .diff (.union (categoryGroup 'l') (tables [categoryNlRanges, otherIdStartRanges]))
    reservedInPatterns

/-- The characters of identifiers. -/
def idContinue : CharSet :=
  .diff (.union idStart (tables [categoryMnRanges, categoryMcRanges, categoryNdRanges,
    categoryPcRanges, otherIdContinueRanges])) reservedInPatterns

/-- The characters whose compatibility decompositions are no identifiers. -/
def decomposedOutsideIds : CharSet :=
  .ranges [(0x37A, 0x37A), (0x309B, 0x309C), (0xFC5E, 0xFC63), (0xFDFA, 0xFDFB), (0xFE70, 0xFE70),
    (0xFE72, 0xFE72), (0xFE74, 0xFE74), (0xFE76, 0xFE76), (0xFE78, 0xFE78), (0xFE7A, 0xFE7A),
    (0xFE7C, 0xFE7C), (0xFE7E, 0xFE7E)]

/-- The characters that identifiers start with, whether decomposed or not. -/
def xidStart : CharSet :=
  .diff idStart (.union decomposedOutsideIds
    (.ranges [(0xE33, 0xE33), (0xEB3, 0xEB3), (0xFF9E, 0xFF9F)]))

/-- The characters of identifiers, whether decomposed or not. -/
def xidContinue : CharSet := .diff idContinue decomposedOutsideIds

/-! ### Classes of patterns -/

/-- The ASCII characters of words. -/
def asciiWord : CharSet := .ranges [(0x30, 0x39), (0x41, 0x5A), (0x5F, 0x5F), (0x61, 0x7A)]

/-- The decimal digits. -/
def digit (unicode : Bool) : CharSet :=
  if unicode then .ranges categoryNdRanges else .ranges [(0x30, 0x39)]

/-- The blanks. -/
def blank (unicode : Bool) : CharSet :=
  if unicode then .ranges blankRanges else .ranges [(0x09, 0x0D), (0x20, 0x20)]

/-- The characters of words: letters, marks, decimal digits, connectors and joiners. -/
def word (unicode : Bool) : CharSet :=
  if unicode then
    unions [alphabetic, marks, tables [categoryNdRanges, categoryPcRanges, joinControlRanges]]
  else asciiWord

/-- The class of ASCII characters with a name between `[:` and `:]`. -/
def asciiClass? (name : String) : Option CharSet :=
  match name with
  | "alnum" => some (.ranges [(0x30, 0x39), (0x41, 0x5A), (0x61, 0x7A)])
  | "alpha" => some (.ranges [(0x41, 0x5A), (0x61, 0x7A)])
  | "ascii" => some (.ranges [(0x00, 0x7F)])
  | "blank" => some (.ranges [(0x09, 0x09), (0x20, 0x20)])
  | "cntrl" => some (.ranges [(0x00, 0x1F), (0x7F, 0x7F)])
  | "digit" => some (.ranges [(0x30, 0x39)])
  | "graph" => some (.ranges [(0x21, 0x7E)])
  | "lower" => some (.ranges [(0x61, 0x7A)])
  | "print" => some (.ranges [(0x20, 0x7E)])
  | "punct" => some (.ranges [(0x21, 0x2F), (0x3A, 0x40), (0x5B, 0x60), (0x7B, 0x7E)])
  | "space" => some (.ranges [(0x09, 0x0D), (0x20, 0x20)])
  | "upper" => some (.ranges [(0x41, 0x5A)])
  | "word" => some asciiWord
  | "xdigit" => some (.ranges [(0x30, 0x39), (0x41, 0x46), (0x61, 0x66)])
  | _ => none

end CharSet

end Stencil.Pattern
