import Stencil.Pattern.Property
import Stencil.Text.Script

/-!
# Classes of text segmentation

How a character takes part in finding the borders of graphemes, words and sentences: the values of
the properties Grapheme_Cluster_Break, Word_Break and Sentence_Break of Unicode 16.0, each under its
names in lowercase letters. The value of all remaining characters has no class.
-/

namespace Stencil.Pattern

open Stencil.Text

namespace CharSet

/-- The characters of a script, by its name. -/
def ofScript (name : String) : CharSet :=
  match script? name with
  | some s => .ranges s.ranges
  | none => .empty

/-- The carriage return. -/
def carriageReturn : CharSet := .single '\r'

/-- The line feed. -/
def lineFeed : CharSet := .single '\n'

/-- The joiner of zero width. -/
def joiner : CharSet := .ranges [(0x200D, 0x200D)]

/-- The marks and modifiers that belong to the character in front of them, spacing marks not
included. -/
def graphemeTail : CharSet :=
  .diff (.union graphemeExtend (.ranges emojiModifierRanges)) joiner

/-- The marks that take up space, but do not start a grapheme. -/
def spacingTail : CharSet :=
  .diff (.union (.diff (.ranges categoryMcRanges) graphemeTail)
      (.ranges [(0xE33, 0xE33), (0xEB3, 0xEB3)]))
    (.ranges [(0x102B, 0x102C), (0x1038, 0x1038), (0x1062, 0x1064), (0x1067, 0x106D),
      (0x1083, 0x1083), (0x1087, 0x108C), (0x108F, 0x108F), (0x109A, 0x109C), (0x1A61, 0x1A61),
      (0x1A63, 0x1A64), (0xAA7B, 0xAA7B), (0xAA7D, 0xAA7D), (0x11720, 0x11721)])

/-- The controls that stand for themselves between graphemes. -/
def graphemeControl : CharSet :=
  .diff
    (unions [tables [categoryCcRanges, categoryCfRanges, categoryZlRanges, categoryZpRanges],
      .diff defaultIgnorable assigned])
    (unions [carriageReturn, lineFeed, joiner, graphemeTail,
      .ranges prependedConcatenationMarkRanges])

/-- The signs that belong to the character behind them. -/
def graphemeHead : CharSet :=
  tables [prependedConcatenationMarkRanges,
    [(0xD4E, 0xD4E), (0x111C2, 0x111C3), (0x113D1, 0x113D1), (0x1193F, 0x1193F),
      (0x11941, 0x11941), (0x11A3A, 0x11A3A), (0x11A84, 0x11A89), (0x11D46, 0x11D46),
      (0x11F02, 0x11F02)]]

/-- The syllables of Hangul without a final consonant. -/
def openSyllables : CharSet :=
  .ranges ((List.range 399).map fun i ↦ (0xAC00 + 28 * i, 0xAC00 + 28 * i))

/-- The values of Grapheme_Cluster_Break. -/
def graphemeBreaks : List (List String × CharSet) := [
  (["cn", "control"], graphemeControl),
  (["cr"], carriageReturn),
  (["ex", "extend"], graphemeTail),
  (["l"], .ranges [(0x1100, 0x115F), (0xA960, 0xA97C)]),
  (["lf"], lineFeed),
  (["lv"], openSyllables),
  (["lvt"], .diff (.ranges [(0xAC00, 0xD7A3)]) openSyllables),
  (["pp", "prepend"], graphemeHead),
  (["ri", "regionalindicator"], .ranges regionalIndicatorRanges),
  (["sm", "spacingmark"], spacingTail),
  (["t"], .ranges [(0x11A8, 0x11FF), (0xD7CB, 0xD7FB)]),
  (["v"], .ranges [(0x1160, 0x11A7), (0xD7B0, 0xD7C6), (0x16D63, 0x16D63), (0x16D67, 0x16D6A)]),
  (["zwj"], joiner)]

/-- The marks and modifiers that belong to the character in front of them. -/
def wordTail : CharSet := .union graphemeTail (.ranges categoryMcRanges)

/-- The digits, and the signs that stand inside or in front of numbers. -/
def wordNumeric : CharSet :=
  .union (tables [categoryNdRanges, [(0x66B, 0x66B), (0x19DA, 0x19DA)]])
    (.diff (.ranges prependedConcatenationMarkRanges) (.ranges [(0x70F, 0x70F)]))

/-- The characters of Katakana and those written among them. -/
def wordKatakana : CharSet :=
  .union (ofScript "katakana")
    (.ranges [(0x3031, 0x3035), (0x309B, 0x309C), (0x30A0, 0x30A0), (0x30FC, 0x30FC),
      (0xFF70, 0xFF70)])

/-- The letters of Hebrew. -/
def wordHebrew : CharSet := .inter (ofScript "hebrew") (.ranges categoryLoRanges)

/-- The characters of scripts that are written without any sign between words. -/
def unspaced : CharSet :=
  unions (["thai", "lao", "myanmar", "khmer", "taile", "newtailue", "taitham", "taiviet", "ahom",
    "hiragana"].map ofScript)

/-- The letters of words that blanks separate, some signs between letters included. -/
def wordLetters : CharSet :=
  .union
    (.diff alphabetic
      (unions [.ranges ideographicRanges, wordKatakana, unspaced, wordTail, wordHebrew]))
    (.ranges [(0x2C2, 0x2C5), (0x2D2, 0x2D7), (0x2DE, 0x2DF), (0x2E5, 0x2EB), (0x2ED, 0x2ED),
      (0x2EF, 0x2FF), (0x55A, 0x55C), (0x55E, 0x55E), (0x58A, 0x58A), (0x5F3, 0x5F3),
      (0x70F, 0x70F), (0xA708, 0xA716), (0xA720, 0xA721), (0xA789, 0xA78A), (0xAB5B, 0xAB5B)])

/-- The format characters inside words. -/
def wordFormat : CharSet :=
  .diff (.ranges categoryCfRanges)
    (unions [.ranges [(0x200B, 0x200B)], joiner, wordTail, wordNumeric, wordLetters])

/-- The punctuation that holds a number together like a comma. -/
def numberCommas : CharSet :=
  .ranges [(0x2C, 0x2C), (0x3B, 0x3B), (0x37E, 0x37E), (0x589, 0x589), (0x60C, 0x60D),
    (0x66C, 0x66C), (0x7F8, 0x7F8), (0x2044, 0x2044), (0xFE50, 0xFE50), (0xFE54, 0xFE54),
    (0xFF0C, 0xFF0C), (0xFF1B, 0xFF1B)]

/-- The values of Word_Break. -/
def wordBreaks : List (List String × CharSet) := [
  (["le", "aletter"], wordLetters),
  (["cr"], carriageReturn),
  (["dq", "doublequote"], .single '"'),
  (["extend"], wordTail),
  (["ex", "extendnumlet"], tables [categoryPcRanges, [(0x202F, 0x202F)]]),
  (["fo", "format"], wordFormat),
  (["hl", "hebrewletter"], wordHebrew),
  (["ka", "katakana"], wordKatakana),
  (["lf"], lineFeed),
  (["ml", "midletter"], wordColons),
  (["mn", "midnum"], numberCommas),
  (["mb", "midnumlet"], wordStops),
  (["nl", "newline"], .ranges [(0x0B, 0x0C), (0x85, 0x85), (0x2028, 0x2029)]),
  (["nu", "numeric"], wordNumeric),
  (["ri", "regionalindicator"], .ranges regionalIndicatorRanges),
  (["sq", "singlequote"], .single '\''),
  (["wsegspace"],
    .diff (.ranges categoryZsRanges)
      (.ranges [(0xA0, 0xA0), (0x2007, 0x2007), (0x202F, 0x202F)])),
  (["zwj"], joiner)]

/-- The marks and joiners that belong to the character in front of them. -/
def sentenceTail : CharSet := .union graphemeExtend (tables [categoryMcRanges, joinControlRanges])

/-- The separators of paragraphs. -/
def paragraphEnd : CharSet := .ranges [(0x85, 0x85), (0x2028, 0x2029)]

/-- The full stops. -/
def fullStops : CharSet :=
  .ranges [(0x2E, 0x2E), (0x2024, 0x2024), (0xFE52, 0xFE52), (0xFF0E, 0xFF0E)]

/-- The other signs that end sentences. -/
def sentenceEnd : CharSet := .diff (.ranges sentenceTerminalRanges) fullStops

/-- The lowercase letters at which a sentence goes on. -/
def sentenceLower : CharSet := .diff lowercase (.union graphemeExtend georgianLowercase)

/-- The capital letters that start sentences. -/
def sentenceUpper : CharSet :=
  .diff (.union uppercase (.ranges categoryLtRanges)) georgianUppercase

/-- The digits, and the signs that stand inside or in front of numbers. -/
def sentenceNumeric : CharSet := .union wordNumeric (.ranges [(0x66C, 0x66C)])

/-- The brackets and quotation marks. -/
def sentenceClose : CharSet :=
  .union
    (.diff (tables [categoryPsRanges, categoryPeRanges, categoryPiRanges, categoryPfRanges,
        quotationMarkRanges])
      (.ranges [(0xFF02, 0xFF02), (0xFF07, 0xFF07)]))
    (.ranges [(0x275B, 0x2760), (0x2E00, 0x2E01), (0x2E06, 0x2E08), (0x2E0B, 0x2E0B),
      (0x1F676, 0x1F678)])

/-- The signs behind which a sentence goes on. -/
def sentenceContinue : CharSet :=
  .ranges [(0x2C, 0x2D), (0x3A, 0x3B), (0x37E, 0x37E), (0x55D, 0x55D), (0x60C, 0x60D),
    (0x7F8, 0x7F8), (0x1802, 0x1802), (0x1808, 0x1808), (0x2013, 0x2014), (0x3001, 0x3001),
    (0xFE10, 0xFE11), (0xFE13, 0xFE14), (0xFE31, 0xFE32), (0xFE50, 0xFE51), (0xFE54, 0xFE55),
    (0xFE58, 0xFE58), (0xFE63, 0xFE63), (0xFF0C, 0xFF0D), (0xFF1A, 0xFF1B), (0xFF64, 0xFF64)]

/-- The values of Sentence_Break. -/
def sentenceBreaks : List (List String × CharSet) := [
  (["at", "aterm"], fullStops),
  (["cr"], carriageReturn),
  (["cl", "close"], sentenceClose),
  (["ex", "extend"], sentenceTail),
  (["fo", "format"], .diff (.ranges categoryCfRanges) (.union sentenceTail sentenceNumeric)),
  (["lf"], lineFeed),
  (["lo", "lower"], sentenceLower),
  (["nu", "numeric"], sentenceNumeric),
  (["le", "oletter"],
    .diff (.union alphabetic (.ranges [(0x5F3, 0x5F3)]))
      (unions [sentenceLower, sentenceUpper, sentenceTail])),
  (["sc", "scontinue"], sentenceContinue),
  (["st", "sterm"], sentenceEnd),
  (["se", "sep"], paragraphEnd),
  (["sp"], .diff (.ranges blankRanges) (unions [paragraphEnd, carriageReturn, lineFeed])),
  (["up", "upper"], sentenceUpper)]

end CharSet

end Stencil.Pattern
