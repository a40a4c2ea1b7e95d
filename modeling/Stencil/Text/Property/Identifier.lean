import Stencil.Text.CharRange

/-!
# Properties for identifiers

Binary properties that Unicode 16.0 lists for the syntax of identifiers and patterns.
-/

namespace Stencil.Text

/-- The characters that start identifiers for compatibility. -/
def otherIdStartRanges : CharRanges := [
  (0x1885, 0x1886), (0x2118, 0x2118), (0x212E, 0x212E), (0x309B, 0x309C)]

/-- The characters that continue identifiers for compatibility. -/
def otherIdContinueRanges : CharRanges := [
  (0xB7, 0xB7), (0x387, 0x387), (0x1369, 0x1371), (0x19DA, 0x19DA), (0x200C, 0x200D),
  (0x30FB, 0x30FB), (0xFF65, 0xFF65)]

/-- The mathematical signs that start identifiers in some profiles. -/
def mathIdStartRanges : CharRanges := [
  (0x2202, 0x2202), (0x2207, 0x2207), (0x221E, 0x221E), (0x1D6C1, 0x1D6C1), (0x1D6DB, 0x1D6DB),
  (0x1D6FB, 0x1D6FB), (0x1D715, 0x1D715), (0x1D735, 0x1D735), (0x1D74F, 0x1D74F),
  (0x1D76F, 0x1D76F), (0x1D789, 0x1D789), (0x1D7A9, 0x1D7A9), (0x1D7C3, 0x1D7C3)]

/-- The mathematical signs that continue identifiers in some profiles. -/
def mathIdContinueRanges : CharRanges := [
  (0xB2, 0xB3), (0xB9, 0xB9), (0x2070, 0x2070), (0x2074, 0x207E), (0x2080, 0x208E),
  (0x2202, 0x2202), (0x2207, 0x2207), (0x221E, 0x221E), (0x1D6C1, 0x1D6C1), (0x1D6DB, 0x1D6DB),
  (0x1D6FB, 0x1D6FB), (0x1D715, 0x1D715), (0x1D735, 0x1D735), (0x1D74F, 0x1D74F),
  (0x1D76F, 0x1D76F), (0x1D789, 0x1D789), (0x1D7A9, 0x1D7A9), (0x1D7C3, 0x1D7C3)]

/-- The characters reserved for the syntax of patterns. -/
def patternSyntaxRanges : CharRanges := [
  (0x21, 0x2F), (0x3A, 0x40), (0x5B, 0x5E), (0x60, 0x60), (0x7B, 0x7E), (0xA1, 0xA7), (0xA9, 0xA9),
  (0xAB, 0xAC), (0xAE, 0xAE), (0xB0, 0xB1), (0xB6, 0xB6), (0xBB, 0xBB), (0xBF, 0xBF), (0xD7, 0xD7),
  (0xF7, 0xF7), (0x2010, 0x2027), (0x2030, 0x203E), (0x2041, 0x2053), (0x2055, 0x205E),
  (0x2190, 0x245F), (0x2500, 0x2775), (0x2794, 0x2BFF), (0x2E00, 0x2E7F), (0x3001, 0x3003),
  (0x3008, 0x3020), (0x3030, 0x3030), (0xFD3E, 0xFD3F), (0xFE45, 0xFE46)]

/-- The blanks in the syntax of patterns. -/
def patternWhiteSpaceRanges : CharRanges := [
  (0x9, 0xD), (0x20, 0x20), (0x85, 0x85), (0x200E, 0x200F), (0x2028, 0x2029)]

/-- The code points that are never assigned. -/
def noncharacterRanges : CharRanges := [
  (0xFDD0, 0xFDEF), (0xFFFE, 0xFFFF), (0x1FFFE, 0x1FFFF), (0x2FFFE, 0x2FFFF), (0x3FFFE, 0x3FFFF),
  (0x4FFFE, 0x4FFFF), (0x5FFFE, 0x5FFFF), (0x6FFFE, 0x6FFFF), (0x7FFFE, 0x7FFFF),
  (0x8FFFE, 0x8FFFF), (0x9FFFE, 0x9FFFF), (0xAFFFE, 0xAFFFF), (0xBFFFE, 0xBFFFF),
  (0xCFFFE, 0xCFFFF), (0xDFFFE, 0xDFFFF), (0xEFFFE, 0xEFFFF), (0xFFFFE, 0xFFFFF),
  (0x10FFFE, 0x10FFFF)]

/-- The characters that are advised against. -/
def deprecatedCharacterRanges : CharRanges := [
  (0x149, 0x149), (0x673, 0x673), (0xF77, 0xF77), (0xF79, 0xF79), (0x17A3, 0x17A4),
  (0x206A, 0x206F), (0x2329, 0x232A), (0xE0001, 0xE0001)]

/-- The code points that are ignored in display besides format characters. -/
def otherIgnorableRanges : CharRanges := [
  (0x34F, 0x34F), (0x115F, 0x1160), (0x17B4, 0x17B5), (0x2065, 0x2065), (0x3164, 0x3164),
  (0xFFA0, 0xFFA0), (0xFFF0, 0xFFF8), (0xE0000, 0xE0000), (0xE0002, 0xE001F), (0xE0080, 0xE00FF),
  (0xE01F0, 0xE0FFF)]

/-- The hexadecimal digits in ASCII. -/
def asciiHexDigitRanges : CharRanges := [
  (0x30, 0x39), (0x41, 0x46), (0x61, 0x66)]

/-- The hexadecimal digits, fullwidth forms included. -/
def hexDigitRanges : CharRanges := [
  (0x30, 0x39), (0x41, 0x46), (0x61, 0x66), (0xFF10, 0xFF19), (0xFF21, 0xFF26), (0xFF41, 0xFF46)]

end Stencil.Text
