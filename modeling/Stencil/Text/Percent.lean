import Stencil.Text.Hex

/-!
# Percent encoding

A text is written byte by byte in UTF-8. The bytes of a set and those outside of ASCII are written
as a percent sign and two uppercase hexadecimal digits, and every other byte stands for itself. An
encoder is known by what it does with each byte.
-/

namespace Stencil.Text

/-- A set of bytes in ASCII. -/
structure AsciiSet where
  /-- Whether the byte is in the set. -/
  contains : UInt8 → Bool

namespace AsciiSet

/-- All of ASCII but letters and digits. -/
def nonAlphanumeric : AsciiSet where
  contains b :=
    let n := b.toNat
    n < 0x80 && !((48 ≤ n && n ≤ 57) || (65 ≤ n && n ≤ 90) || (97 ≤ n && n ≤ 122))

/-- The set without a character. -/
def remove (set : AsciiSet) (c : Char) : AsciiSet where
  contains b := set.contains b && b.toNat != c.toNat

/-- The set and a character. -/
def add (set : AsciiSet) (c : Char) : AsciiSet where
  contains b := set.contains b || b.toNat == c.toNat

/-- Whether the byte does not stand for itself. -/
def encodes (set : AsciiSet) (b : UInt8) : Bool := 0x80 ≤ b.toNat || set.contains b

end AsciiSet

/-- One byte in percent encoding. -/
def percentByte (set : AsciiSet) (b : UInt8) : List Char :=
  if set.encodes b then ['%', upperHexDigit (b.toNat / 16), upperHexDigit b.toNat]
  else [Char.ofNat b.toNat]

/-- An encoder for texts. -/
abbrev PercentEncoder := (set : AsciiSet) → (s : List Char) → List Char

namespace PercentEncoder

/-- What is known of an encoder: it writes the bytes of a text one by one. -/
structure IsBytewise (encode : PercentEncoder) : Prop where
  /-- Each byte is written for itself. -/
  encode_eq (set : AsciiSet) (s : List Char) :
    encode set s = (s.flatMap String.utf8EncodeChar).flatMap (percentByte set)

/-- The encoder that goes from character to character. -/
def bytewise : PercentEncoder :=
  fun set s ↦ s.flatMap fun c ↦ (String.utf8EncodeChar c).flatMap (percentByte set)

/-- It writes the bytes one by one. -/
theorem isBytewise_bytewise : bytewise.IsBytewise where
  encode_eq _ _ := List.flatMap_assoc.symm

end PercentEncoder

end Stencil.Text
