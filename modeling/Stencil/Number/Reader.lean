import Stencil.Number.Binary
import Stencil.Number.Integer

/-!
# Reading floating-point numbers

A number is written by decimal digits with at most one point and at least one digit, after an
optional sign and before an optional exponent; or by the words `inf`, `infinity` and `nan` in any
letter case.
-/

namespace Stencil.Number

/-- A number as it is written: digits, without sign, times a power of ten. -/
structure Numeral where
  /-- All digits, before and behind the point, as one number. -/
  digits : Nat
  /-- The power of ten. -/
  exponent : Int
deriving DecidableEq, Repr

/-- The nearest number of double precision. Numerals far beyond its range are decided by their
magnitude alone. -/
def Numeral.toFloat (n : Numeral) : Float :=
  let top := (Nat.toDigits 10 n.digits).length + n.exponent
  if n.digits = 0 || top < -400 then 0
  else if 400 < top then infinity
  else Float.ofScientific n.digits (n.exponent < 0) n.exponent.natAbs

/-- The nearest number of single precision. -/
def Numeral.toFloat32 (n : Numeral) : Float32 :=
  let top := (Nat.toDigits 10 n.digits).length + n.exponent
  if n.digits = 0 || top < -400 then 0
  else if 400 < top then Float32.ofBits 0x7F800000
  else Float32.ofScientific n.digits (n.exponent < 0) n.exponent.natAbs

/-- Reads the exponent behind its mark. -/
def readExponent? (s : List Char) : Option Int :=
  match s with
  | '-' :: ds => (natural? ds).map fun n ↦ -(n : Int)
  | '+' :: ds => (natural? ds).map fun n ↦ (n : Int)
  | ds => (natural? ds).map fun n ↦ (n : Int)

/-- Reads a number without a sign. -/
def readNumeral? (s : List Char) : Option Numeral :=
  let isMark (c : Char) : Bool := c == 'e' || c == 'E'
  let whole := s.takeWhile Char.isDigit
  let afterWhole := s.dropWhile Char.isDigit
  let afterPoint := match afterWhole with
    | '.' :: rest => rest
    | _ => []
  let fraction := afterPoint.takeWhile Char.isDigit
  let rest := match afterWhole with
    | '.' :: _ => afterPoint.dropWhile Char.isDigit
    | _ => afterWhole
  match natural? (whole ++ fraction), rest with
  | some digits, [] => some ⟨digits, -(fraction.length : Int)⟩
  | some digits, c :: exponent =>
    if isMark c then
      (readExponent? exponent).map fun e ↦ ⟨digits, e - fraction.length⟩
    else none
  | none, _ => none

/-- A number as it is read, without its sign. -/
inductive Magnitude where
  /-- A numeral. -/
  | numeral (n : Numeral)
  /-- An infinity. -/
  | infinite
  /-- No number. -/
  | nan

/-- Reads a number without a sign, or one of the words. -/
def readMagnitude? (s : List Char) : Option Magnitude :=
  let word := String.ofList (s.map Char.toLower)
  if word = "inf" || word = "infinity" then some .infinite
  else if word = "nan" then some .nan
  else (readNumeral? s).map .numeral

/-- Reads the optional sign and the magnitude of a number. -/
def readSigned? (s : List Char) : Option (Bool × Magnitude) :=
  match s with
  | '-' :: rest => (readMagnitude? rest).map ((true, ·))
  | '+' :: rest => (readMagnitude? rest).map ((false, ·))
  | rest => (readMagnitude? rest).map ((false, ·))

/-- Reads a number of double precision. -/
def readFloat? (s : List Char) : Option Float :=
  (readSigned? s).map fun (negative, magnitude) ↦
    let x := match magnitude with
      | .numeral n => n.toFloat
      | .infinite => infinity
      | .nan => notANumber
    if negative then -x else x

/-- Reads a number of single precision. -/
def readFloat32? (s : List Char) : Option Float32 :=
  (readSigned? s).map fun (negative, magnitude) ↦
    let x := match magnitude with
      | .numeral n => n.toFloat32
      | .infinite => Float32.ofBits 0x7F800000
      | .nan => Float32.ofBits 0x7FC00000
    if negative then -x else x

end Stencil.Number
