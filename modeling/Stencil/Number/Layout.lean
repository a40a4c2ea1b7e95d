import Stencil.Number.Shortest

/-!
# Number layout

How a finite floating-point number is written: by the digits of the shortest decimal that reads
back, positionally or with an exponent.
-/

namespace Stencil.Number

/-- The decisions of a number format. -/
structure Layout where
  /-- The exponents of the leading digit that are written positionally. -/
  positional : Int → Bool
  /-- What follows a positional number without a fraction. -/
  integral : List Char
  /-- What stands between the mark of an exponent and a positive exponent. -/
  exponentSign : List Char
  /-- The choice between two equally near decimals. -/
  tie : Tie

namespace Layout

/-- Numbers in texts are always positional and whole numbers have no point. -/
def plain : Layout where
  positional _ := true
  integral := []
  exponentSign := []
  tie := .up

/-- Numbers for diagnosis show that they are no integers, and have an exponent below 10^-4 and from
10^16 on. -/
def diagnostic : Layout where
  positional e := -4 ≤ e && e < 16
  integral := ['.', '0']
  exponentSign := []
  tie := .up

/-- Numbers in data exchange show that they are no integers, and have a signed exponent below 10^-5
and from 10^16 on. -/
def exchange : Layout where
  positional e := -5 ≤ e && e < 16
  integral := ['.', '0']
  exponentSign := ['+']
  tie := .toEven

/-- Digits with the point behind the digit of the units. -/
def layoutPlain (f : Layout) (digits : List Char) (exponent : Int) : List Char :=
  let lead := exponent + digits.length - 1
  if 0 ≤ exponent then digits ++ List.replicate exponent.toNat '0' ++ f.integral
  else if 0 ≤ lead then
    digits.take (lead.toNat + 1) ++ '.' :: digits.drop (lead.toNat + 1)
  else '0' :: '.' :: List.replicate (-lead - 1).toNat '0' ++ digits

/-- Digits with the point behind the first one, and an exponent. -/
def layoutExponent (f : Layout) (digits : List Char) (exponent : Int) : List Char :=
  let lead := exponent + digits.length - 1
  let fraction := if digits.length ≤ 1 then [] else '.' :: digits.drop 1
  let sign := if lead < 0 then ['-'] else f.exponentSign
  digits.take 1 ++ fraction ++ 'e' :: sign ++ Nat.toDigits 10 lead.natAbs

/-- The text of a finite number. -/
def write (f : Layout) (x : Binary) : List Char :=
  let magnitude :=
    if x.mantissa = 0 then '0' :: f.integral
    else
      let d := Decimal.shortest f.tie x
      let digits := Nat.toDigits 10 d.digits
      if f.positional (d.exponent + digits.length - 1) then layoutPlain f digits d.exponent
      else layoutExponent f digits d.exponent
  if x.negative then '-' :: magnitude else magnitude

/-- The text of a number, with texts of their own for the infinities and for no number. -/
def writeFloat (f : Layout) (inf nan : String) (x : Float) : String :=
  match Binary.ofFloat? x with
  | some b => String.ofList (f.write b)
  | none => if x.isNaN then nan else if x > 0 then inf else "-" ++ inf

end Layout

end Stencil.Number
