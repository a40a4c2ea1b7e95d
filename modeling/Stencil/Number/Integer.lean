/-!
# Integers of 64 bits

Integer arithmetic is exact or has no result: a sum, difference or product that does not fit 64
signed bits is left to the caller.
-/

namespace Stencil.Number

/-- The integer as 64 signed bits, if it fits. -/
def int64? (n : Int) : Option Int64 :=
  if Int64.minValue.toInt ≤ n ∧ n ≤ Int64.maxValue.toInt then some (Int64.ofInt n) else none

/-- The nearest integer of 64 signed bits. -/
def clampInt64 (n : Int) : Int64 :=
  if n < Int64.minValue.toInt then Int64.minValue
  else if Int64.maxValue.toInt < n then Int64.maxValue
  else Int64.ofInt n

/-- The decimal text of an integer. -/
def integerText (n : Int64) : String := toString n.toInt

/-- Reads a nonempty row of decimal digits after the number `acc`. -/
def readDigits? (acc : Nat) : List Char → Option Nat
  | [] => some acc
  | c :: cs => if c.isDigit then readDigits? (10 * acc + (c.toNat - 48)) cs else none

/-- The number written by a nonempty row of decimal digits. -/
def natural? : List Char → Option Nat
  | [] => none
  | cs => readDigits? 0 cs

/-- Reads an integer of 64 signed bits: an optional sign and decimal digits. -/
def readInt64? (s : List Char) : Option Int64 :=
  match s with
  | '-' :: ds => (natural? ds).bind fun n ↦ int64? (-(n : Int))
  | '+' :: ds => (natural? ds).bind fun n ↦ int64? n
  | ds => (natural? ds).bind fun n ↦ int64? n

/-- Reads a position: decimal digits after an optional plus sign, below 2^64. -/
def readPosition? (s : List Char) : Option Nat :=
  let digits := match s with
    | '+' :: ds => ds
    | ds => ds
  (natural? digits).filter (· < UInt64.size)

end Stencil.Number
