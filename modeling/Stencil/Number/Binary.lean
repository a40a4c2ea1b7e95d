/-!
# Finite floating-point numbers as exact numbers

A finite number of double precision is an integer times a power of two. On this form the operations
that round to an integer or take a remainder are exact integer arithmetic.
-/

namespace Stencil.Number

/-- The number `± mantissa * 2 ^ exponent`. Zero keeps its sign. -/
structure Binary where
  /-- Whether the sign is minus. -/
  negative : Bool
  /-- The integer factor. -/
  mantissa : Nat
  /-- The power of two. -/
  exponent : Int
deriving DecidableEq, Repr

namespace Binary

/-- The least mantissa of a normal number, whose leading bit is not stored. -/
def hiddenBit : Nat := 1 <<< 52

/-- The parts of a finite number, or nothing for an infinity or no number. -/
def ofFloat? (x : Float) : Option Binary :=
  let bits := x.toBits.toNat
  let negative := bits >>> 63 == 1
  let e : Nat := bits / hiddenBit % 2048
  let f : Nat := bits % hiddenBit
  if e = 2047 then none
  else if e = 0 then some ⟨negative, f, -1074⟩
  else some ⟨negative, hiddenBit + f, (e : Int) - 1075⟩

/-- Multiplies by a power of two; a negative power drops the digits behind the point. -/
def scale (n : Nat) (k : Int) : Nat :=
  if 0 ≤ k then n <<< k.toNat else n >>> (-k).toNat

/-- The floating-point number of this value, exact if the value has at most 53 significant bits in
the range of double precision. -/
def toFloat (x : Binary) : Float :=
  let magnitude :=
    if x.mantissa = 0 then 0
    else
      let top := (x.mantissa.log2 : Int) + x.exponent
      if top < -1022 then scale x.mantissa (x.exponent + 1074)
      else if 1023 < top then 2047 * hiddenBit
      else
        scale x.mantissa (52 - x.mantissa.log2) - hiddenBit + (top + 1023).toNat * hiddenBit
  Float.ofBits (UInt64.ofNat (magnitude + if x.negative then 1 <<< 63 else 0))

/-- Puts the sign on a magnitude. -/
def signed (negative : Bool) (n : Nat) : Int := if negative then -(n : Int) else n

/-- The integer part, toward zero. -/
def truncate (x : Binary) : Int := signed x.negative (scale x.mantissa x.exponent)

/-- Whether nothing stands behind the point. -/
def isIntegral (x : Binary) : Bool :=
  0 ≤ x.exponent || x.mantissa % (1 <<< (-x.exponent).toNat) == 0

/-- The nearest integer, a half going away from zero, with the sign of the number. -/
def roundAway (x : Binary) : Binary :=
  if 0 ≤ x.exponent then x
  else
    let den := 1 <<< (-x.exponent).toNat
    ⟨x.negative, (2 * x.mantissa + den) / (2 * den), 0⟩

/-- The remainder of the division that rounds toward zero, with the sign of the dividend, for a
divisor other than zero. -/
def remainder (x y : Binary) : Binary :=
  let e := min x.exponent y.exponent
  ⟨x.negative, scale x.mantissa (x.exponent - e) % scale y.mantissa (y.exponent - e), e⟩

end Binary

/-- Whether the number is finite and has nothing behind the point. -/
def isIntegral (x : Float) : Bool := ((Binary.ofFloat? x).map Binary.isIntegral).getD false

/-- Whether the number is neither infinite nor no number. -/
def isFinite (x : Float) : Bool := (Binary.ofFloat? x).isSome

/-- The integer part of a finite number, toward zero, and zero for any other. -/
def truncate (x : Float) : Int := ((Binary.ofFloat? x).map Binary.truncate).getD 0

/-- The nearest integer, a half going away from zero. Infinities and no number stay. -/
def roundAway (x : Float) : Float :=
  match Binary.ofFloat? x with
  | some b => b.roundAway.toFloat
  | none => x

/-- No number. -/
def notANumber : Float := Float.ofBits 0x7FF8000000000000

/-- The positive infinity. -/
def infinity : Float := Float.ofBits 0x7FF0000000000000

/-- The remainder of the division that rounds toward zero. It is no number if the dividend is not
finite or the divisor is zero, and the dividend itself if the divisor is infinite. -/
def remainder (x y : Float) : Float :=
  match Binary.ofFloat? x, Binary.ofFloat? y with
  | some a, some b => if b.mantissa = 0 then notANumber else (a.remainder b).toFloat
  | some _, none => if y.isNaN then notANumber else x
  | none, _ => notANumber

/-- The number as double precision. -/
def floatOfInt64 (n : Int64) : Float := Float.ofInt n.toInt

end Stencil.Number
