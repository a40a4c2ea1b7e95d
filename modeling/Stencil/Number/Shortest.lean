import Stencil.Number.Binary

/-!
# The shortest decimal that reads back

Of the decimals that round to a given number, one with the fewest digits is chosen, and of those the
nearest. All comparisons are exact.
-/

namespace Stencil.Number

/-- The number `digits * 10 ^ exponent`. -/
structure Decimal where
  /-- The significant digits as a number. -/
  digits : Nat
  /-- The power of ten. -/
  exponent : Int
deriving DecidableEq, Repr

/-- Which of two decimals of one length is chosen if both are equally near. -/
inductive Tie where
  /-- The one with the even last digit. -/
  | toEven
  /-- The greater one. -/
  | up
deriving DecidableEq, Repr

namespace Decimal

/-- Compares `a * 10 ^ i` with `n * 2 ^ j`. -/
def compareScaled (a : Nat) (i : Int) (n : Nat) (j : Int) : Ordering :=
  compare ((a * Nat.pow 10 i.toNat) <<< (-j).toNat) ((n <<< j.toNat) * Nat.pow 10 (-i).toNat)

/-- Whether the decimal rounds to `x`: it lies between the middles to both neighbours of `x`, the
middles included if the mantissa is even. Below a power of two the neighbour is half as far. -/
def readsBack (x : Binary) (d : Decimal) : Bool :=
  let narrow := x.mantissa = Binary.hiddenBit && -1074 < x.exponent
  let low := 4 * x.mantissa - if narrow then 1 else 2
  let high := 4 * x.mantissa + 2
  let closed := x.mantissa % 2 == 0
  let fromLow := compareScaled d.digits d.exponent low (x.exponent - 2)
  let toHigh := compareScaled d.digits d.exponent high (x.exponent - 2)
  (fromLow == .gt || closed && fromLow == .eq) && (toHigh == .lt || closed && toHigh == .eq)

/-- The least `k` with `x < 10 ^ k`, found among the neighbours of an estimate from the binary
logarithm. -/
def magnitude (x : Binary) : Int :=
  let estimate := (((x.mantissa.log2 : Int) + x.exponent) * 1233).fdiv 4096
  let isBound (k : Int) := compareScaled 1 k x.mantissa x.exponent == .gt
  ([estimate - 1, estimate, estimate + 1].find? isBound).getD (estimate + 2)

/-- The greatest multiple of `10 ^ g` that is at most `x`, in units of `10 ^ g`. -/
def floorOn (x : Binary) (g : Int) : Nat :=
  (x.mantissa <<< x.exponent.toNat * Nat.pow 10 (-g).toNat) /
    (Nat.pow 10 g.toNat <<< (-x.exponent).toNat)

/-- The multiple of `10 ^ g` that rounds to `x` and is nearest to it, if there is one. -/
def onGrid? (tie : Tie) (x : Binary) (g : Int) : Option Decimal :=
  let low : Decimal := ⟨floorOn x g, g⟩
  let high : Decimal := ⟨floorOn x g + 1, g⟩
  match readsBack x low, readsBack x high with
  | true, true =>
    match compareScaled (2 * low.digits + 1) g x.mantissa (x.exponent + 1), tie with
    | .gt, _ => some low
    | .lt, _ => some high
    | .eq, .up => some high
    | .eq, .toEven => if low.digits % 2 = 0 then some low else some high
  | true, false => some low
  | false, true => some high
  | false, false => none

/-- Moves trailing zeros, at most `fuel` of them, from the digits to the exponent. -/
def strip : (fuel : Nat) → Decimal → Decimal
  | 0, d => d
  | fuel + 1, d =>
    if d.digits % 10 = 0 then strip fuel ⟨d.digits / 10, d.exponent + 1⟩ else d

/-- The shortest decimal that rounds to a number other than zero. Seventeen digits always suffice;
the exact value stands behind them. -/
def shortest (tie : Tie) (x : Binary) : Decimal :=
  let k := magnitude x
  let lengths := (List.range 17).map fun n ↦ k - (n + 1 : Nat)
  match lengths.findSome? (onGrid? tie x) with
  | some d => strip 20 d
  | none =>
    let exact := x.mantissa <<< x.exponent.toNat * Nat.pow 5 (-x.exponent).toNat
    strip 2000 ⟨exact, min x.exponent 0⟩

end Decimal

end Stencil.Number
