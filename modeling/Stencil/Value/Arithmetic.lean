import Stencil.Value.Compare

/-!
# Arithmetic on values

Two integers give an integer where the exact result fits 64 bits, and division always gives a
floating-point number. Everything else is calculated in floating point after conversion to numbers.
Addition joins texts as soon as one side is a text or is written as one.
-/

namespace Stencil.Value

/-- The failure of an operator on values that are no numbers. -/
def unsupported (operator : String) (a b : Value) : Error :=
  .new .invalidOperation
    ("tried to use " ++ operator ++ " operator on unsupported types " ++ a.kind.name ++ " and " ++
      b.kind.name)

/-- Both values as floating-point numbers. -/
def numbers (operator : String) (a b : Value) : Except Error (Float × Float) :=
  match a.toNumber?, b.toNumber? with
  | some x, some y => .ok (x, y)
  | _, _ => .error (unsupported operator a b)

/-- An operation on numbers: exact on two integers if there is a result, and else in floating
point. -/
def arithmetic (operator : String) (exact : Int64 → Int64 → Option Int64)
    (approximate : Float → Float → Float) (a b : Value) : Except Error Value :=
  let result : Except Error Value :=
    (numbers operator a b).map fun (x, y) ↦ .float (approximate x y)
  match numberPair? a b with
  | some (.ints m n) =>
    match exact m n with
    | some r => .ok (.int r)
    | none => result
  | _ => result

/-- Whether addition treats the value as a text. -/
def isTextual (v : Value) : Bool := v.kind == .string || v.isCompound

/-- The sum of two numbers, or two texts joined. -/
def add (a b : Value) : Except Error Value :=
  if a.isTextual || b.isTextual then .ok (.ofChars (a.chars ++ b.chars))
  else
    arithmetic "+" (fun m n ↦ Number.int64? (m.toInt + n.toInt)) (· + ·) a b

/-- The difference of two numbers. -/
def sub (a b : Value) : Except Error Value :=
  arithmetic "-" (fun m n ↦ Number.int64? (m.toInt - n.toInt)) (· - ·) a b

/-- The product of two numbers. -/
def mul (a b : Value) : Except Error Value :=
  arithmetic "*" (fun m n ↦ Number.int64? (m.toInt * n.toInt)) (· * ·) a b

/-- The remainder of two integers with the sign of the first one. There is none by zero, nor where
the quotient does not fit. -/
def exactRemainder? (m n : Int64) : Option Int64 :=
  if n = 0 then none
  else if (Number.int64? (m.toInt.tdiv n.toInt)).isNone then none
  else Number.int64? (m.toInt.tmod n.toInt)

/-- The remainder of two numbers, with the sign of the first one. -/
def rem (a b : Value) : Except Error Value :=
  arithmetic "%" exactRemainder? Number.remainder a b

/-- The quotient of two numbers, always in floating point. -/
def div (a b : Value) : Except Error Value :=
  (numbers "/" a b).map fun (x, y) ↦ .float (x / y)

/-- A number as an integer if it is one of less than 64 bits. -/
def ofNumber (x : Float) : Value :=
  let n := Number.truncate x
  if Number.isIntegral x && n.natAbs < Int64.minValue.toInt.natAbs then .int (Int64.ofInt n)
  else .float x

/-- The number with the opposite sign. -/
def negate (v : Value) : Except Error Value :=
  match v with
  | .int n =>
    match Number.int64? (-n.toInt) with
    | some r => .ok (.int r)
    | none => .ok (.float (-Number.floatOfInt64 n))
  | .float x => .ok (.float (-x))
  | v =>
    match v.toNumber? with
    | some x => .ok (ofNumber (-x))
    | none => .error (.new .invalidOperation ("cannot negate " ++ v.kind.name))

/-- The value as a number. -/
def toNumeric (v : Value) : Except Error Value :=
  match v with
  | .int n => .ok (.int n)
  | .float x => .ok (.float x)
  | v =>
    match v.toNumber? with
    | some x => .ok (ofNumber x)
    | none =>
      .error (.new .invalidOperation ("cannot convert " ++ v.kind.name ++ " to a number"))

end Stencil.Value
