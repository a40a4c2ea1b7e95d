import Stencil.Value.Compare

/-!
# Arguments

Filters and methods say which kinds of arguments they take. Arguments are converted from left to
right, each by its kind; one that is not given is converted as well, and whether too many are given
is asked at the end.
-/

namespace Stencil

/-- The kinds of arguments. -/
inductive ArgKind where
  /-- Any value; undefined if not given. -/
  | value
  /-- The text of any value; empty if missing. -/
  | text
  /-- Whether a condition with the value holds. -/
  | flag
  /-- A floating-point number. -/
  | float
  /-- An integer. -/
  | integer
  /-- An integer that is not negative. -/
  | size
  /-- The items of a sequence or the characters of a text. -/
  | list
  /-- An argument of another kind that may be missing. -/
  | optional (kind : ArgKind)
deriving DecidableEq, Repr

namespace ArgKind

/-- What an argument is converted to. -/
def Carrier : ArgKind → Type
  | .value => Value
  | .text => String
  | .flag => Bool
  | .float => Float
  | .integer => Int64
  | .size => Nat
  | .list => List Value
  | .optional k => Option k.Carrier

/-- The failure of an argument that has to be given. -/
def missingArgument : Error := .new .invalidArguments "missing argument"

/-- The failure of an argument of an unfit kind. -/
def unfit (expected : String) (v : Value) : Error :=
  .new .invalidArguments ("expected " ++ expected ++ ", got " ++ v.kind.name)

/-- The floating-point number that an argument is. -/
def toFloat : Option Value → Except Error Float
  | none => .error missingArgument
  | some (.int n) => .ok (Number.floatOfInt64 n)
  | some (.float x) => .ok x
  | some (.text s safe) =>
    match Number.readFloat? (Text.trim s.toList) with
    | some x => .ok x
    | none => .error (unfit "number" (.text s safe))
  | some v => .error (unfit "number" v)

/-- The integer that an argument is; a finite number loses what stands behind its point. -/
def toInteger : Option Value → Except Error Int64
  | none => .error missingArgument
  | some (.int n) => .ok n
  | some (.float x) =>
    if Number.isFinite x then .ok (Number.clampInt64 (Number.truncate x))
    else .error (unfit "integer" (.float x))
  | some (.text s safe) =>
    match Number.readInt64? (Text.trim s.toList) with
    | some n => .ok n
    | none => .error (unfit "integer" (.text s safe))
  | some v => .error (unfit "integer" v)

/-- The integer that an argument is, unless it is negative. -/
def toSize (v : Option Value) : Except Error Nat :=
  match toInteger v with
  | .error e => .error e
  | .ok n =>
    if n < 0 then
      .error (.new .invalidArguments
        ("expected non-negative integer, got " ++ Number.integerText n))
    else .ok n.toInt.toNat

/-- The values that an argument is made of. -/
def toItems : Option Value → Except Error (List Value)
  | none => .error missingArgument
  | some (.seq items) => .ok items
  | some (.text s _) => .ok (s.toList.map .ofChar)
  | some v => .error (unfit "sequence" v)

/-- Converts an argument, or what stands for one that is not given. -/
def convert : (k : ArgKind) → Option Value → Except Error k.Carrier
  | .value, v => .ok (v.getD .undefined)
  | .text, v => .ok (if (v.getD .undefined).isMissing then "" else (v.getD .undefined).display)
  | .flag, v => .ok (v.getD .undefined).isTrue
  | .float, v => toFloat v
  | .integer, v => toInteger v
  | .size, v => toSize v
  | .list, v => toItems v
  | .optional k, v =>
    if (v.getD .undefined).isMissing then .ok none else (k.convert v).map some

/-- A converted argument as a value. -/
def toValue : (k : ArgKind) → k.Carrier → Value
  | .value, v => v
  | .text, s => .plain s
  | .flag, b => .bool b
  | .float, x => .float x
  | .integer, n => .int n
  | .size, n => .ofNat n
  | .list, items => .seq items
  | .optional _, none => .null
  | .optional k, some x => k.toValue x

end ArgKind

/-- The arguments of the given kinds. -/
def Arguments : List ArgKind → Type
  | [] => Unit
  | k :: ks => k.Carrier × Arguments ks

namespace Arguments

/-- Converts the first values by the given kinds. -/
def convertEach : (ks : List ArgKind) → List Value → Except Error (Arguments ks)
  | [], _ => .ok ()
  | k :: ks, vs =>
    match k.convert vs.head? with
    | .error e => .error e
    | .ok x =>
      match convertEach ks vs.tail with
      | .error e => .error e
      | .ok xs => .ok (x, xs)

/-- The failure of more arguments than `n`. -/
def tooMany (n : Nat) : Error :=
  .new .invalidArguments ("too many arguments (expected at most " ++ toString n ++ ")")

/-- Converts values by the given kinds, one for each. -/
def ofValues (ks : List ArgKind) (vs : List Value) : Except Error (Arguments ks) :=
  match convertEach ks vs with
  | .error e => .error e
  | .ok xs => if ks.length < vs.length then .error (tooMany ks.length) else .ok xs

/-- Converted arguments as values. -/
def toValues : (ks : List ArgKind) → Arguments ks → List Value
  | [], _ => []
  | k :: ks, (x, xs) => k.toValue x :: toValues ks xs

end Arguments

end Stencil
