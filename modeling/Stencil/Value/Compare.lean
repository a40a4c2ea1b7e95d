import Stencil.Number.Reader
import Stencil.Text.Blank
import Stencil.Value.Written

/-!
# Comparing values

Equality of values compares their structure, integers and floating-point numbers by their value.
Loose equality and the order relations of the expression language bring both sides to numbers first,
two texts excepted.
-/

namespace Stencil.Value

/-- Two numbers in one representation. -/
inductive NumberPair where
  /-- Two integers. -/
  | ints (a b : Int64)
  /-- Two floating-point numbers. -/
  | floats (a b : Float)

/-- Two numbers as a pair of integers if both are, and of floating-point numbers otherwise. -/
def numberPair? : Value → Value → Option NumberPair
  | .int a, .int b => some (.ints a b)
  | .float a, .float b => some (.floats a b)
  | .int a, .float b => some (.floats (Number.floatOfInt64 a) b)
  | .float a, .int b => some (.floats a (Number.floatOfInt64 b))
  | _, _ => none

/-- Whether both values are numbers, and equal ones. -/
def equalNumbers (a b : Value) : Bool :=
  match numberPair? a b with
  | some (.ints a b) => a == b
  | some (.floats a b) => a == b
  | none => false

mutual

/-- Whether two values are equal. Safe texts equal those that are not, and maps are equal whatever
the order of their entries. -/
def equal : Value → Value → Bool
  | .undefined, .undefined => true
  | .null, .null => true
  | .bool a, .bool b => a == b
  | .text a _, .text b _ => a == b
  | .seq a, .seq b => equalItems a b
  | .map a, .map b => a.entries.length == b.entries.length && entriesWithin a b
  | .regex a, .regex b => a.source == b.source && a.flags == b.flags
  | a, b => equalNumbers a b
termination_by a b => sizeOf a + sizeOf b

/-- Whether two sequences have equal items. -/
def equalItems : List Value → List Value → Bool
  | [], [] => true
  | a :: as, b :: bs => equal a b && equalItems as bs
  | _, _ => false
termination_by as bs => sizeOf as + sizeOf bs

/-- Whether the value of every entry equals what is found under its name among others. -/
def entriesWithin {names others : List String} : Rows names → Rows others → Bool
  | .nil, _ => true
  | .cons key a _ rest, rows =>
    (match hb : Entries.get? key rows.entries with
      | some b =>
        have : sizeOf b < sizeOf rows := Rows.sizeOf_lt_of_mem (Entries.mem_of_get? hb)
        equal b a
      | none => false) && entriesWithin rest rows
termination_by rest rows => sizeOf rest + sizeOf rows

end

instance : BEq Value := ⟨equal⟩

/-- Integers are equal as numbers. -/
@[simp] theorem int_beq_int (a b : Int64) : (Value.int a == .int b) = (a == b) := by
  change equal (.int a) (.int b) = _
  rw [equal]
  · rfl
  all_goals nofun

/-- Texts are equal if their characters are. -/
@[simp] theorem text_beq_text (a b : String) (safe safe' : Bool) :
    (Value.text a safe == .text b safe') = (a == b) := by
  change equal (.text a safe) (.text b safe') = _
  rw [equal]

/-- The order of two floating-point numbers, unless one is no number. -/
def compareFloats? (a b : Float) : Option Ordering :=
  if a < b then some .lt
  else if a == b then some .eq
  else if b < a then some .gt
  else none

/-- The order of two values, where there is one: of texts by code points and of numbers by value. -/
def compare? : Value → Value → Option Ordering
  | .text a _, .text b _ => some (compare a b)
  | a, b =>
    match numberPair? a b with
    | some (.ints a b) => some (compare a b)
    | some (.floats a b) => compareFloats? a b
    | none => none

/-- The number that a text is taken for: blanks at its ends do not count, an empty text is zero, and
one that reads as no number is no number. -/
def numberOfText (s : List Char) : Float :=
  let s := Text.trim s
  if s.isEmpty then 0 else (Number.readFloat? s).getD Number.notANumber

/-- The number that a value is taken for. Sequences, maps and regular expressions are taken for
none. -/
def toNumber? : Value → Option Float
  | .undefined => some Number.notANumber
  | .null => some 0
  | .bool b => some (if b then 1 else 0)
  | .int n => some (Number.floatOfInt64 n)
  | .float x => some x
  | .text s _ => some (numberOfText s.toList)
  | .seq _ => none
  | .map _ => none
  | .regex _ => none

/-- Whether the value is a sequence, a map or a regular expression. -/
def isCompound (v : Value) : Bool :=
  match v.kind with
  | .sequence | .map | .regex => true
  | _ => false

/-- The equality that converts. Missing values equal each other and nothing else, values of one kind
compare as they are, sequences, maps and regular expressions by their text, and the others as
numbers. -/
def looselyEqual (a b : Value) : Bool :=
  if a.isMissing || b.isMissing then a.isMissing && b.isMissing
  else if a.kind == b.kind then a == b
  else if a.isCompound || b.isCompound then a.display == b.display
  else
    match a.toNumber?, b.toNumber? with
    | some x, some y => x == y
    | _, _ => false

/-- The equality that does not convert: values of different kinds are never equal. -/
def strictlyEqual (a b : Value) : Bool := a.kind == b.kind && a == b

/-- The order that converts: two texts by code points, and all other values as numbers. -/
def relate? (a b : Value) : Option Ordering :=
  match a.asText?, b.asText? with
  | some a, some b => some (compare a b)
  | _, _ =>
    match a.toNumber?, b.toNumber? with
    | some x, some y => compareFloats? x y
    | _, _ => none

end Stencil.Value
