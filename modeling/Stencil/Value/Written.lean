import Stencil.Number.Layout
import Stencil.Value.Basic

/-!
# The text of a value

Every value has a text, which is what a template writes. A sequence is written as its items with
commas between them, missing ones as nothing, and a map without its entries. A second form, for
diagnosis, shows the structure of the value.
-/

namespace Stencil.Value

/-- The text of a truth value. -/
def boolChars (b : Bool) : List Char := if b then "true".toList else "false".toList

/-- The text of a floating-point number. -/
def floatChars (x : Float) : List Char :=
  (Number.Layout.writeFloat .plain "Infinity" "NaN" x).toList

mutual

/-- The characters of the text of a value. -/
def chars : Value → List Char
  | .undefined => "undefined".toList
  | .null => "null".toList
  | .bool b => boolChars b
  | .int n => (Number.integerText n).toList
  | .float x => floatChars x
  | .text s _ => s.toList
  | .seq items => List.intercalate [','] (slotTexts items)
  | .map _ => "[object Object]".toList
  | .regex r => r.chars

/-- The texts of the items of a sequence. Missing items leave their slots empty. -/
def slotTexts : List Value → List (List Char)
  | [] => []
  | v :: vs => (if v.isMissing then [] else v.chars) :: slotTexts vs

end

/-- The text of a value. -/
def display (v : Value) : String := String.ofList v.chars

mutual

/-- The characters that show the structure of a value. -/
def structureChars : Value → List Char
  | .undefined => "undefined".toList
  | .null => "null".toList
  | .bool b => boolChars b
  | .int n => (Number.integerText n).toList
  | .float x => (Number.Layout.writeFloat .diagnostic "inf" "NaN" x).toList
  | .text s _ => Text.quoted s.toList
  | .seq items => '[' :: List.intercalate [',', ' '] (itemStructures items) ++ [']']
  | .map rows => '\x7b' :: List.intercalate [',', ' '] (entryStructures rows) ++ ['\x7d']
  | .regex r => r.chars

/-- The structures of the items of a sequence. -/
def itemStructures : List Value → List (List Char)
  | [] => []
  | v :: vs => v.structureChars :: itemStructures vs

/-- The structures of the entries of a map. -/
def entryStructures {names : List String} : Rows names → List (List Char)
  | .nil => []
  | .cons key v _ rest =>
    (Text.quoted key.toList ++ [':', ' '] ++ v.structureChars) :: entryStructures rest

end

/-- The structure of a value, for diagnosis. -/
def describe (v : Value) : String := String.ofList v.structureChars

end Stencil.Value
