import Stencil.Text.Hex
import Stencil.Value.Form
import Stencil.Value.Written

/-!
# Forms for data exchange

Compact JSON of what a serializer is given: nothing is `null`, as are numbers that are not finite,
and a variant is its name. In strings the quote, the backslash and the controls are escaped. A
writer of JSON is known by what it does with each form.
-/

namespace Stencil

namespace Form

/-- The letter that stands for a character behind a backslash in a JSON string. -/
def jsonLetter? (c : Char) : Option Char :=
  match c with
  | '"' => some '"'
  | '\\' => some '\\'
  | '\x08' => some 'b'
  | '\x0c' => some 'f'
  | '\n' => some 'n'
  | '\r' => some 'r'
  | '\t' => some 't'
  | _ => none

/-- One character as it stands in a JSON string. -/
def jsonChar (c : Char) : List Char :=
  match jsonLetter? c with
  | some l => ['\\', l]
  | none => if c.toNat < 0x20 then '\\' :: 'u' :: Text.hexDigits 4 c.toNat else [c]

/-- A JSON string. -/
def jsonString (s : List Char) : List Char := '"' :: s.flatMap jsonChar ++ ['"']

/-- A JSON array of items that are written already. -/
def jsonArray (texts : List (List Char)) : List Char :=
  '[' :: List.intercalate [','] texts ++ [']']

/-- An entry of a JSON object, with a value that is written already. -/
def jsonEntry (name : String) (text : List Char) : List Char :=
  jsonString name.toList ++ ':' :: text

/-- A JSON object of entries that are written already. -/
def jsonObject (texts : List (List Char)) : List Char :=
  '\x7b' :: List.intercalate [','] texts ++ ['\x7d']

mutual

/-- The characters of a form in JSON. -/
def jsonChars : Form → List Char
  | .unit => "null".toList
  | .bool b => Value.boolChars b
  | .integer n => (Number.integerText n).toList
  | .double x =>
    if Number.isFinite x then (Number.Layout.writeFloat .exchange "" "" x).toList else "null".toList
  | .text s => jsonString s.toList
  | .seq items => jsonArray (jsonItems items)
  | .map entries => jsonObject (jsonEntries entries)
  | .variant _ _ name => jsonString name.toList

/-- The items of a sequence in JSON. -/
def jsonItems : List Form → List (List Char)
  | [] => []
  | f :: fs => f.jsonChars :: jsonItems fs

/-- The entries of a map in JSON. -/
def jsonEntries : List (String × Form) → List (List Char)
  | [] => []
  | (name, f) :: fs => jsonEntry name f.jsonChars :: jsonEntries fs

end

end Form

/-- A writer of JSON, which may fail. -/
abbrev JsonWriter := Form → Option (List Char)

namespace JsonWriter

/-- What is known of a writer: it writes compact JSON with the usual escapes in strings. -/
structure IsCompact (write : JsonWriter) : Prop where
  /-- Nothing is a word. -/
  unit : write .unit = some "null".toList
  /-- A truth value is a word. -/
  bool (b : Bool) : write (.bool b) = some (Value.boolChars b)
  /-- An integer is written in decimal. -/
  integer (n : Int64) : write (.integer n) = some (Number.integerText n).toList
  /-- A text is a string. -/
  text (s : String) : write (.text s) = some (Form.jsonString s.toList)
  /-- A sequence of items that can be written is an array. -/
  seq {items : List Form} {texts : List (List Char)} (h : items.map write = texts.map some) :
    write (.seq items) = some (Form.jsonArray texts)
  /-- A map with values that can be written is an object. -/
  map {entries : List (String × Form)} {texts : List (List Char)}
    (h : entries.map (fun e ↦ write e.2) = texts.map some) :
    write (.map entries) =
      some (Form.jsonObject (List.zipWith (fun e text ↦ Form.jsonEntry e.1 text) entries texts))
  /-- A variant without data is the string of its name. -/
  variant (enumeration : String) (position : UInt32) (name : String) :
    write (.variant enumeration position name) = some (Form.jsonString name.toList)

/-- The writer that never fails. -/
def compact : JsonWriter := fun f ↦ some f.jsonChars

private theorem jsonItems_eq (fs : List Form) : Form.jsonItems fs = fs.map Form.jsonChars := by
  induction fs with
  | nil => rfl
  | cons f fs ih => rw [Form.jsonItems, List.map_cons, ih]

private theorem jsonEntries_eq (es : List (String × Form)) :
    Form.jsonEntries es = es.map fun e ↦ Form.jsonEntry e.1 e.2.jsonChars := by
  induction es with
  | nil => rfl
  | cons e es ih => rw [Form.jsonEntries, List.map_cons, ih]

private theorem eq_of_map_some {texts texts' : List (List Char)}
    (h : texts.map some = texts'.map some) : texts = texts' :=
  List.map_inj_right (fun _ _ ↦ Option.some.inj) |>.mp h

/-- It writes compact JSON. -/
theorem isCompact_compact : compact.IsCompact where
  unit := rfl
  bool _ := rfl
  integer _ := rfl
  text _ := rfl
  seq {items texts} h := by
    have htexts : items.map Form.jsonChars = texts :=
      eq_of_map_some (by rw [List.map_map]; exact h)
    rw [compact, Form.jsonChars, jsonItems_eq, htexts]
  map {entries texts} h := by
    have htexts : entries.map (fun e ↦ e.2.jsonChars) = texts :=
      eq_of_map_some (by rw [List.map_map]; exact h)
    rw [compact, Form.jsonChars, jsonEntries_eq, ← htexts, List.zipWith_map_right,
      List.zipWith_self]
  variant _ _ _ := rfl

end JsonWriter

end Stencil
