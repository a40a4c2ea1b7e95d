import Stencil.Entries
import Stencil.Number.Binary
import Stencil.Number.Integer
import Stencil.Regex

/-!
# Values

The data of templates: missing values, booleans, numbers, texts, sequences, maps and regular
expressions. A text may be marked as safe, which exempts it from escaping and changes nothing else.
-/

namespace Stencil

mutual

/-- A value in a template. -/
inductive Value where
  /-- The value of what does not exist. -/
  | undefined
  /-- The value that is intentionally empty. -/
  | null
  /-- A truth value. -/
  | bool (b : Bool)
  /-- An integer of 64 bits. -/
  | int (n : Int64)
  /-- A floating-point number. -/
  | float (x : Float)
  /-- A text, safe or not. -/
  | text (s : String) (safe : Bool)
  /-- A sequence of values. -/
  | seq (items : List Value)
  /-- A map from names to values, in order of insertion. -/
  | map {names : List String} (rows : Rows names)
  /-- A regular expression. -/
  | regex (r : Regex)

/-- The entries of a map, which has each of the names once. -/
inductive Rows : List String → Type where
  /-- No entries. -/
  | nil : Rows []
  /-- An entry in front of others. -/
  | cons {names : List String} (name : String) (v : Value) (fresh : name ∉ names)
      (rest : Rows names) : Rows (name :: names)

end

namespace Rows

/-- The entries as a list. -/
def entries {names : List String} : Rows names → List (String × Value)
  | .nil => []
  | .cons name v _ rest => (name, v) :: rest.entries

/-- What a function makes of the entries. -/
def map {α : Type} {names : List String} (rows : Rows names) (f : String × Value → α) : List α :=
  rows.entries.map f

/-- The entries of a list whose names are distinct. -/
def ofList : (es : List (String × Value)) → (es.map (·.1)).Nodup → Rows (es.map (·.1))
  | [], _ => .nil
  | (name, v) :: es, h =>
    .cons name v (List.nodup_cons.mp h).1 (ofList es (List.nodup_cons.mp h).2)

/-- What holds without entries, and with one more in front, holds of all entries. -/
@[induction_eliminator]
theorem induction {motive : (names : List String) → Rows names → Prop} (nil : motive [] .nil)
    (cons : ∀ {names : List String} (name : String) (v : Value) (fresh : name ∉ names)
      (rest : Rows names), motive names rest → motive (name :: names) (.cons name v fresh rest)) :
    ∀ {names : List String} (rows : Rows names), motive names rows
  | _, .nil => nil
  | _, .cons name v fresh rest => cons name v fresh rest (induction nil cons rest)

variable {names : List String}

/-- The names are those of the entries. -/
@[simp] theorem map_fst_entries (rows : Rows names) : rows.entries.map (·.1) = names := by
  induction rows with
  | nil => rfl
  | cons name v fresh rest ih => rw [entries, List.map_cons, ih]

/-- No name comes twice. -/
theorem nodup (rows : Rows names) : names.Nodup := by
  induction rows with
  | nil => exact List.nodup_nil
  | cons name v fresh rest ih => exact List.nodup_cons.mpr ⟨fresh, ih⟩

/-- No name of the entries comes twice. -/
theorem nodup_map_fst_entries (rows : Rows names) : (rows.entries.map (·.1)).Nodup := by
  rw [map_fst_entries]
  exact rows.nodup

/-- A list of entries is kept. -/
@[simp] theorem entries_ofList {es : List (String × Value)} (h : (es.map (·.1)).Nodup) :
    (ofList es h).entries = es := by
  induction es with
  | nil => rfl
  | cons e es ih => rw [ofList, entries, ih]

/-- A value among the entries is smaller than they are. -/
theorem sizeOf_lt_of_mem {rows : Rows names} {e : String × Value} (h : e ∈ rows.entries) :
    sizeOf e.2 < sizeOf rows := by
  induction rows with
  | nil => cases h
  | cons name v fresh rest ih =>
    rw [Rows.cons.sizeOf_spec]
    rcases List.mem_cons.mp h with rfl | h
    · dsimp only
      omega
    · have := ih h
      omega

end Rows

/-- Maps with the same entries are the same. -/
theorem Value.map_eq_map : ∀ {names names' : List String} {rows : Rows names} {rows' : Rows names'},
    rows.entries = rows'.entries → Value.map rows = .map rows'
  | _, _, .nil, .nil, _ => rfl
  | _, _, .cons .., .cons .., h => by
    obtain ⟨⟨⟩, hrest⟩ := List.cons.inj h
    cases map_eq_map hrest
    rfl

/-- The kinds of values; integers and floating-point numbers are of one kind. -/
inductive ValueKind where
  /-- What does not exist. -/
  | undefined
  /-- What is intentionally empty. -/
  | null
  /-- Truth values. -/
  | bool
  /-- Numbers. -/
  | number
  /-- Texts. -/
  | string
  /-- Sequences. -/
  | sequence
  /-- Maps. -/
  | map
  /-- Regular expressions. -/
  | regex
deriving DecidableEq, Repr

/-- The kind in words. -/
def ValueKind.name : ValueKind → String
  | .undefined => "undefined"
  | .null => "null"
  | .bool => "bool"
  | .number => "number"
  | .string => "string"
  | .sequence => "sequence"
  | .map => "map"
  | .regex => "regex"

namespace Value

/-- The kind of a value. -/
def kind : Value → ValueKind
  | .undefined => .undefined
  | .null => .null
  | .bool _ => .bool
  | .int _ => .number
  | .float _ => .number
  | .text _ _ => .string
  | .seq _ => .sequence
  | .map _ => .map
  | .regex _ => .regex

/-- A text that is not safe. -/
def plain (s : String) : Value := .text s false

/-- A text that is not safe, from its characters. -/
def ofChars (s : List Char) : Value := .plain (String.ofList s)

/-- A text of one character. -/
def ofChar (c : Char) : Value := .ofChars [c]

/-- A natural number, as an integer if it fits. -/
def ofNat (n : Nat) : Value :=
  match Number.int64? n with
  | some i => .int i
  | none => .float (Float.ofNat n)

/-- The map of a table. -/
def ofTable (table : Table Value) : Value := .map (.ofList table.entries table.distinct)

/-- Whether the value is undefined or null. -/
def isMissing : Value → Bool
  | .undefined => true
  | .null => true
  | _ => false

/-- Whether the value is a safe text. -/
def isSafe : Value → Bool
  | .text _ safe => safe
  | _ => false

/-- Whether a condition with this value holds. Missing values, zero, no number and the empty text
are false. -/
def isTrue : Value → Bool
  | .undefined => false
  | .null => false
  | .bool b => b
  | .int n => n != 0
  | .float x => x != 0 && !x.isNaN
  | .text s _ => !s.toList.isEmpty
  | .seq _ => true
  | .map _ => true
  | .regex _ => true

/-- The text of a text. -/
def asText? : Value → Option String
  | .text s _ => some s
  | _ => none

/-- The number of a number. -/
def asFloat? : Value → Option Float
  | .int n => some (Number.floatOfInt64 n)
  | .float x => some x
  | _ => none

/-- The items of a sequence. -/
def asItems? : Value → Option (List Value)
  | .seq items => some items
  | _ => none

/-- The entries of a map. -/
def asEntries? : Value → Option (List (String × Value))
  | .map rows => some rows.entries
  | _ => none

/-- The regular expression of a regular expression. -/
def asRegex? : Value → Option Regex
  | .regex r => some r
  | _ => none

/-- The number of characters of a text, of items of a sequence or of entries of a map. -/
def length? : Value → Option Nat
  | .text s _ => some s.toList.length
  | .seq items => some items.length
  | .map rows => some rows.entries.length
  | _ => none

/-- The pairs of key and value that a loop runs over: the positions and items of a sequence, the
positions and characters of a text, and the entries of a map. -/
def iterationPairs : Value → List (Value × Value)
  | .seq items => items.zipIdx.map fun (item, i) ↦ (.ofNat i, item)
  | .text s _ => s.toList.zipIdx.map fun (c, i) ↦ (.ofNat i, .ofChar c)
  | .map rows => rows.map fun (key, value) ↦ (.plain key, value)
  | _ => []

end Value

end Stencil
