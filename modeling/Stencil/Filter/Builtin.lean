import Stencil.Filter.Basic
import Stencil.Text.LetterCase
import Stencil.Text.Percent
import Stencil.Value.Conversion
import Stencil.Value.Exchange

/-!
# Built-in filters

The filters that are always there: for texts, sequences and numbers, for values that are missing,
and for writing values into markup, scripts and addresses. What they need from outside is told by
their surroundings.
-/

namespace Stencil.Filter

/-- What the built-in filters work with. -/
structure Surroundings where
  /-- Writes JSON. -/
  writeJson : JsonWriter
  /-- Writes percent encoding. -/
  percentEncode : Text.PercentEncoder
  /-- Where values are handed over, if the rendering takes place inside of a conversion. -/
  counter : Counter

/-- The usual surroundings, outside of all conversions. -/
def Surroundings.standard : Surroundings := ⟨.compact, .bytewise, {}⟩

/-- The failure of an operation on a value of an unfit kind. -/
def unfitFor (operation : String) (v : Value) : Except Error Value :=
  .error (.new .invalidOperation ("cannot " ++ operation ++ " " ++ v.kind.name))

/-! ### Texts -/

/-- The filter that changes the characters of a text. -/
def ofChars (f : List Char → List Char) : Filter :=
  ofMap .text fun s ↦ .ok (.ofChars (f (String.toList s)))

/-- Replaces every occurrence of a text by another one. -/
def replace : Filter :=
  of .text [.text, .text] fun _ s (old, new, _) ↦
    .ok (.ofChars (Text.replaceAll (String.toList old) (String.toList new) (String.toList s)))

/-! ### Values that are missing -/

/-- The value, or another one if it is missing or an empty text. -/
def fallback (v : Value) (other : Option Value) : Value :=
  if v.isMissing || v.asText? == some "" then other.getD (.plain "") else v

/-! ### Texts and sequences -/

/-- The number of characters, items or entries. -/
def length (v : Value) : Except Error Value :=
  match v.length? with
  | some n => .ok (.ofNat n)
  | none => unfitFor "calculate length of value of type" v

/-- The first character or item. -/
def first : Value → Value
  | .text s _ => (s.toList.head?.map .ofChar).getD .undefined
  | .seq items => items.head?.getD .undefined
  | _ => .undefined

/-- The last character or item. -/
def last : Value → Value
  | .text s _ => (s.toList.getLast?.map .ofChar).getD .undefined
  | .seq items => items.getLast?.getD .undefined
  | _ => .undefined

/-- The texts of the items, or the characters, with a separator between them. -/
def join (v : Value) (separator : List Char) : Except Error Value :=
  match v with
  | .undefined | .null => .ok (.plain "")
  | .text s _ => .ok (.ofChars (List.intercalate separator (s.toList.map ([·]))))
  | .seq items => .ok (.ofChars (List.intercalate separator (Value.slotTexts items)))
  | v => unfitFor "join value of type" v

/-- The characters or items in the opposite order. -/
def reverse (v : Value) : Except Error Value :=
  match v with
  | .text s _ => .ok (.ofChars s.toList.reverse)
  | .seq items => .ok (.seq items.reverse)
  | v => unfitFor "reverse value of type" v

/-! ### Numbers -/

/-- The number without its sign. -/
def absolute (v : Value) : Except Error Value :=
  match v with
  | .int n =>
    match Number.int64? n.toInt.natAbs with
    | some r => .ok (.int r)
    | none => .ok (.float (Number.floatOfInt64 n).abs)
  | .float x => .ok (.float x.abs)
  | v => unfitFor "get absolute value of" v

/-- The product of `r` and the power of `x` with the exponent `n`, by repeated squaring. -/
def timesPower (r x : Float) (n : Nat) : Float :=
  let r := if n % 2 = 1 then r * x else r
  if n / 2 = 0 then r else timesPower r (x * x) (n / 2)
termination_by n

/-- A power of ten. -/
def powerOfTen (n : Int) : Float :=
  let p := timesPower 1 10 n.natAbs
  if n < 0 then 1 / p else p

/-- The number rounded to a number of decimal places, which is kept within 300; a half goes away
from zero. -/
def round (v : Value) (places : Option Int64) : Except Error Value :=
  match v with
  | .int n => .ok (.int n)
  | .float x =>
    let scale := powerOfTen (max (-300) (min 300 (places.getD 0).toInt))
    .ok (.float (Number.roundAway (scale * x) / scale))
  | v => unfitFor "round value of type" v

/-- The value as an integer, without what stands behind the point. What is no finite number is
zero. -/
def toInteger (v : Value) : Value :=
  match v with
  | .int n => .int n
  | v =>
    match v.toNumber? with
    | some x =>
      if Number.isFinite x then .int (Number.clampInt64 (Number.truncate x)) else .int 0
    | none => .int 0

/-- The value as a floating-point number. What cannot be one is zero. -/
def toFloat (v : Value) : Value := .float (v.toNumber?.getD 0)

/-! ### Writing values -/

/-- The value as a safe text. -/
def escape (v : Value) : Value :=
  if v.isSafe then v else .text (String.ofList (Escaping.html.write v)) true

/-- The value as a safe text with a break in front of each line feed. -/
def breakLines (v : Value) : Value :=
  let s := Text.replaceAll ['\r', '\n'] ['\n'] (escape v).chars
  .text (String.ofList (Text.replaceAll ['\n'] "<br>\n".toList s)) true

/-- One character of JSON inside of markup. -/
def inertChar (c : Char) : List Char :=
  if c == '<' || c == '>' || c == '&' || c == '\'' then '\\' :: 'u' :: Text.hexDigits 4 c.toNat
  else [c]

/-- The value in JSON, as a safe text without characters of markup. Like every serializer, the
writer is given what the value gives, which is a ticket inside of a conversion. -/
def toJson (around : Surroundings) (v : Value) : Except Error Value := do
  let form ← (v.serialize.run.run around.counter).1
  match around.writeJson form with
  | some s => return .text (String.ofList (s.flatMap inertChar)) true
  | none => throw (.new .invalidOperation "cannot serialize to JSON")

/-- The value is written from the form that it gives. -/
theorem toJson_eq (around : Surroundings) (v : Value) :
    toJson around v =
      match around.writeJson
        (if around.counter.active then .ticket (around.counter.lastTicket + 1) else v.form) with
      | some s => .ok (.text (String.ofList (s.flatMap inertChar)) true)
      | none => .error (.new .invalidOperation "cannot serialize to JSON") := by
  rw [toJson, Value.run_serialize]
  rfl

/-- The bytes that do not stand for themselves in an address. -/
def addressSet : Text.AsciiSet :=
  Text.AsciiSet.nonAlphanumeric |>.remove '/' |>.remove '.' |>.remove '-' |>.remove '_' |>.add ' '

/-- A text in an address. -/
def inAddress (around : Surroundings) (s : List Char) : List Char :=
  around.percentEncode addressSet s

/-- The entries of a map that are not missing, as parts of an address. -/
def queryPairs (around : Surroundings) (entries : List (String × Value)) : List (List Char) :=
  (entries.filter fun e ↦ !e.2.isMissing).map fun e ↦
    inAddress around e.1.toList ++ '=' :: inAddress around e.2.chars

/-- The text of a value as it stands in an address, or the query of a map. -/
def urlEncode (around : Surroundings) (v : Value) : Value :=
  match v with
  | .map rows => .ofChars (List.intercalate ['&'] (queryPairs around rows.entries))
  | .undefined | .null => .plain ""
  | v => .ofChars (inAddress around v.chars)

/-- The built-in filters by name. -/
def builtins (around : Surroundings) : List (String × Filter) := [
  ("abs", ofMap .value absolute),
  ("capitalize", ofChars Text.capitalize),
  ("count", ofMap .value length),
  ("default", of .value [.optional .value] fun _ v (other, _) ↦ .ok (fallback v other)),
  ("e", ofMap .value fun v ↦ .ok (escape v)),
  ("escape", ofMap .value fun v ↦ .ok (escape v)),
  ("first", ofMap .value fun v ↦ .ok (first v)),
  ("float", ofMap .value fun v ↦ .ok (toFloat v)),
  ("int", ofMap .value fun v ↦ .ok (toInteger v)),
  ("join", of .value [.optional .text] fun _ v (separator, _) ↦
    join v (String.toList (Option.getD separator ""))),
  ("last", ofMap .value fun v ↦ .ok (last v)),
  ("length", ofMap .value length),
  ("lower", ofChars Text.lower),
  ("nl2br", ofMap .value fun v ↦ .ok (breakLines v)),
  ("replace", replace),
  ("reverse", ofMap .value reverse),
  ("round", of .value [.optional .integer] fun _ v (places, _) ↦ round v places),
  ("tojson", ofMap .value (toJson around)),
  ("trim", ofChars Text.trim),
  ("upper", ofChars Text.upper),
  ("urlencode", ofMap .value fun v ↦ .ok (urlEncode around v))]

/-! ### What the built-in filters look at -/

/-- Whether a filter makes nothing of what it can see of the rendering. -/
def IsBlind (f : Filter) : Prop := ∀ view view' vs, f view vs = f view' vs

/-- The built-in filters make nothing of what they can see of the rendering. -/
theorem isBlind_builtins (around : Surroundings) : ∀ e ∈ builtins around, IsBlind e.2 := by
  simp only [builtins, List.forall_mem_cons, List.not_mem_nil, false_implies, implies_true,
    and_true]
  repeat' apply And.intro
  all_goals
    intro view view' vs
    rfl

end Stencil.Filter
