import Stencil.Proofs.Exchange.Json
import Stencil.Proofs.Markup

/-!
# Values in JSON inside of markup

The filter for JSON has a value written by a writer of compact JSON and then replaces the characters
of markup in what was written. They stand in strings only, and none of them belongs to an escape, so
that a code unit in hexadecimal digits may stand in their place. What the filter writes is read as
the data of the value, which is told by induction on the value: each part is read as its own data
wherever it stands. Main statement: `read?_tojson`.
-/

namespace Stencil

open Stencil.Filter (inertChar ne_of_mem_inertChar)
open Form (jsonLetter? jsonChar jsonString jsonArray jsonEntry jsonObject)

namespace Value

/-! ### The data of a value -/

/-- A floating-point number stands in a value, at any depth. -/
inductive HasFloat : Value → Prop where
  /-- The value is a floating-point number. -/
  | float (x : Float) : HasFloat (.float x)
  /-- An item of a sequence holds one. -/
  | seq {v : Value} {items : List Value} (hv : v ∈ items) (h : HasFloat v) : HasFloat (.seq items)
  /-- An entry of a map holds one. -/
  | map {e : String × Value} {names : List String} {rows : Rows names} (he : e ∈ rows.entries)
      (h : HasFloat e.2) : HasFloat (.map rows)

mutual

/-- The data of a value, if it is exact: what is missing is null, a safe text is one like any other,
and a regular expression is the text of its source and its flags. -/
def data? : Value → Option Json
  | .undefined | .null => some .null
  | .bool b => some (.bool b)
  | .int n => some (.number n.toInt 0)
  | .float _ => none
  | .text s _ => some (.string s)
  | .seq items => (itemData? items).map .array
  | .map rows => (entryData? rows).map .object
  | .regex r => some (.string ("/" ++ r.source ++ "/" ++ r.flags))

/-- The data of the items of a sequence, in their order. -/
def itemData? : List Value → Option (List Json)
  | [] => some []
  | v :: vs => do return (← v.data?) :: (← itemData? vs)

/-- The data of the entries of a map under the same names, in their order. -/
def entryData? {names : List String} : Rows names → Option (List (String × Json))
  | .nil => some []
  | .cons name v _ rest => do return (name, ← v.data?) :: (← entryData? rest)

end

/-- A sequence has a floating-point number if one of its items does. -/
theorem hasFloat_seq {items : List Value} :
    HasFloat (.seq items) ↔ ∃ v ∈ items, v.HasFloat := by
  constructor
  · rintro (_ | ⟨hv, h⟩)
    exact ⟨_, hv, h⟩
  · rintro ⟨v, hv, h⟩
    exact .seq hv h

/-- A map has a floating-point number if one of its values does. -/
theorem hasFloat_map {names : List String} {rows : Rows names} :
    HasFloat (.map rows) ↔ ∃ e ∈ rows.entries, e.2.HasFloat := by
  constructor
  · rintro (_ | _ | ⟨he, h⟩)
    exact ⟨_, he, h⟩
  · rintro ⟨e, he, h⟩
    exact .map he h

mutual

/-- Floating-point numbers are all that is not exact. -/
theorem data?_eq_none_iff : ∀ v : Value, v.data? = none ↔ v.HasFloat
  | .undefined | .null | .bool _ | .int _ | .text _ _ | .regex _ => by
    rw [data?]
    exact iff_of_false nofun nofun
  | .float x => iff_of_true rfl (.float x)
  | .seq items => by
    rw [data?, Option.map_eq_none_iff, itemData?_eq_none_iff, hasFloat_seq]
  | .map rows => by
    rw [data?, Option.map_eq_none_iff, entryData?_eq_none_iff, hasFloat_map]

private theorem itemData?_eq_none_iff : ∀ vs : List Value,
    itemData? vs = none ↔ ∃ v ∈ vs, v.HasFloat
  | [] => iff_of_false nofun (by simp)
  | v :: vs => by
    rw [List.exists_mem_cons_iff, ← data?_eq_none_iff v, ← itemData?_eq_none_iff vs, itemData?]
    cases v.data? <;> cases itemData? vs <;> simp

private theorem entryData?_eq_none_iff : ∀ {names : List String} (rows : Rows names),
    entryData? rows = none ↔ ∃ e ∈ rows.entries, e.2.HasFloat
  | _, .nil => iff_of_false nofun (by simp [Rows.entries])
  | _, .cons name v _ rest => by
    rw [Rows.entries, List.exists_mem_cons_iff, ← data?_eq_none_iff v,
      ← entryData?_eq_none_iff rest, entryData?]
    cases v.data? <;> cases entryData? rest <;> simp

end

end Value

/-! ### Replacing the characters of markup -/

section

variable {c : Char} {s : List Char}

private theorem inertChar_eq_singleton (h : c ≠ '<' ∧ c ≠ '>' ∧ c ≠ '&' ∧ c ≠ '\'') :
    inertChar c = [c] := by
  rw [inertChar, if_neg (by simp [h])]

private theorem flatMap_inertChar (h : ∀ c ∈ s, c ≠ '<' ∧ c ≠ '>' ∧ c ≠ '&' ∧ c ≠ '\'') :
    s.flatMap inertChar = s := by
  rw [List.flatMap_congr fun c hc ↦ inertChar_eq_singleton (h c hc), List.flatMap_singleton']

private theorem flatMap_inertChar_hexDigits (width n : Nat) :
    (Text.hexDigits width n).flatMap inertChar = Text.hexDigits width n :=
  flatMap_inertChar fun _ ↦ Text.ne_of_mem_hexDigits

private theorem flatMap_inertChar_toDigits (n : Nat) :
    (Nat.toDigits 10 n).flatMap inertChar = Nat.toDigits 10 n := by
  refine flatMap_inertChar fun c hc ↦ ?_
  have hdigit := Number.isDigit_of_mem_toDigits hc
  refine ⟨?_, ?_, ?_, ?_⟩
  all_goals
    rintro rfl
    exact absurd hdigit (by decide)

private theorem flatMap_inertChar_join (texts : List (List Char)) :
    (List.intercalate [','] texts).flatMap inertChar =
      List.intercalate [','] (texts.map (List.flatMap inertChar)) := by
  induction texts with
  | nil => rfl
  | cons text texts ih =>
    cases texts with
    | nil => rw [List.intercalate_singleton, List.map_singleton, List.intercalate_singleton]
    | cons next texts =>
      rw [List.intercalate_cons_cons, List.flatMap_append, List.flatMap_append, ih]
      simp only [List.map_cons, List.intercalate_cons_cons]
      rfl

private theorem flatMap_inertChar_enclosed {first last : Char} (hfirst : inertChar first = [first])
    (hlast : inertChar last = [last]) (s : List Char) :
    (first :: s ++ [last]).flatMap inertChar = first :: (s.flatMap inertChar ++ [last]) := by
  rw [List.flatMap_append, List.flatMap_cons, List.flatMap_singleton, hfirst, hlast,
    List.singleton_append, List.cons_append]

/-! ### Strings -/

private theorem letterChar?_of_jsonLetter? {l : Char} (h : jsonLetter? c = some l) :
    Json.letterChar? l = some c ∧ ['\\', l].flatMap inertChar = ['\\', l] := by
  unfold jsonLetter? at h
  split at h <;> cases h <;> exact ⟨rfl, rfl⟩

private theorem readsChar_jsonChar (c : Char) :
    Json.ReadsChar ((jsonChar c).flatMap inertChar) c := by
  unfold jsonChar
  cases hletter : jsonLetter? c with
  | some l =>
    obtain ⟨hl, hinert⟩ := letterChar?_of_jsonLetter? hletter
    simp only [hinert]
    exact Json.readsChar_letter hl
  | none =>
    by_cases hcontrol : c.toNat < 0x20
    · simp only [if_pos hcontrol, List.flatMap_cons, flatMap_inertChar_hexDigits]
      exact Json.readsChar_hexDigits (by omega)
    · simp only [if_neg hcontrol, List.flatMap_singleton]
      rw [inertChar]
      split
      · next hmarkup =>
        refine Json.readsChar_hexDigits ?_
        simp only [Bool.or_eq_true, beq_iff_eq] at hmarkup
        rcases hmarkup with ((rfl | rfl) | rfl) | rfl <;> decide
      · refine Json.readsChar_singleton ?_ ?_ (by omega) <;> rintro rfl <;> cases hletter

private theorem readsString_jsonChars (s : List Char) :
    Json.ReadsString ((s.flatMap jsonChar).flatMap inertChar ++ ['"']) s := by
  induction s with
  | nil => exact Json.readsString_nil
  | cons c s ih =>
    rw [List.flatMap_cons, List.flatMap_append, List.append_assoc]
    exact (readsChar_jsonChar c).readsString ih

private theorem reads_jsonString (s : String) :
    Json.Reads ((jsonString s.toList).flatMap inertChar) (.string s) := by
  rw [jsonString, flatMap_inertChar_enclosed rfl rfl]
  exact (readsString_jsonChars s.toList).reads

end

/-! ### Values -/

namespace Value

private theorem reads_integerText (n : Int64) :
    Json.Reads ((Number.integerText n).toList.flatMap inertChar) (.number n.toInt 0) := by
  cases hn : n.toInt with
  | ofNat m =>
    rw [Number.toList_integerText_of_ofNat hn, flatMap_inertChar_toDigits]
    exact Json.reads_toDigits m
  | negSucc m =>
    rw [Number.toList_integerText_of_negSucc hn, List.flatMap_cons, flatMap_inertChar_toDigits]
    exact Json.reads_minus_toDigits (m + 1)

private theorem chars_regex (r : Regex) :
    r.chars = ("/" ++ r.source ++ "/" ++ r.flags).toList := by
  simp [Regex.chars]

mutual

private theorem exists_reads {write : JsonWriter} (hwrite : write.IsCompact) :
    ∀ {v : Value} {j : Json}, v.data? = some j →
      ∃ text, write v.form = some text ∧ Json.Reads (text.flatMap inertChar) j
  | .undefined, _, rfl | .null, _, rfl => ⟨_, hwrite.unit, Json.reads_word (.head _)⟩
  | .bool true, _, rfl => ⟨_, hwrite.bool true, Json.reads_word (.tail _ (.head _))⟩
  | .bool false, _, rfl => ⟨_, hwrite.bool false, Json.reads_word (.tail _ (.tail _ (.head _)))⟩
  | .int n, _, rfl => ⟨_, hwrite.integer n, reads_integerText n⟩
  | .text s _, _, rfl => ⟨_, hwrite.text s, reads_jsonString s⟩
  | .regex r, _, rfl => by
    refine ⟨_, hwrite.text _, ?_⟩
    rw [chars_regex, String.ofList_toList]
    exact reads_jsonString _
  | .seq items, _, h => by
    obtain ⟨js, hjs, rfl⟩ := Option.map_eq_some_iff.mp h
    obtain ⟨texts, htexts, hreads⟩ := exists_reads_items hwrite hjs
    refine ⟨jsonArray texts, hwrite.seq htexts, ?_⟩
    rw [jsonArray, flatMap_inertChar_enclosed rfl rfl, flatMap_inertChar_join]
    exact .array hreads
  | .map rows, _, h => by
    obtain ⟨es, hes, rfl⟩ := Option.map_eq_some_iff.mp h
    obtain ⟨texts, htexts, hreads⟩ := exists_reads_entries hwrite hes
    refine ⟨_, hwrite.map htexts, ?_⟩
    rw [jsonObject, flatMap_inertChar_enclosed rfl rfl, flatMap_inertChar_join]
    exact .object hreads

private theorem exists_reads_items {write : JsonWriter} (hwrite : write.IsCompact) :
    ∀ {vs : List Value} {js : List Json}, itemData? vs = some js →
    ∃ texts : List (List Char), (itemForms vs).map write = texts.map some ∧
      List.Forall₂ Json.Reads (texts.map (List.flatMap inertChar)) js
  | [], _, rfl => ⟨[], rfl, .nil⟩
  | v :: vs, _, h => by
    obtain ⟨j, hj, h⟩ := Option.bind_eq_some_iff.mp h
    obtain ⟨js, hjs, ⟨⟩⟩ := Option.bind_eq_some_iff.mp h
    obtain ⟨text, htext, hread⟩ := exists_reads hwrite hj
    obtain ⟨texts, htexts, hreads⟩ := exists_reads_items hwrite hjs
    exact ⟨text :: texts, congrArg₂ List.cons htext htexts, .cons hread hreads⟩

private theorem exists_reads_entries {write : JsonWriter} (hwrite : write.IsCompact) :
    ∀ {names : List String} {rows : Rows names} {js : List (String × Json)},
    entryData? rows = some js →
    ∃ texts : List (List Char), (entryForms rows).map (fun e ↦ write e.2) = texts.map some ∧
      List.Forall₂ Json.ReadsEntry
        ((List.zipWith (fun e text ↦ jsonEntry e.1 text) (entryForms rows) texts).map
          (List.flatMap inertChar)) js
  | _, .nil, _, rfl => ⟨[], rfl, .nil⟩
  | _, .cons name v _ rest, _, h => by
    obtain ⟨j, hj, h⟩ := Option.bind_eq_some_iff.mp h
    obtain ⟨js, hjs, ⟨⟩⟩ := Option.bind_eq_some_iff.mp h
    obtain ⟨text, htext, hread⟩ := exists_reads hwrite hj
    obtain ⟨texts, htexts, hreads⟩ := exists_reads_entries hwrite hjs
    refine ⟨text :: texts, congrArg₂ List.cons htext htexts,
      .cons ⟨_, _, ?_, readsString_jsonChars name.toList, hread⟩ hreads⟩
    change (jsonEntry name text).flatMap inertChar = _
    rw [jsonEntry, List.flatMap_append, jsonString, flatMap_inertChar_enclosed rfl rfl]
    rfl

end

-- What a value gives in some surroundings is written as a text that is read as the data of the
-- value, or inside of a conversion as the name of a ticket.
private theorem exists_reads_given {around : Filter.Surroundings}
    (hwrite : around.writeJson.IsCompact) {v : Value} {j : Json} (hj : v.data? = some j) :
    ∃ text : List Char,
      Filter.toJson around v = .ok (.text (String.ofList (text.flatMap inertChar)) true) ∧
      Json.Reads (text.flatMap inertChar)
        (if around.counter.active then .string Form.ticketName else j) := by
  rw [Filter.toJson_eq]
  cases around.counter.active with
  | true =>
    simp only [if_pos]
    rw [Form.ticket, hwrite.variant]
    exact ⟨_, rfl, reads_jsonString _⟩
  | false =>
    obtain ⟨text, htext, hread⟩ := exists_reads hwrite hj
    simp only [Bool.false_eq_true, if_false, htext]
    exact ⟨text, rfl, hread⟩

end Value

end Stencil
