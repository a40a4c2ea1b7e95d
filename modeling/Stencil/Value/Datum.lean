import Stencil.Value.Basic

/-!
# Data

The shapes of the data that is converted into values: a data model of the usual kinds of numbers,
texts, sequences, maps and records, with and without tags. Values can stand inside such data, as can
data that is converted for itself before it takes its place.
-/

namespace Stencil

/-- Data that can be converted into a value. -/
inductive Datum where
  /-- Nothing. -/
  | unit
  /-- A truth value. -/
  | bool (b : Bool)
  /-- An integer of any width. -/
  | integer (n : Int)
  /-- A number of single precision. -/
  | single (x : Float32)
  /-- A number of double precision. -/
  | double (x : Float)
  /-- A character. -/
  | char (c : Char)
  /-- A text. -/
  | text (s : String)
  /-- A row of bytes. -/
  | bytes (bs : List UInt8)
  /-- Data behind a name that does not show. -/
  | wrapped (d : Datum)
  /-- A tag alone. -/
  | tag (name : String)
  /-- Data with a tag. -/
  | tagged (name : String) (d : Datum)
  /-- A sequence. -/
  | seq (items : List Datum)
  /-- A sequence with a tag. -/
  | taggedSeq (name : String) (items : List Datum)
  /-- A map with keys of any shape. -/
  | map (entries : List (Datum × Datum))
  /-- A record. -/
  | record (fields : List (String × Datum))
  /-- A record with a tag. -/
  | taggedRecord (name : String) (fields : List (String × Datum))
  /-- A value. -/
  | value (v : Value)
  /-- Data that gives a value to another serializer before it is converted. -/
  | elsewhere (v : Value) (d : Datum)
  /-- Data that is converted for itself, after which the value takes its place. -/
  | converted (d : Datum)
  /-- The value of a map entry that was given no key. -/
  | keyless (d : Datum)
  /-- Whether a conversion is going on. -/
  | converting
  /-- Data that fails to be converted. -/
  | failing (detail : String)

end Stencil
