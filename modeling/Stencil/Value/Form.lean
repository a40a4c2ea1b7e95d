import Stencil.Value.Basic

/-!
# Forms

A serializer is given the data of a value: what does not exist is empty, texts lose their mark, and
regular expressions become texts. In place of data it may be given a ticket, which is dressed up as
a variant of an enumeration, since there is no other way past a serializer that does not know of
values.
-/

namespace Stencil

/-- What a serializer is given. -/
inductive Form where
  /-- Nothing. -/
  | unit
  /-- A truth value. -/
  | bool (b : Bool)
  /-- An integer of 64 bits. -/
  | integer (n : Int64)
  /-- A number of double precision. -/
  | double (x : Float)
  /-- A text. -/
  | text (s : String)
  /-- A sequence. -/
  | seq (items : List Form)
  /-- A map. -/
  | map (entries : List (String × Form))
  /-- A variant without data: the name of its enumeration, its position there and its own name. -/
  | variant (enumeration : String) (position : UInt32) (name : String)

namespace Form

/-- The name of the enumeration of tickets, and of its variants. -/
def ticketName : String := "\x01__mus_ValueHandle"

/-- A ticket. -/
def ticket (n : UInt32) : Form := .variant ticketName n ticketName

end Form

namespace Value

mutual

/-- The data of a value. -/
def form : Value → Form
  | .undefined | .null => .unit
  | .bool b => .bool b
  | .int n => .integer n
  | .float x => .double x
  | .text s _ => .text s
  | .seq items => .seq (itemForms items)
  | .map rows => .map (entryForms rows)
  | .regex r => .text (String.ofList r.chars)

/-- The data of the items of a sequence. -/
def itemForms : List Value → List Form
  | [] => []
  | v :: vs => v.form :: itemForms vs

/-- The data of the entries of a map. -/
def entryForms {names : List String} : Rows names → List (String × Form)
  | .nil => []
  | .cons key v _ rest => (key, v.form) :: entryForms rest

end

end Value

end Stencil
