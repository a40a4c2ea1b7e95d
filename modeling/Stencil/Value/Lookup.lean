import Stencil.Value.Compare

/-!
# Properties and items of values

A map has its entries as properties. Sequences and texts have a length and, under their positions,
their items and characters; regular expressions have their parts. Reading from a missing value is a
failure where it is asked for directly, and gives undefined along a path.
-/

namespace Stencil.Value

/-- The item at a position of a sequence or text. -/
def at? : Value → Nat → Option Value
  | .seq items, i => items[i]?
  | .text s _, i => (s.toList[i]?).map .ofChar
  | _, _ => none

/-- The property with a name, if the value has it. -/
def property? (v : Value) (name : String) : Option Value :=
  match v with
  | .map rows => Entries.get? name rows.entries
  | .seq items =>
    if name = "length" then some (.ofNat items.length)
    else (Number.readPosition? name.toList).bind v.at?
  | .text s _ =>
    if name = "length" then some (.ofNat s.toList.length)
    else (Number.readPosition? name.toList).bind v.at?
  | .regex r =>
    match name with
    | "source" => some (.plain r.source)
    | "flags" => some (.plain r.flags)
    | "global" => some (.bool r.isGlobal)
    | _ => none
  | _ => none

/-- The failure of reading from a missing value. -/
def unreadable (v : Value) (name : String) : Error :=
  .new .invalidOperation ("cannot read property `" ++ name ++ "` of " ++ v.kind.name)

/-- The property with a name. One that the value lacks is undefined. -/
def property (v : Value) (name : String) : Except Error Value :=
  if v.isMissing then .error (v.unreadable name)
  else .ok ((v.property? name).getD .undefined)

/-- The item under a key. An integer is a position in a sequence or text, and any other key stands
for the property named by its text. -/
def item (v key : Value) : Except Error Value :=
  if v.isMissing then .error (v.unreadable key.display)
  else
    let found := match v, key with
      | .seq _, .int i => if i < 0 then none else v.at? i.toInt.toNat
      | .text _ _, .int i => if i < 0 then none else v.at? i.toInt.toNat
      | _, .text name _ => v.property? name
      | _, _ => v.property? key.display
    .ok (found.getD .undefined)

/-- The value at the end of a path of properties. What is missing on the way is undefined. -/
def path (v : Value) : List String → Value
  | [] => v
  | name :: names =>
    if v.isMissing then .undefined else ((v.property? name).getD .undefined).path names

end Stencil.Value
