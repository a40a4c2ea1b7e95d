import Stencil.Value.Datum
import Stencil.Value.Form
import Stencil.Value.Written

/-!
# Converting data into values

A value inside data is handed over through a counter: it is deposited under a ticket, and the ticket
is redeemed where the value belongs, so that it arrives as it is. This happens only while a
conversion is going on; otherwise a value is data like any other. A value cannot tell which
serializer it is given to, and only that of the conversion redeems tickets.
-/

namespace Stencil

/-- Where values are handed over. -/
structure Counter where
  /-- Whether a conversion is going on. -/
  active : Bool := false
  /-- The ticket given out last. -/
  lastTicket : UInt32 := 0
  /-- The values deposited, each with its ticket. -/
  deposits : List (UInt32 × Value) := []

/-- A step of a conversion, which may fail and works at the counter. -/
abbrev Conversion := ExceptT Error (StateM Counter)

namespace Conversion

/-- Deposits a value under the next ticket. Tickets start again when they run out. -/
def deposit (v : Value) : Conversion UInt32 := do
  let counter ← get
  let ticket := counter.lastTicket + 1
  set { counter with
    lastTicket := ticket
    deposits := (ticket, v) :: counter.deposits.filter fun d ↦ d.1 != ticket }
  return ticket

/-- Redeems a ticket. -/
def redeem (ticket : UInt32) : Conversion Value := do
  let counter ← get
  match counter.deposits.lookup ticket with
  | none => throw (.custom "value handle not in registry")
  | some v =>
    set { counter with deposits := counter.deposits.filter fun d ↦ d.1 != ticket }
    return v

/-- Runs a step as a conversion: the counter is active meanwhile, and afterwards as it was. -/
def outermost {α : Type} (step : Conversion α) : Conversion α := do
  let before := (← get).active
  modify fun counter ↦ { counter with active := true }
  tryFinally step do
    if !before then modify fun counter ↦ { counter with active := false }

private theorem run_tryFinally {α : Type} {step : Conversion α} {last : Conversion Unit}
    {counter after behind : Counter} {r : Except Error α}
    (hstep : step.run.run counter = (r, after)) (hlast : last.run.run after = (.ok (), behind)) :
    (tryFinally step last).run.run counter = (r, behind) := by
  have hstep' : step counter = (r, after) := hstep
  have hlast' : last after = (.ok (), behind) := hlast
  change (Prod.fst <$> tryFinally' step fun _ ↦ last : Conversion α).run.run counter = _
  rw [ExceptT.run_map, StateT.run_map]
  simp only [tryFinally', ExceptT.run_mk, StateT.run_bind]
  cases r <;> simp only [StateT.run, bind, hstep', hlast'] <;> rfl

/-- The counter is active while a step runs as a conversion, and afterwards as it was, whether or
not the step fails. -/
theorem run_outermost {α : Type} (step : Conversion α) (counter : Counter) :
    (outermost step).run.run counter =
      let (r, after) := step.run.run { counter with active := true }
      (r, if counter.active then after else { after with active := false }) := by
  obtain ⟨active, ticket, deposits⟩ := counter
  rcases hr : step.run.run ⟨true, ticket, deposits⟩ with ⟨r, after⟩
  cases active with
  | false => exact run_tryFinally hr rfl
  | true => exact run_tryFinally hr rfl

end Conversion

namespace Value

/-- An integer as a value, in floating point if it does not fit. -/
def ofInt (n : Int) : Value :=
  match Number.int64? n with
  | some i => .int i
  | none => .float (Float.ofInt n)

/-- The name that a key stands for: texts, numbers and truth values stand for their text. -/
def keyName (key : Value) : Except Error String :=
  match key with
  | .text s _ => .ok s
  | .int _ | .float _ | .bool _ => .ok key.display
  | _ => .error (.custom ("unsupported map key of kind " ++ key.kind.name))

/-- A map of one entry. -/
def single (name : String) (v : Value) : Value := .ofTable (Table.empty.insert name v)

/-- What a value gives to a serializer, of whatever kind: a ticket while a conversion is going on,
and its data otherwise. -/
def serialize (v : Value) : Conversion Form := do
  if (← get).active then return .ticket (← Conversion.deposit v) else return v.form

end Value

namespace Form

mutual

/-- The value of a form. A ticket is redeemed. -/
def toValue : Form → Conversion Value
  | .unit => pure .null
  | .bool b => pure (.bool b)
  | .integer n => pure (.int n)
  | .double x => pure (.float x)
  | .text s => pure (.plain s)
  | .seq items => do return .seq (← itemValues items)
  | .map entries => do return .ofTable (← entryValues .empty entries)
  | .variant enumeration position name =>
    if enumeration == ticketName && name == ticketName then Conversion.redeem position
    else pure (.plain name)

/-- The values of the items of a sequence, from first to last. -/
def itemValues : List Form → Conversion (List Value)
  | [] => pure []
  | f :: fs => do
    let v ← f.toValue
    return v :: (← itemValues fs)

/-- Adds the values of map entries to a table, from first to last. -/
def entryValues (table : Table Value) :
    List (String × Form) → Conversion (Table Value)
  | [] => pure table
  | (name, f) :: fs => do
    let v ← f.toValue
    entryValues (table.insert name v) fs

end

end Form

namespace Value

/-- A value inside data: what it gives to the serializer is converted where it stands. -/
def handOver (v : Value) : Conversion Value := do (← v.serialize).toValue

/-- What a value gives to a serializer only depends on whether a conversion is going on. -/
theorem run_serialize (v : Value) (counter : Counter) :
    (v.serialize.run.run counter).1 =
      .ok (if counter.active then .ticket (counter.lastTicket + 1) else v.form) := by
  obtain ⟨active, ticket, deposits⟩ := counter
  cases active <;> rfl

end Value

namespace Datum

mutual

/-- The value of data. -/
def toValue : Datum → Conversion Value
  | .unit => pure .null
  | .bool b => pure (.bool b)
  | .integer n => pure (.ofInt n)
  | .single x => pure (.float x.toFloat)
  | .double x => pure (.float x)
  | .char c => pure (.ofChar c)
  | .text s => pure (.plain s)
  | .bytes bs => pure (.seq (bs.map fun b ↦ .ofNat b.toNat))
  | .wrapped d => d.toValue
  | .tag name => pure (.plain name)
  | .tagged name d => do return .single name (← d.toValue)
  | .seq items => do return .seq (← itemValues items)
  | .taggedSeq name items => do return .single name (.seq (← itemValues items))
  | .map entries => do return .ofTable (← entryValues .empty entries)
  | .record fields => do return .ofTable (← fieldValues .empty fields)
  | .taggedRecord name fields => do return .single name (.ofTable (← fieldValues .empty fields))
  | .value v => v.handOver
  | .elsewhere v d => do
    let _ ← v.serialize
    d.toValue
  | .converted d => do
    let v ← tryCatch (Conversion.outermost d.toValue) fun e ↦ throw (.custom e.message)
    v.handOver
  | .keyless _ => throw (.custom "map value without key")
  | .converting => do return .bool (← get).active
  | .failing detail => throw (.custom detail)

/-- The values of the items of a sequence, from first to last. -/
def itemValues : List Datum → Conversion (List Value)
  | [] => pure []
  | d :: ds => do
    let v ← d.toValue
    return v :: (← itemValues ds)

/-- Adds the values of map entries to a table, from first to last and each key before its value. -/
def entryValues (table : Table Value) :
    List (Datum × Datum) → Conversion (Table Value)
  | [] => pure table
  | (key, d) :: es => do
    let key ← key.toValue
    let name ← key.keyName
    let v ← d.toValue
    entryValues (table.insert name v) es

/-- Adds the values of record fields to a table, from first to last. -/
def fieldValues (table : Table Value) :
    List (String × Datum) → Conversion (Table Value)
  | [] => pure table
  | (name, d) :: fs => do
    let v ← d.toValue
    fieldValues (table.insert name v) fs

end

end Datum

namespace Value

/-- The value of data, converted at the counter. -/
def convert (d : Datum) : Conversion Value := Conversion.outermost d.toValue

/-- The value of data. -/
def ofDatum (d : Datum) : Except Error Value := ((convert d).run.run {}).1

/-- The value of data; undefined if it cannot be converted. -/
def ofDatumLossy (d : Datum) : Value :=
  match ofDatum d with
  | .ok v => v
  | .error _ => .undefined

end Value

end Stencil
