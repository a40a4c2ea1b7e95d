import Stencil.Environment
import Stencil.Evaluation
import Stencil.Value.Conversion

/-!
# Kinds of failures

What is said of failures here is said of their kinds: operations on values, methods and built-in
filters fail because a value or an argument is unfit for them, and data fails to be converted in one
way only.
-/

namespace Stencil

/-! ### Failures of given kinds -/

/-- Whether a failure, if there is one, is of one of the kinds. -/
def FailsIn {α : Type} (kinds : List ErrorKind) (r : Except Error α) : Prop :=
  ∀ e, r = .error e → e.kind ∈ kinds

section

variable {α β : Type} {kinds : List ErrorKind}

/-- A success fails in no way. -/
@[simp] theorem failsIn_ok {x : α} : FailsIn kinds (.ok x : Except Error α) := by
  intro e he
  cases he

/-- A failure is of its own kind. -/
@[simp] theorem failsIn_error {e : Error} :
    FailsIn kinds (.error e : Except Error α) ↔ e.kind ∈ kinds := by
  constructor
  · intro h
    exact h e rfl
  · rintro h _ ⟨⟩
    exact h

/-- An error with a detail is of its kind. -/
theorem failsIn_new {kind : ErrorKind} {detail : String} (h : kind ∈ kinds) :
    FailsIn kinds (.error (.new kind detail) : Except Error α) :=
  failsIn_error.mpr h

/-- A failure that is passed on stays of its kind. -/
theorem FailsIn.of_eq_error {r : Except Error α} {e : Error} (h : FailsIn kinds r)
    (he : r = .error e) : FailsIn kinds (.error e : Except Error β) :=
  failsIn_error.mpr (h e he)

/-- More kinds may be allowed. -/
theorem FailsIn.mono {kinds' : List ErrorKind} {r : Except Error α} (h : FailsIn kinds r)
    (hkinds : kinds ⊆ kinds') : FailsIn kinds' r :=
  fun e he ↦ hkinds (h e he)

/-- Steps fail as the first one or the next one does. -/
theorem FailsIn.bind {r : Except Error α} {f : α → Except Error β} (hr : FailsIn kinds r)
    (hf : ∀ x, FailsIn kinds (f x)) : FailsIn kinds (r >>= f) := by
  cases r with
  | ok x => exact hf x
  | error e =>
    rintro _ ⟨⟩
    exact hr e rfl

/-- A result fails as before it is mapped. -/
theorem FailsIn.map {r : Except Error α} (hr : FailsIn kinds r) (f : α → β) :
    FailsIn kinds (r.map f) := by
  cases r with
  | ok x => exact failsIn_ok
  | error e => exact hr.of_eq_error rfl

/-- Steps for all members of a list fail as one of them does. -/
theorem failsIn_mapM {f : α → Except Error β} {xs : List α}
    (hf : ∀ x ∈ xs, FailsIn kinds (f x)) : FailsIn kinds (xs.mapM f) := by
  induction xs with
  | nil => exact failsIn_ok
  | cons x xs ih =>
    rw [List.mapM_cons]
    exact (hf x List.mem_cons_self).bind fun y ↦
      (ih fun x' hx' ↦ hf x' (List.mem_cons_of_mem x hx')).bind fun ys ↦ failsIn_ok

end

namespace ErrorKind

/-- The kinds of failures of source texts. -/
def ofSources : List ErrorKind := [.syntaxError, .badEscape]

/-- The kinds of failures of arguments. -/
def ofArguments : List ErrorKind := [.invalidArguments]

/-- The kinds of failures of operations on values. -/
def ofOperations : List ErrorKind := [.invalidOperation, .invalidArguments]

/-- The kinds of failures of renderings, apart from those of contexts. -/
def ofRenderings : List ErrorKind := [.unknownFilter, .invalidOperation, .invalidArguments]

/-- What can be wrong with arguments can be wrong with operations. -/
theorem ofArguments_subset : ofArguments ⊆ ofOperations := by decide

/-- What can be wrong with operations can be wrong with renderings. -/
theorem ofOperations_subset : ofOperations ⊆ ofRenderings := by decide

end ErrorKind

open ErrorKind (ofArguments ofArguments_subset ofOperations)

namespace Value

/-! ### Operators -/

private theorem failsIn_numbers (operator : String) (a b : Value) :
    FailsIn ofOperations (numbers operator a b) := by
  unfold numbers
  split
  · exact failsIn_ok
  · exact failsIn_new (by decide)

private theorem failsIn_arithmetic (operator : String) (exact : Int64 → Int64 → Option Int64)
    (approximate : Float → Float → Float) (a b : Value) :
    FailsIn ofOperations (arithmetic operator exact approximate a b) := by
  have hnumbers := (failsIn_numbers operator a b).map fun p ↦ Value.float (approximate p.1 p.2)
  unfold arithmetic
  split
  · split
    · exact failsIn_ok
    · exact hnumbers
  · exact hnumbers

/-- Operators in front of their operand fail on unfit values. -/
theorem failsIn_unary (op : UnaryOp) (v : Value) : FailsIn ofOperations (op.apply v) := by
  cases op with
  | not => exact failsIn_ok
  | negate =>
    change FailsIn _ v.negate
    unfold negate
    split
    · split <;> exact failsIn_ok
    · exact failsIn_ok
    · split
      · exact failsIn_ok
      · exact failsIn_new (by decide)
  | number =>
    change FailsIn _ v.toNumeric
    unfold toNumeric
    split
    · exact failsIn_ok
    · exact failsIn_ok
    · split
      · exact failsIn_ok
      · exact failsIn_new (by decide)

/-- Operators between their operands fail on unfit values. -/
theorem failsIn_binary (op : BinaryOp) (a b : Value) : FailsIn ofOperations (op.apply a b) := by
  cases op with
  | add =>
    change FailsIn _ (Value.add a b)
    unfold Value.add
    split
    · exact failsIn_ok
    · exact failsIn_arithmetic _ _ _ a b
  | sub => exact failsIn_arithmetic _ _ _ a b
  | mul => exact failsIn_arithmetic _ _ _ a b
  | div => exact (failsIn_numbers _ a b).map _
  | rem => exact failsIn_arithmetic _ _ _ a b
  | _ => exact failsIn_ok

/-! ### Properties and items -/

/-- Missing values have no properties. -/
theorem failsIn_property (v : Value) (name : String) : FailsIn ofOperations (v.property name) := by
  rw [Value.property]
  split
  · exact failsIn_new (by decide)
  · exact failsIn_ok

/-- Missing values have no items. -/
theorem failsIn_item (v key : Value) : FailsIn ofOperations (v.item key) := by
  unfold Value.item
  split
  · exact failsIn_new (by decide)
  · exact failsIn_ok

end Value

/-! ### Arguments -/

private theorem ArgKind.failsIn_toInteger (v : Option Value) :
    FailsIn ofArguments (toInteger v) := by
  unfold toInteger
  split
  · exact failsIn_new (by decide)
  · exact failsIn_ok
  · split
    · exact failsIn_ok
    · exact failsIn_new (by decide)
  · split
    · exact failsIn_ok
    · exact failsIn_new (by decide)
  · exact failsIn_new (by decide)

/-- Arguments fail to be converted if they are unfit. -/
theorem ArgKind.failsIn_convert (k : ArgKind) (v : Option Value) :
    FailsIn ofArguments (k.convert v) := by
  induction k with
  | value | text | flag => exact failsIn_ok
  | float =>
    change FailsIn _ (toFloat v)
    unfold toFloat
    split
    · exact failsIn_new (by decide)
    · exact failsIn_ok
    · exact failsIn_ok
    · split
      · exact failsIn_ok
      · exact failsIn_new (by decide)
    · exact failsIn_new (by decide)
  | integer => exact failsIn_toInteger v
  | size =>
    change FailsIn _ (toSize v)
    unfold toSize
    split
    · next e he => exact (failsIn_toInteger v).of_eq_error he
    · split
      · exact failsIn_new (by decide)
      · exact failsIn_ok
  | list =>
    change FailsIn _ (toItems v)
    unfold toItems
    split
    · exact failsIn_new (by decide)
    · exact failsIn_ok
    · exact failsIn_ok
    · exact failsIn_new (by decide)
  | optional k ih =>
    rw [ArgKind.convert]
    split
    · exact failsIn_ok
    · exact ih.map some

private theorem Arguments.failsIn_convertEach (ks : List ArgKind) (vs : List Value) :
    FailsIn ofArguments (convertEach ks vs) := by
  induction ks generalizing vs with
  | nil => exact failsIn_ok
  | cons k ks ih =>
    have hk := k.failsIn_convert vs.head?
    have hks := ih vs.tail
    rw [convertEach]
    split
    · next e he => exact hk.of_eq_error he
    · split
      · next e he => exact hks.of_eq_error he
      · exact failsIn_ok

/-- Arguments fail to be converted if one is unfit or there are too many. -/
theorem Arguments.failsIn_ofValues (ks : List ArgKind) (vs : List Value) :
    FailsIn ofArguments (ofValues ks vs) := by
  have h := failsIn_convertEach ks vs
  rw [ofValues]
  split
  · next e he => exact h.of_eq_error he
  · split
    · exact failsIn_new (by decide)
    · exact failsIn_ok

/-! ### Methods -/

namespace Value

private theorem failsIn_ofValues_bind {α : Type} {ks : List ArgKind} {vs : List Value}
    {f : Arguments ks → Except Error α} (hf : ∀ args, FailsIn ofOperations (f args)) :
    FailsIn ofOperations (Arguments.ofValues ks vs >>= f) :=
  ((Arguments.failsIn_ofValues ks vs).mono ofArguments_subset).bind hf

private theorem failsIn_callText (v : Value) (s : List Char) (name : String) (args : List Value) :
    FailsIn ofOperations (v.callText s name args) := by
  unfold callText
  split
  case h_13 => exact failsIn_new (by decide)
  all_goals exact failsIn_ofValues_bind fun _ ↦ failsIn_ok

private theorem failsIn_callSeq (v : Value) (items : List Value) (name : String)
    (args : List Value) : FailsIn ofOperations (v.callSeq items name args) := by
  unfold callSeq
  split
  case h_5 => exact failsIn_ok
  case h_6 => exact failsIn_new (by decide)
  all_goals exact failsIn_ofValues_bind fun _ ↦ failsIn_ok

private theorem failsIn_callRegex (v : Value) (r : Regex) (name : String) (args : List Value) :
    FailsIn ofOperations (v.callRegex r name args) := by
  unfold callRegex
  split
  · exact failsIn_ofValues_bind fun _ ↦ failsIn_ok
  · exact failsIn_new (by decide)

/-- Methods fail on values without them and on unfit arguments. -/
theorem failsIn_callMethod (v : Value) (name : String) (args : List Value) :
    FailsIn ofOperations (v.callMethod name args) := by
  unfold callMethod
  split
  · exact failsIn_new (by decide)
  · split
    · have h := (Arguments.failsIn_ofValues [] args).mono ofArguments_subset
      split
      · next e he => exact h.of_eq_error he
      · exact failsIn_ok
    · split
      · exact failsIn_callText _ _ name args
      · exact failsIn_callSeq _ _ name args
      · exact failsIn_callRegex _ _ name args
      · exact failsIn_new (by decide)

end Value

/-! ### Filters -/

namespace Filter

/-- Whether a filter fails on unfit values and arguments only. -/
def FailsOnUnfit (f : Filter) : Prop := ∀ view vs, FailsIn ofOperations (f view vs)

private theorem failsOnUnfit_of {kind : ArgKind} {kinds : List ArgKind}
    {f : FilterView → kind.Carrier → Arguments kinds → Except Error Value}
    (hf : ∀ view v args, FailsIn ofOperations (f view v args)) :
    (of kind kinds f).FailsOnUnfit := by
  intro view vs
  have hv := (kind.failsIn_convert vs.head?).mono ofArguments_subset
  have hvs := (Arguments.failsIn_ofValues kinds vs.tail).mono ofArguments_subset
  unfold of
  split
  · next e he => exact hv.of_eq_error he
  · split
    · next e he => exact hvs.of_eq_error he
    · exact hf view _ _

private theorem failsOnUnfit_ofMap {kind : ArgKind} {f : kind.Carrier → Except Error Value}
    (hf : ∀ v, FailsIn ofOperations (f v)) : (ofMap kind f).FailsOnUnfit :=
  failsOnUnfit_of fun _ v _ ↦ hf v

private theorem failsOnUnfit_map {kind : ArgKind} {f : kind.Carrier → Value} :
    (ofMap kind fun v ↦ .ok (f v)).FailsOnUnfit :=
  failsOnUnfit_ofMap fun _ ↦ failsIn_ok

private theorem failsIn_unfitFor (operation : String) (v : Value) :
    FailsIn ofOperations (unfitFor operation v) :=
  failsIn_new (by decide)

private theorem failsIn_length (v : Value) : FailsIn ofOperations (length v) := by
  unfold length
  split
  · exact failsIn_ok
  · exact failsIn_unfitFor _ v

private theorem failsIn_join (v : Value) (separator : List Char) :
    FailsIn ofOperations (join v separator) := by
  unfold join
  split
  case h_5 => exact failsIn_unfitFor _ _
  all_goals exact failsIn_ok

private theorem failsIn_reverse (v : Value) : FailsIn ofOperations (reverse v) := by
  unfold reverse
  split
  · exact failsIn_ok
  · exact failsIn_ok
  · exact failsIn_unfitFor _ _

private theorem failsIn_absolute (v : Value) : FailsIn ofOperations (absolute v) := by
  unfold absolute
  split
  · split <;> exact failsIn_ok
  · exact failsIn_ok
  · exact failsIn_unfitFor _ _

private theorem failsIn_round (v : Value) (places : Option Int64) :
    FailsIn ofOperations (round v places) := by
  unfold round
  split
  · exact failsIn_ok
  · exact failsIn_ok
  · exact failsIn_unfitFor _ _

private theorem failsIn_toJson (around : Surroundings) (v : Value) :
    FailsIn ofOperations (toJson around v) := by
  rw [toJson_eq]
  split
  · exact failsIn_ok
  · exact failsIn_new (by decide)

/-- The built-in filters fail on unfit values and arguments only. -/
theorem failsOnUnfit_builtins (around : Surroundings) :
    ∀ e ∈ builtins around, FailsOnUnfit e.2 := by
  simp only [builtins, List.forall_mem_cons, List.not_mem_nil, false_implies, implies_true,
    and_true]
  refine ⟨?abs, ?capitalize, ?count, ?default, ?e, ?escape, ?first, ?float, ?int, ?join, ?last,
    ?length, ?lower, ?nl2br, ?replace, ?reverse, ?round, ?tojson, ?trim, ?upper, ?urlencode⟩
  case abs => exact failsOnUnfit_ofMap failsIn_absolute
  case count => exact failsOnUnfit_ofMap failsIn_length
  case default => exact failsOnUnfit_of fun _ _ _ ↦ failsIn_ok
  case join => exact failsOnUnfit_of fun _ v _ ↦ failsIn_join v _
  case length => exact failsOnUnfit_ofMap failsIn_length
  case replace => exact failsOnUnfit_of fun _ _ _ ↦ failsIn_ok
  case reverse => exact failsOnUnfit_ofMap failsIn_reverse
  case round => exact failsOnUnfit_of fun _ v args ↦ failsIn_round v args.1
  case tojson => exact failsOnUnfit_ofMap (failsIn_toJson around)
  all_goals exact failsOnUnfit_map

end Filter

/-! ### Data -/

namespace Conversion

variable {α β : Type}

/-- Whether a step of a conversion fails only because data cannot be converted. -/
def FailsOnData (step : Conversion α) : Prop :=
  ∀ counter, FailsIn [.badSerialization] (step.run.run counter).1

private theorem failsOnData_pure (x : α) : FailsOnData (pure x) := fun _ ↦ failsIn_ok

private theorem failsOnData_custom (detail : String) :
    FailsOnData (throw (.custom detail) : Conversion α) :=
  fun _ ↦ failsIn_new (by decide)

private theorem failsOnData_get : FailsOnData (get : Conversion Counter) := fun _ ↦ failsIn_ok

private theorem FailsOnData.bind {step : Conversion α} {f : α → Conversion β}
    (hstep : FailsOnData step) (hf : ∀ x, FailsOnData (f x)) : FailsOnData (step >>= f) := by
  intro counter
  have h := hstep counter
  rw [ExceptT.run_bind, StateT.run_bind]
  rcases hr : step.run.run counter with ⟨e | x, after⟩
  · rw [hr] at h
    exact h.of_eq_error rfl
  · exact hf x after

private theorem FailsOnData.outermost {step : Conversion α} (h : FailsOnData step) :
    FailsOnData (outermost step) := by
  intro counter
  rw [run_outermost]
  exact h _

private theorem failsOnData_serialize (v : Value) : FailsOnData v.serialize := by
  apply failsOnData_get.bind
  intro counter
  split
  · have hdeposit : FailsOnData (deposit v) := fun _ ↦ failsIn_ok
    exact hdeposit.bind fun _ ↦ failsOnData_pure _
  · exact failsOnData_pure _

private theorem failsOnData_redeem (ticket : UInt32) : FailsOnData (redeem ticket) := by
  apply failsOnData_get.bind
  intro counter
  split
  · exact failsOnData_custom _
  · exact fun _ ↦ failsIn_ok

private theorem failsOnData_keyName (key : Value) :
    FailsOnData (key.keyName : Conversion String) := by
  intro counter
  unfold Value.keyName
  split
  · exact failsIn_ok
  · exact failsIn_ok
  · exact failsIn_ok
  · exact failsIn_ok
  · exact failsIn_new (by decide)

private theorem failsOnData_tryCatch (step : Conversion α) :
    FailsOnData (tryCatch step fun e ↦ throw (.custom e.message)) := by
  intro counter
  rw [ExceptT.run_tryCatch, StateT.run_bind]
  rcases step.run.run counter with ⟨e | x, after⟩
  · exact failsIn_new (by decide)
  · exact failsIn_ok

end Conversion

namespace Form

open Conversion

mutual

private theorem failsOnData_toValue : ∀ f : Form, FailsOnData f.toValue
  | .unit | .bool _ | .integer _ | .double _ | .text _ => by
    unfold toValue
    exact failsOnData_pure _
  | .seq items => by
    rw [toValue]
    exact (failsOnData_itemValues items).bind fun _ ↦ failsOnData_pure _
  | .map entries => by
    rw [toValue]
    exact (failsOnData_entryValues .empty entries).bind fun _ ↦ failsOnData_pure _
  | .variant _ position _ => by
    rw [toValue]
    split
    · exact failsOnData_redeem position
    · exact failsOnData_pure _

private theorem failsOnData_itemValues : ∀ fs : List Form, FailsOnData (itemValues fs)
  | [] => failsOnData_pure _
  | f :: fs => by
    rw [itemValues]
    exact (failsOnData_toValue f).bind fun _ ↦
      (failsOnData_itemValues fs).bind fun _ ↦ failsOnData_pure _

private theorem failsOnData_entryValues (table : Table Value) :
    ∀ fs : List (String × Form), FailsOnData (entryValues table fs)
  | [] => failsOnData_pure _
  | (_, f) :: fs => by
    rw [entryValues]
    exact (failsOnData_toValue f).bind fun _ ↦ failsOnData_entryValues _ fs

end

private theorem failsOnData_handOver (v : Value) : FailsOnData v.handOver :=
  (failsOnData_serialize v).bind failsOnData_toValue

end Form

namespace Datum

open Conversion

mutual

private theorem failsOnData_toValue : ∀ d : Datum, FailsOnData d.toValue
  | .unit | .bool _ | .integer _ | .single _ | .double _ | .char _ | .text _ | .bytes _
  | .tag _ => by
    unfold toValue
    exact failsOnData_pure _
  | .wrapped d => by
    rw [toValue]
    exact failsOnData_toValue d
  | .tagged _ d => by
    rw [toValue]
    exact (failsOnData_toValue d).bind fun _ ↦ failsOnData_pure _
  | .elsewhere v d => by
    rw [toValue]
    exact (failsOnData_serialize v).bind fun _ ↦ failsOnData_toValue d
  | .seq items => by
    rw [toValue]
    exact (failsOnData_itemValues items).bind fun _ ↦ failsOnData_pure _
  | .taggedSeq _ items => by
    rw [toValue]
    exact (failsOnData_itemValues items).bind fun _ ↦ failsOnData_pure _
  | .map entries => by
    rw [toValue]
    exact (failsOnData_entryValues .empty entries).bind fun _ ↦ failsOnData_pure _
  | .record fields => by
    rw [toValue]
    exact (failsOnData_fieldValues .empty fields).bind fun _ ↦ failsOnData_pure _
  | .taggedRecord _ fields => by
    rw [toValue]
    exact (failsOnData_fieldValues .empty fields).bind fun _ ↦ failsOnData_pure _
  | .value v => by
    rw [toValue]
    exact Form.failsOnData_handOver v
  | .converted d => by
    rw [toValue]
    exact (failsOnData_tryCatch _).bind Form.failsOnData_handOver
  | .keyless _ => by
    rw [toValue]
    exact failsOnData_custom _
  | .converting => by
    rw [toValue]
    exact failsOnData_get.bind fun _ ↦ failsOnData_pure _
  | .failing detail => by
    rw [toValue]
    exact failsOnData_custom detail

private theorem failsOnData_itemValues : ∀ ds : List Datum, FailsOnData (itemValues ds)
  | [] => failsOnData_pure _
  | d :: ds => by
    rw [itemValues]
    exact (failsOnData_toValue d).bind fun _ ↦
      (failsOnData_itemValues ds).bind fun _ ↦ failsOnData_pure _

private theorem failsOnData_entryValues (table : Table Value) :
    ∀ es : List (Datum × Datum), FailsOnData (entryValues table es)
  | [] => failsOnData_pure _
  | (key, d) :: es => by
    rw [entryValues]
    exact (failsOnData_toValue key).bind fun key ↦ (failsOnData_keyName key).bind fun _ ↦
      (failsOnData_toValue d).bind fun _ ↦ failsOnData_entryValues _ es

private theorem failsOnData_fieldValues (table : Table Value) :
    ∀ fs : List (String × Datum), FailsOnData (fieldValues table fs)
  | [] => failsOnData_pure _
  | (_, d) :: fs => by
    rw [fieldValues]
    exact (failsOnData_toValue d).bind fun _ ↦ failsOnData_fieldValues _ fs

end

end Datum

/-- Data fails in one way only to be converted. -/
theorem Value.failsIn_ofDatum (d : Datum) : FailsIn [.badSerialization] (ofDatum d) :=
  (Datum.failsOnData_toValue d).outermost {}

end Stencil
