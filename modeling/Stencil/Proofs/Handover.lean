import Stencil.Proofs.Meaning

/-!
# Values handed over

A value inside data arrives as it is, wherever it stands but for keys and however conversions are
nested around it, and whatever ticket it is handed over under. A conversion is going on at every
moment of it, and when it ends, by a failure or not, the counter is active or not as before. It
holds no value then, unless one was given to another serializer that kept its ticket.

What data and programs of conversions stand for is said without a counter; the counter is then shown
to make no difference. Main statement: `conversion_transparent`.
-/

namespace Stencil

/-! ### Steps inside of a conversion -/

namespace Conversion

variable {α β : Type} {settled : Prop}

/-- Whether a step inside of a conversion gives the result, whatever is at the counter, and the
conversion is still going on behind it. If the step settles its tickets, it leaves nothing behind at
a counter at which nothing was. -/
def Gives (settled : Prop) (step : Conversion α) (r : Except Error α) : Prop :=
  ∀ ticket deposits, ∃ last behind,
    step.run.run ⟨true, ticket, deposits⟩ = (r, ⟨true, last, behind⟩) ∧
      (settled → deposits = [] → behind = [])

private theorem gives_pure (x : α) : Gives settled (pure x) (.ok x) :=
  fun ticket deposits ↦ ⟨ticket, deposits, rfl, fun _ h ↦ h⟩

private theorem gives_throw (e : Error) : Gives settled (throw e : Conversion α) (.error e) :=
  fun ticket deposits ↦ ⟨ticket, deposits, rfl, fun _ h ↦ h⟩

private theorem gives_active : Gives settled (do return (← get).active) (.ok true) :=
  fun ticket deposits ↦ ⟨ticket, deposits, rfl, fun _ h ↦ h⟩

private theorem gives_lift (r : Except Error α) : Gives settled (liftM r) r := by
  cases r with
  | error e => exact gives_throw e
  | ok x => exact gives_pure x

private theorem Gives.bind {step : Conversion α} {f : α → Conversion β} {r : Except Error α}
    {g : α → Except Error β} (hstep : Gives settled step r) (hf : ∀ x, Gives settled (f x) (g x)) :
    Gives settled (step >>= f) (r >>= g) := by
  intro ticket deposits
  obtain ⟨between, held, hstep, hheld⟩ := hstep ticket deposits
  rw [ExceptT.run_bind, StateT.run_bind, hstep]
  cases r with
  | error e => exact ⟨between, held, rfl, hheld⟩
  | ok x =>
    obtain ⟨last, behind, hnext, hbehind⟩ := hf x between held
    exact ⟨last, behind, hnext, fun h hnone ↦ hbehind h (hheld h hnone)⟩

private theorem Gives.tryCatch {step : Conversion α} {r : Except Error α}
    (hstep : Gives settled step r) (handler : Error → Conversion α) {g : Error → Except Error α}
    (hhandler : ∀ e, Gives settled (handler e) (g e)) :
    Gives settled (tryCatch step handler) (tryCatch r g) := by
  intro ticket deposits
  obtain ⟨between, held, hstep, hheld⟩ := hstep ticket deposits
  rw [ExceptT.run_tryCatch, StateT.run_bind, hstep]
  cases r with
  | error e =>
    obtain ⟨last, behind, hnext, hbehind⟩ := hhandler e between held
    exact ⟨last, behind, hnext, fun h hnone ↦ hbehind h (hheld h hnone)⟩
  | ok x => exact ⟨between, held, rfl, hheld⟩

private theorem run_observing {step : Conversion α} {r : Except Error α} {counter after : Counter}
    (h : step.run.run counter = (r, after)) :
    (observing step).run.run counter = (.ok r, after) := by
  have hstep : step counter = (r, after) := h
  change (tryCatch (step >>= fun x ↦ pure (.ok x)) fun e ↦ pure (.error e) :
    Conversion (Except Error α)).run.run counter = _
  rw [ExceptT.run_tryCatch, StateT.run_bind, ExceptT.run_bind, StateT.run_bind, h]
  cases r <;> rfl

private theorem Gives.observing {step : Conversion α} {r : Except Error α}
    (h : Gives settled step r) : Gives settled (observing step) (.ok r) := by
  intro ticket deposits
  obtain ⟨last, behind, hrun, hbehind⟩ := h ticket deposits
  exact ⟨last, behind, run_observing hrun, hbehind⟩

private theorem run_serialize (v : Value) (ticket : UInt32) (deposits : List (UInt32 × Value)) :
    v.serialize.run.run ⟨true, ticket, deposits⟩ =
      (.ok (.ticket (ticket + 1)), ⟨true, ticket + 1,
        (ticket + 1, v) :: deposits.filter fun d ↦ d.1 != ticket + 1⟩) := rfl

private theorem run_redeem (n : UInt32) (counter : Counter) :
    (redeem n).run.run counter =
      match counter.deposits.lookup n with
      | none => (.error (.custom "value handle not in registry"), counter)
      | some v =>
        (.ok v, { counter with deposits := counter.deposits.filter fun d ↦ d.1 != n }) := by
  have hget : (get : Conversion Counter).run.run counter = pure (.ok counter, counter) := rfl
  rw [redeem, ExceptT.run_bind, StateT.run_bind, hget]
  change StateT.run (ExceptT.run (match counter.deposits.lookup n with
    | none => throw (.custom "value handle not in registry")
    | some v => do
      set { counter with deposits := counter.deposits.filter fun d ↦ d.1 != n }
      return v : Conversion Value)) counter = _
  cases counter.deposits.lookup n <;> rfl

private theorem toValue_ticket (n : UInt32) : (Form.ticket n).toValue = redeem n := by
  simp [Form.ticket, Form.toValue]

private theorem run_toValue_ticket {v : Value} {n : UInt32} {counter : Counter}
    (h : counter.deposits.lookup n = some v) :
    (Form.ticket n).toValue.run.run counter =
      (.ok v, { counter with deposits := counter.deposits.filter fun d ↦ d.1 != n }) := by
  rw [toValue_ticket, run_redeem, h]

private theorem gives_handOver (v : Value) : Gives settled v.handOver (.ok v) := by
  intro ticket deposits
  let others := deposits.filter fun d ↦ d.1 != ticket + 1
  have hlookup : ((ticket + 1, v) :: others).lookup (ticket + 1) = some v := by simp
  refine ⟨ticket + 1, ((ticket + 1, v) :: others).filter fun d ↦ d.1 != ticket + 1, ?_, ?_⟩
  · rw [Value.handOver, ExceptT.run_bind, StateT.run_bind, run_serialize]
    exact run_toValue_ticket hlookup
  · rintro - rfl
    simp [others]

-- What runs as a conversion gives what it gives inside of one, and leaves the counter active or not
-- as before, whether or not it fails.
private theorem Gives.run_outermost {step : Conversion α} {r : Except Error α}
    (h : Gives settled step r) (active : Bool) (ticket : UInt32)
    (deposits : List (UInt32 × Value)) : ∃ last behind,
      (outermost step).run.run ⟨active, ticket, deposits⟩ = (r, ⟨active, last, behind⟩) ∧
        (settled → deposits = [] → behind = []) := by
  obtain ⟨last, behind, hstep, hbehind⟩ := h ticket deposits
  refine ⟨last, behind, ?_, hbehind⟩
  rw [Conversion.run_outermost, hstep]
  cases active <;> rfl

private theorem Gives.outermost {step : Conversion α} {r : Except Error α}
    (h : Gives settled step r) : Gives settled (outermost step) r :=
  h.run_outermost true

end Conversion

/-! ### Data inside of a conversion -/

namespace Datum

open Conversion

variable {settled : Prop}

mutual

private theorem gives_toValue : ∀ d : Datum, (settled → d.IsSettled) →
    Gives settled d.toValue d.meaning
  | .unit, _ | .bool _, _ | .integer _, _ | .single _, _ | .double _, _ | .char _, _ | .text _, _
  | .bytes _, _ | .tag _, _ => by
    unfold toValue meaning
    exact gives_pure _
  | .wrapped d, h => by
    rw [toValue, meaning]
    exact gives_toValue d fun hs v p hp ↦ h hs v p (.wrapped hp)
  | .tagged _ d, h => by
    rw [toValue, meaning]
    exact (gives_toValue d fun hs v p hp ↦ h hs v p (.tagged hp)).bind fun _ ↦ gives_pure _
  | .seq items, h => by
    rw [toValue, meaning]
    have hitems := gives_itemValues items fun hs d hd v p hp ↦ h hs v p (.seq hd hp)
    exact hitems.bind fun _ ↦ gives_pure _
  | .taggedSeq _ items, h => by
    rw [toValue, meaning]
    have hitems := gives_itemValues items fun hs d hd v p hp ↦ h hs v p (.taggedSeq hd hp)
    exact hitems.bind fun _ ↦ gives_pure _
  | .map entries, h => by
    rw [toValue, meaning]
    have hentries := gives_entryValues .empty entries
      (fun hs e he v p hp ↦ h hs v p (.key he hp)) fun hs e he v p hp ↦ h hs v p (.entry he hp)
    exact hentries.bind fun _ ↦ gives_pure _
  | .record fields, h => by
    rw [toValue, meaning]
    have hfields := gives_fieldValues .empty fields fun hs f hf v p hp ↦ h hs v p (.record hf hp)
    exact hfields.bind fun _ ↦ gives_pure _
  | .taggedRecord _ fields, h => by
    rw [toValue, meaning]
    have hfields := gives_fieldValues .empty fields fun hs f hf v p hp ↦
      h hs v p (.taggedRecord hf hp)
    exact hfields.bind fun _ ↦ gives_pure _
  | .value v, _ => by
    rw [toValue, meaning]
    exact gives_handOver v
  | .elsewhere v d, h => by
    -- The ticket stays at the counter, which only data that is not settled may do.
    rw [toValue, meaning]
    intro ticket deposits
    have hd := gives_toValue d fun hs ↦ absurd .self (h hs v d)
    obtain ⟨last, behind, hrun, -⟩ := hd (ticket + 1) _
    exact ⟨last, behind, hrun, fun hs ↦ absurd .self (h hs v d)⟩
  | .converted d, h => by
    rw [toValue, meaning]
    have hd := gives_toValue d fun hs v p hp ↦ h hs v p (.converted hp)
    have hcaught := hd.outermost.tryCatch
      (fun e ↦ throw (.custom e.message)) fun e ↦ gives_throw (.custom e.message)
    have hover := hcaught.bind gives_handOver
    cases hmeaning : d.meaning <;> rw [hmeaning] at hover <;> exact hover
  | .keyless _, _ => by
    rw [toValue, meaning]
    exact gives_throw _
  | .converting, _ => by
    rw [toValue, meaning]
    exact gives_active.bind fun _ ↦ gives_pure _
  | .failing detail, _ => by
    rw [toValue, meaning]
    exact gives_throw _

private theorem gives_itemValues : ∀ ds : List Datum, (settled → ∀ d ∈ ds, d.IsSettled) →
    Gives settled (itemValues ds) (itemMeanings ds)
  | [], _ => gives_pure _
  | d :: ds, h => by
    rw [itemValues, itemMeanings]
    have hd := gives_toValue d fun hs ↦ (List.forall_mem_cons.mp (h hs)).1
    have hds := gives_itemValues ds fun hs ↦ (List.forall_mem_cons.mp (h hs)).2
    exact hd.bind fun _ ↦ hds.bind fun _ ↦ gives_pure _

private theorem gives_entryValues (table : Table Value) : ∀ es : List (Datum × Datum),
    (settled → ∀ e ∈ es, e.1.IsSettled) → (settled → ∀ e ∈ es, e.2.IsSettled) →
    Gives settled (entryValues table es) (entryMeanings table es)
  | [], _, _ => gives_pure _
  | (key, d) :: es, hkeys, hvalues => by
    rw [entryValues, entryMeanings]
    have hkey := gives_toValue key fun hs ↦ (List.forall_mem_cons.mp (hkeys hs)).1
    have hd := gives_toValue d fun hs ↦ (List.forall_mem_cons.mp (hvalues hs)).1
    exact hkey.bind fun key ↦ (gives_lift key.keyName).bind fun name ↦ hd.bind fun v ↦
      gives_entryValues (table.insert name v) es
        (fun hs ↦ (List.forall_mem_cons.mp (hkeys hs)).2)
        fun hs ↦ (List.forall_mem_cons.mp (hvalues hs)).2

private theorem gives_fieldValues (table : Table Value) : ∀ fs : List (String × Datum),
    (settled → ∀ f ∈ fs, f.2.IsSettled) →
    Gives settled (fieldValues table fs) (fieldMeanings table fs)
  | [], _ => gives_pure _
  | (name, d) :: fs, h => by
    rw [fieldValues, fieldMeanings]
    have hd := gives_toValue d fun hs ↦ (List.forall_mem_cons.mp (h hs)).1
    exact hd.bind fun v ↦ gives_fieldValues (table.insert name v) fs
      fun hs ↦ (List.forall_mem_cons.mp (h hs)).2

end

/-- Data is converted to what it stands for, whatever is at the counter, which is active or not as
before afterwards. Settled data leaves nothing behind there. -/
theorem run_convert (d : Datum) (active : Bool) (ticket : UInt32)
    (deposits : List (UInt32 × Value)) : ∃ last behind,
      (Value.convert d).run.run ⟨active, ticket, deposits⟩ = (d.meaning, ⟨active, last, behind⟩) ∧
        (d.IsSettled → deposits = [] → behind = []) :=
  (d.gives_toValue id).run_outermost active ticket deposits

/-- Data is converted to what it stands for, whatever ticket was given out last and whether or not a
conversion is going on already. -/
theorem run_convert_eq_meaning (d : Datum) (active : Bool) (ticket : UInt32)
    (deposits : List (UInt32 × Value)) :
    ((Value.convert d).run.run ⟨active, ticket, deposits⟩).1 = d.meaning := by
  obtain ⟨last, behind, hrun, -⟩ := d.run_convert active ticket deposits
  exact congrArg Prod.fst hrun

/-- Data that is converted by itself becomes what it stands for. -/
theorem ofDatum_eq_meaning (d : Datum) : Value.ofDatum d = d.meaning :=
  d.run_convert_eq_meaning false 0 []

/-- A value that is given to another serializer stays at the counter. -/
theorem run_convert_elsewhere (v : Value) (active : Bool) (ticket : UInt32) :
    (Value.convert (.elsewhere v .unit)).run.run ⟨active, ticket, []⟩ =
      (.ok .null, ⟨active, ticket + 1, [(ticket + 1, v)]⟩) := by
  rw [Value.convert, Conversion.run_outermost]
  cases active <;> rfl

end Datum

/-! ### Programs of conversions -/

namespace Conversion

/-- What data that brings its own code may do while it is converted, one thing after the other. -/
inductive Program where
  /-- Ends with a result. -/
  | finish (r : Except Error Value)
  /-- Asks whether a conversion is going on. -/
  | ask (next : Bool → Program)
  /-- Converts data where it stands, and may go on after a failure. -/
  | embed (d : Datum) (next : Except Error Value → Program)
  /-- Lets another program take its place for a while, and may go on after a failure. -/
  | enter (inner : Program) (next : Except Error Value → Program)
  /-- Runs another program as a conversion of its own, and may go on after a failure. -/
  | convert (inner : Program) (next : Except Error Value → Program)
  /-- Gives a value to another serializer, which sees its form. -/
  | give (v : Value) (next : Form → Program)
  /-- Converts a form, which may come from another serializer, and may go on after a failure. -/
  | accept (f : Form) (next : Except Error Value → Program)

namespace Program

/-- The steps of a program at the counter. -/
def run : Program → Conversion Value
  | .finish r => liftM r
  | .ask next => do (next (← get).active).run
  | .embed d next => do (next (← observing d.toValue)).run
  | .enter inner next => do (next (← observing inner.run)).run
  | .convert inner next => do (next (← observing (outermost inner.run))).run
  | .give v next => do (next (← v.serialize)).run
  | .accept f next => do (next (← observing f.toValue)).run

/-- The program that is told that a conversion is going on, instead of asking. -/
def told : Program → Program
  | .finish r => .finish r
  | .ask next => (next true).told
  | .embed d next => .embed d fun r ↦ (next r).told
  | .enter inner next => .enter inner.told fun r ↦ (next r).told
  | .convert inner next => .convert inner.told fun r ↦ (next r).told
  | .give v next => .give v fun f ↦ (next f).told
  | .accept f next => .accept f fun r ↦ (next r).told

/-- Gives values to another serializer, one after the other. -/
def giveAll : List Value → (List Form → Program) → Program
  | [], next => next []
  | v :: vs, next => .give v fun f ↦ giveAll vs fun fs ↦ next (f :: fs)

/-- Converts forms, one after the other. -/
def acceptAll : List Form → (List (Except Error Value) → Program) → Program
  | [], next => next []
  | f :: fs, next => .accept f fun r ↦ acceptAll fs fun rs ↦ next (r :: rs)

/-- What a program stands for. Whenever it asks, a conversion is going on. It gives values to
another serializer only if that one is a buffer, of which all of them are converted in the end. -/
inductive Means : Program → Except Error Value → Prop where
  | finish (r : Except Error Value) : Means (.finish r) r
  | ask {next : Bool → Program} {r : Except Error Value} :
    Means (next true) r → Means (.ask next) r
  | embed {d : Datum} {next : Except Error Value → Program} {r : Except Error Value} :
    d.IsSettled → Means (next d.meaning) r → Means (.embed d next) r
  | enter {inner : Program} {next : Except Error Value → Program} {x r : Except Error Value} :
    Means inner x → Means (next x) r → Means (.enter inner next) r
  | convert {inner : Program} {next : Except Error Value → Program} {x r : Except Error Value} :
    Means inner x → Means (next x) r → Means (.convert inner next) r
  | buffer {vs : List Value} {next : List (Except Error Value) → Program}
      {r : Except Error Value} : vs.length ≤ UInt32.size → Means (next (vs.map .ok)) r →
    Means (giveAll vs fun fs ↦ acceptAll fs next) r

end Program

/-! ### A conversion that is going on -/

variable {α β : Type}

/-- Whether two steps inside of a conversion do the same, and the conversion is still going on
behind them. -/
def Agree (a b : Conversion α) : Prop :=
  ∀ ticket deposits, ∃ r last behind,
    a.run.run ⟨true, ticket, deposits⟩ = (r, ⟨true, last, behind⟩) ∧
      b.run.run ⟨true, ticket, deposits⟩ = (r, ⟨true, last, behind⟩)

private theorem Gives.agree {settled : Prop} {step : Conversion α} {r : Except Error α}
    (h : Gives settled step r) : Agree step step := by
  intro ticket deposits
  obtain ⟨last, behind, hrun, -⟩ := h ticket deposits
  exact ⟨r, last, behind, hrun, hrun⟩

private theorem agree_pure (x : α) : Agree (pure x) (pure x) :=
  (gives_pure x : Gives True (pure x) (.ok x)).agree

private theorem Agree.bind {a b : Conversion α} {f g : α → Conversion β} (h : Agree a b)
    (hnext : ∀ x, Agree (f x) (g x)) : Agree (a >>= f) (b >>= g) := by
  intro ticket deposits
  obtain ⟨r, between, held, ha, hb⟩ := h ticket deposits
  rw [ExceptT.run_bind, StateT.run_bind, ha, ExceptT.run_bind, StateT.run_bind, hb]
  cases r with
  | error e => exact ⟨.error e, between, held, rfl, rfl⟩
  | ok x => exact hnext x between held

private theorem Agree.observing {a b : Conversion α} (h : Agree a b) :
    Agree (observing a) (observing b) := by
  intro ticket deposits
  obtain ⟨r, last, behind, ha, hb⟩ := h ticket deposits
  exact ⟨.ok r, last, behind, run_observing ha, run_observing hb⟩

private theorem Agree.outermost {a b : Conversion α} (h : Agree a b) :
    Agree (outermost a) (outermost b) := by
  intro ticket deposits
  obtain ⟨r, last, behind, ha, hb⟩ := h ticket deposits
  refine ⟨r, last, behind, ?_, ?_⟩
  · rw [run_outermost, ha]
    rfl
  · rw [run_outermost, hb]
    rfl

private theorem agree_serialize (v : Value) : Agree v.serialize v.serialize := by
  intro ticket deposits
  exact ⟨_, _, _, rfl, rfl⟩

private theorem agree_redeem (n : UInt32) : Agree (redeem n) (redeem n) := by
  intro ticket deposits
  rw [run_redeem]
  cases deposits.lookup n with
  | none => exact ⟨_, ticket, deposits, rfl, rfl⟩
  | some v => exact ⟨_, ticket, _, rfl, rfl⟩

end Conversion

namespace Form

open Conversion

mutual

private theorem agree_toValue : ∀ f : Form, Agree f.toValue f.toValue
  | .unit | .bool _ | .integer _ | .double _ | .text _ => by
    unfold toValue
    exact agree_pure _
  | .seq items => by
    rw [toValue]
    exact (agree_itemValues items).bind fun _ ↦ agree_pure _
  | .map entries => by
    rw [toValue]
    exact (agree_entryValues .empty entries).bind fun _ ↦ agree_pure _
  | .variant _ position _ => by
    rw [toValue]
    split
    · exact agree_redeem position
    · exact agree_pure _

private theorem agree_itemValues : ∀ fs : List Form, Agree (itemValues fs) (itemValues fs)
  | [] => agree_pure _
  | f :: fs => by
    rw [itemValues]
    exact (agree_toValue f).bind fun _ ↦ (agree_itemValues fs).bind fun _ ↦ agree_pure _

private theorem agree_entryValues (table : Table Value) :
    ∀ fs : List (String × Form), Agree (entryValues table fs) (entryValues table fs)
  | [] => agree_pure _
  | (name, f) :: fs => by
    rw [entryValues]
    exact (agree_toValue f).bind fun v ↦ agree_entryValues (table.insert name v) fs

end

end Form

namespace Conversion.Program

-- Whenever a program asks, a conversion is going on, and one is going on when it ends.
private theorem agree_told (p : Program) : Agree p.run p.told.run := by
  induction p with
  | finish r => exact (gives_lift r : Gives True (liftM r) r).agree
  | ask next ih =>
    intro ticket deposits
    exact ih true ticket deposits
  | embed d next ih =>
    exact (d.gives_toValue id).agree.observing.bind ih
  | enter inner next ihinner ih => exact ihinner.observing.bind ih
  | convert inner next ihinner ih => exact ihinner.outermost.observing.bind ih
  | give v next ih => exact (agree_serialize v).bind ih
  | accept f next ih => exact f.agree_toValue.observing.bind ih

/-! ### Buffers -/

/-- The tickets that values get one after the other, behind the ticket given out last. -/
private def numbered (ticket : UInt32) : List Value → List (UInt32 × Value)
  | [] => []
  | v :: vs => (ticket + 1, v) :: numbered (ticket + 1) vs

private theorem map_snd_numbered (ticket : UInt32) (vs : List Value) :
    (numbered ticket vs).map (·.2) = vs := by
  induction vs generalizing ticket with
  | nil => rfl
  | cons v vs ih => rw [numbered, List.map_cons, ih]

private theorem exists_of_mem_numbered {ticket : UInt32} {vs : List Value} {p : UInt32 × Value}
    (h : p ∈ numbered ticket vs) :
    ∃ k, k < vs.length ∧ p.1 = ticket + UInt32.ofNat (k + 1) := by
  induction vs generalizing ticket with
  | nil => cases h
  | cons v vs ih =>
    rw [numbered, List.mem_cons] at h
    rcases h with rfl | h
    · exact ⟨0, Nat.zero_lt_succ _, rfl⟩
    · obtain ⟨k, hk, hp⟩ := ih h
      refine ⟨k + 1, Nat.succ_lt_succ hk, ?_⟩
      rw [hp, UInt32.ofNat_add (k + 1), UInt32.add_assoc, UInt32.add_comm 1]
      rfl

-- A ticket is given out again only when all the others have been.
private theorem ne_of_mem_numbered {ticket : UInt32} {vs : List Value} {p : UInt32 × Value}
    (hlength : vs.length < UInt32.size) (h : p ∈ numbered ticket vs) : p.1 ≠ ticket := by
  obtain ⟨k, hk, hp⟩ := exists_of_mem_numbered h
  intro heq
  have hzero : UInt32.ofNat (k + 1) = 0 := by
    rw [hp] at heq
    simpa using heq
  have hval := congrArg UInt32.toNat hzero
  rw [UInt32.toNat_ofNat', UInt32.toNat_zero] at hval
  have hlt : k + 1 < 2 ^ 32 := Nat.lt_of_le_of_lt hk hlength
  omega

private theorem lookup_filter_ne {n m : UInt32} (h : m ≠ n) (deposits : List (UInt32 × Value)) :
    (deposits.filter fun d ↦ d.1 != n).lookup m = deposits.lookup m := by
  induction deposits with
  | nil => rfl
  | cons d deposits ih =>
    by_cases hd : d.1 = n
    · have hm : (m == d.1) = false := by simp [hd, h]
      rw [List.filter_cons_of_neg (by simp [hd]), ih, List.lookup_cons, hm]
    · rw [List.filter_cons_of_pos (by simp [hd]), List.lookup_cons, List.lookup_cons, ih]

-- Behind values that were given to a buffer each lies under its ticket, and nothing is at the
-- counter that was not there before.
private theorem run_giveAll {vs : List Value} (ticket : UInt32) (deposits : List (UInt32 × Value))
    (next : List Form → Program) (hlength : vs.length ≤ UInt32.size) : ∃ last behind,
      (giveAll vs next).run.run.run ⟨true, ticket, deposits⟩ =
        (next ((numbered ticket vs).map fun p ↦ .ticket p.1)).run.run.run ⟨true, last, behind⟩ ∧
      (∀ p ∈ numbered ticket vs, behind.lookup p.1 = some p.2) ∧
      (∀ m, (∀ p ∈ numbered ticket vs, p.1 ≠ m) → behind.lookup m = deposits.lookup m) ∧
      ∀ d ∈ behind, d ∈ deposits ∨ d ∈ numbered ticket vs := by
  induction vs generalizing ticket deposits next with
  | nil => exact ⟨ticket, deposits, rfl, nofun, fun _ _ ↦ rfl, fun d hd ↦ .inl hd⟩
  | cons v vs ih =>
    let held := (ticket + 1, v) :: deposits.filter fun d ↦ d.1 != ticket + 1
    have hlater : vs.length < UInt32.size := hlength
    obtain ⟨last, behind, hrun, hnew, hold, hmem⟩ :=
      ih (ticket + 1) held (fun fs ↦ next (.ticket (ticket + 1) :: fs)) (Nat.le_of_lt hlater)
    refine ⟨last, behind, hrun, ?_, fun m hm ↦ ?_, fun d hd ↦ ?_⟩
    · rw [numbered, List.forall_mem_cons]
      refine ⟨?_, hnew⟩
      rw [hold _ fun p hp ↦ ne_of_mem_numbered hlater hp]
      simp [held]
    · rw [numbered, List.forall_mem_cons] at hm
      have hne : (m == ticket + 1) = false := by simpa using hm.1.symm
      rw [hold m hm.2, List.lookup_cons, hne]
      exact lookup_filter_ne hm.1.symm deposits
    · rw [numbered, List.mem_cons]
      rcases hmem d hd with hd | hd
      · rcases List.mem_cons.mp hd with rfl | hd
        · exact .inr (.inl rfl)
        · exact .inl ((List.mem_filter.mp hd).1)
      · exact .inr (.inr hd)

private theorem run_acceptAll {ps deposits : List (UInt32 × Value)}
    (next : List (Except Error Value) → Program) (hnodup : (ps.map (·.1)).Nodup)
    (h : ∀ p ∈ ps, deposits.lookup p.1 = some p.2) (last : UInt32) : ∃ behind,
      (acceptAll (ps.map fun p ↦ .ticket p.1) next).run.run.run ⟨true, last, deposits⟩ =
        (next (ps.map fun p ↦ .ok p.2)).run.run.run ⟨true, last, behind⟩ ∧
      ∀ d ∈ behind, d ∈ deposits ∧ ∀ p ∈ ps, d.1 ≠ p.1 := by
  induction ps generalizing deposits next with
  | nil => exact ⟨deposits, rfl, fun d hd ↦ ⟨hd, nofun⟩⟩
  | cons p ps ih =>
    rw [List.map_cons, List.nodup_cons] at hnodup
    rw [List.forall_mem_cons] at h
    have hother : ∀ q ∈ ps, (deposits.filter fun d ↦ d.1 != p.1).lookup q.1 = some q.2 := by
      intro q hq
      rw [lookup_filter_ne _ deposits, h.2 q hq]
      exact fun heq ↦ hnodup.1 (List.mem_map.mpr ⟨q, hq, heq⟩)
    obtain ⟨behind, hrun, hbehind⟩ := ih (fun rs ↦ next (.ok p.2 :: rs)) hnodup.2 hother
    refine ⟨behind, ?_, fun d hd ↦ ?_⟩
    · rw [List.map_cons, acceptAll, run, ExceptT.run_bind, StateT.run_bind,
        run_observing (run_toValue_ticket h.1)]
      exact hrun
    · obtain ⟨hheld, hne⟩ := hbehind d hd
      obtain ⟨hd, hp⟩ := List.mem_filter.mp hheld
      exact ⟨hd, List.forall_mem_cons.mpr ⟨by simpa using hp, hne⟩⟩

private theorem nodup_numbered {ticket : UInt32} {vs : List Value}
    (hlength : vs.length ≤ UInt32.size) : ((numbered ticket vs).map (·.1)).Nodup := by
  induction vs generalizing ticket with
  | nil => exact List.nodup_nil
  | cons v vs ih =>
    have hlater : vs.length < UInt32.size := hlength
    rw [numbered, List.map_cons, List.nodup_cons]
    refine ⟨fun hmem ↦ ?_, ih (Nat.le_of_lt hlater)⟩
    obtain ⟨p, hp, heq⟩ := List.mem_map.mp hmem
    exact ne_of_mem_numbered hlater hp heq

-- A buffer leaves nothing at the counter, and the values in it arrive as they are.
private theorem run_buffer {vs : List Value} (next : List (Except Error Value) → Program)
    (hlength : vs.length ≤ UInt32.size) (ticket : UInt32) : ∃ last,
      (giveAll vs fun fs ↦ acceptAll fs next).run.run.run ⟨true, ticket, []⟩ =
        (next (vs.map .ok)).run.run.run ⟨true, last, []⟩ := by
  obtain ⟨last, held, hgive, hheld, -, hmem⟩ :=
    run_giveAll ticket [] (fun fs ↦ acceptAll fs next) hlength
  obtain ⟨behind, haccept, hbehind⟩ :=
    run_acceptAll next (nodup_numbered hlength) hheld last
  have hnone : behind = [] := by
    refine List.eq_nil_iff_forall_not_mem.mpr fun d hd ↦ ?_
    obtain ⟨hd, hne⟩ := hbehind d hd
    rcases hmem d hd with hd | hd
    · cases hd
    · exact hne d hd rfl
  refine ⟨last, ?_⟩
  rw [hgive, haccept, hnone, ← map_snd_numbered ticket vs, List.map_map, map_snd_numbered]
  rfl

private theorem run_bind_observing {step : Conversion α} {f : Except Error α → Conversion β}
    {r : Except Error α} {counter after : Counter} (h : step.run.run counter = (r, after)) :
    (observing step >>= f).run.run counter = (f r).run.run after := by
  rw [ExceptT.run_bind, StateT.run_bind, run_observing h]
  rfl

private theorem Means.run_eq {p : Program} {r : Except Error Value} (h : p.Means r)
    (ticket : UInt32) : ∃ last, p.run.run.run ⟨true, ticket, []⟩ = (r, ⟨true, last, []⟩) := by
  induction h generalizing ticket with
  | finish r =>
    refine ⟨ticket, ?_⟩
    cases r <;> rfl
  | ask _ ih => exact ih ticket
  | @embed d next r hd _ ih =>
    obtain ⟨between, held, hrun, hheld⟩ := d.gives_toValue id ticket []
    rw [hheld hd rfl] at hrun
    obtain ⟨last, hnext⟩ := ih between
    exact ⟨last, (run_bind_observing hrun).trans hnext⟩
  | enter _ _ ihinner ih =>
    obtain ⟨between, hinner⟩ := ihinner ticket
    obtain ⟨last, hnext⟩ := ih between
    exact ⟨last, (run_bind_observing hinner).trans hnext⟩
  | @convert inner next x r _ _ ihinner ih =>
    obtain ⟨between, hinner⟩ := ihinner ticket
    have houtermost :
        (outermost inner.run).run.run ⟨true, ticket, []⟩ = (x, ⟨true, between, []⟩) := by
      rw [run_outermost, hinner]
      rfl
    obtain ⟨last, hnext⟩ := ih between
    exact ⟨last, (run_bind_observing houtermost).trans hnext⟩
  | buffer hlength _ ih =>
    obtain ⟨between, hbuffer⟩ := run_buffer _ hlength ticket
    obtain ⟨last, hnext⟩ := ih between
    exact ⟨last, hbuffer.trans hnext⟩

end Program

end Conversion

end Stencil
