import Stencil.Proofs.DistinctNames
import Stencil.Proofs.Handover

/-!
# Faults of data

Data has three faults: a part that reports a failure of its own, a map value that was given no key,
and a key that is converted to a value of a kind that cannot be a key. All of them are listed in the
order in which the data is walked through, each key in front of its value. A conversion fails at the
first one, and only if there is one. Main statement: `conversion_fails_first`.
-/

namespace Stencil

/-- What can be wrong with a part of data. -/
inductive Fault where
  /-- The part reports a failure. -/
  | reported (detail : String)
  /-- A map value was given no key. -/
  | keyless
  /-- A key is converted to a value of this kind. -/
  | badKey (kind : ValueKind)

/-- The failure at a fault. -/
def Fault.error : Fault → Error
  | .reported detail => .custom detail
  | .keyless => .custom "map value without key"
  | .badKey kind => .custom ("unsupported map key of kind " ++ kind.name)

/-- The kinds of values that can be keys. -/
def ValueKind.ofKeys : List ValueKind := [.string, .number, .bool]

namespace Datum

/-- The fault of a map key, where it can be converted at all. -/
def keyFaults (key : Datum) : List Fault :=
  match Value.ofDatum key with
  | .ok v => if v.kind ∈ ValueKind.ofKeys then [] else [.badKey v.kind]
  | .error _ => []

mutual

/-- The faults of data, from first to last. Those of data that is converted for itself are reported
by it. -/
def faults : Datum → List Fault
  | .wrapped d | .tagged _ d | .elsewhere _ d => d.faults
  | .seq items | .taggedSeq _ items => itemFaults items
  | .map entries => entryFaults entries
  | .record fields | .taggedRecord _ fields => fieldFaults fields
  | .converted d => d.faults.map fun f ↦ .reported f.error.message
  | .keyless d => .keyless :: d.faults
  | .failing detail => [.reported detail]
  | .unit | .bool _ | .integer _ | .single _ | .double _ | .char _ | .text _ | .bytes _ | .tag _
  | .value _ | .converting => []

/-- The faults of the items of a sequence. -/
def itemFaults : List Datum → List Fault
  | [] => []
  | d :: ds => d.faults ++ itemFaults ds

/-- The faults of the entries of a map. -/
def entryFaults : List (Datum × Datum) → List Fault
  | [] => []
  | (key, d) :: es => key.faults ++ key.keyFaults ++ d.faults ++ entryFaults es

/-- The faults of the fields of a record. -/
def fieldFaults : List (String × Datum) → List Fault
  | [] => []
  | (_, d) :: fs => d.faults ++ fieldFaults fs

end

/-! ### Faulty parts -/

/-- Data that has a fault whatever its parts are. -/
inductive IsFaulty : Datum → Prop where
  /-- It reports a failure. -/
  | failing (detail : String) : IsFaulty (.failing detail)
  /-- It is a map value that was given no key. -/
  | keyless (d : Datum) : IsFaulty (.keyless d)
  /-- It is a map with a key that is converted to a value of another kind than keys have. -/
  | badKey {entries : List (Datum × Datum)} {e : Datum × Datum} {v : Value} (he : e ∈ entries)
      (hv : Value.ofDatum e.1 = .ok v) (hkind : v.kind ∉ ValueKind.ofKeys) : IsFaulty (.map entries)

private theorem keyFaults_eq_nil {key : Datum} :
    key.keyFaults = [] ↔ ∀ v, Value.ofDatum key = .ok v → v.kind ∈ ValueKind.ofKeys := by
  unfold keyFaults
  cases Value.ofDatum key <;> simp

private theorem itemFaults_eq_nil {ds : List Datum} :
    itemFaults ds = [] ↔ ∀ d ∈ ds, d.faults = [] := by
  induction ds with
  | nil => simp [itemFaults]
  | cons d ds ih => simp [itemFaults, ih]

private theorem fieldFaults_eq_nil {fs : List (String × Datum)} :
    fieldFaults fs = [] ↔ ∀ f ∈ fs, f.2.faults = [] := by
  induction fs with
  | nil => simp [fieldFaults]
  | cons f fs ih => simp [fieldFaults, ih]

private theorem entryFaults_eq_nil {es : List (Datum × Datum)} :
    entryFaults es = [] ↔
      ∀ e ∈ es, (e.1.faults = [] ∧ e.1.keyFaults = []) ∧ e.2.faults = [] := by
  induction es with
  | nil => simp [entryFaults]
  | cons e es ih => simp [entryFaults, ih, and_assoc]

private theorem Part.faults_eq_nil {p d : Datum} (h : Part p d) (hd : d.faults = []) :
    p.faults = [] := by
  induction h with
  | self => exact hd
  | wrapped _ ih | tagged _ ih | elsewhere _ ih => exact ih hd
  | converted _ ih => exact ih (List.map_eq_nil_iff.mp hd)
  | keyless _ _ => exact absurd hd (List.cons_ne_nil _ _)
  | seq hmem _ ih | taggedSeq hmem _ ih => exact ih (itemFaults_eq_nil.mp hd _ hmem)
  | key hmem _ ih => exact ih (entryFaults_eq_nil.mp hd _ hmem).1.1
  | entry hmem _ ih => exact ih (entryFaults_eq_nil.mp hd _ hmem).2
  | record hmem _ ih | taggedRecord hmem _ ih => exact ih (fieldFaults_eq_nil.mp hd _ hmem)

private theorem IsFaulty.faults_ne_nil {d : Datum} (h : d.IsFaulty) : d.faults ≠ [] := by
  cases h with
  | failing detail => exact List.cons_ne_nil _ _
  | keyless d => exact List.cons_ne_nil _ _
  | badKey he hv hkind =>
    exact fun hnil ↦ hkind (keyFaults_eq_nil.mp (entryFaults_eq_nil.mp hnil _ he).1.2 _ hv)

mutual

private theorem faults_eq_nil_of_parts : ∀ d : Datum,
    (∀ p, Part p d → ¬p.IsFaulty) → d.faults = []
  | .unit, _ | .bool _, _ | .integer _, _ | .single _, _ | .double _, _ | .char _, _ | .text _, _
  | .bytes _, _ | .tag _, _ | .value _, _ | .converting, _ => rfl
  | .wrapped d, h => faults_eq_nil_of_parts d fun p hp ↦ h p (.wrapped hp)
  | .tagged _ d, h => faults_eq_nil_of_parts d fun p hp ↦ h p (.tagged hp)
  | .elsewhere _ d, h => faults_eq_nil_of_parts d fun p hp ↦ h p (.elsewhere hp)
  | .seq items, h => itemFaults_eq_nil_of_parts items fun d hd p hp ↦ h p (.seq hd hp)
  | .taggedSeq _ items, h => itemFaults_eq_nil_of_parts items fun d hd p hp ↦ h p (.taggedSeq hd hp)
  | .map entries, h => by
    -- A map alone can be faulty when none of its parts is, namely for the kind of a key.
    refine entryFaults_eq_nil_of_parts entries (fun e he v hv ↦ ?_)
      (fun e he p hp ↦ h p (.key he hp)) fun e he p hp ↦ h p (.entry he hp)
    exact by_contra fun hkind ↦ h _ .self (.badKey he hv hkind)
  | .record fields, h => fieldFaults_eq_nil_of_parts fields fun f hf p hp ↦ h p (.record hf hp)
  | .taggedRecord _ fields, h =>
    fieldFaults_eq_nil_of_parts fields fun f hf p hp ↦ h p (.taggedRecord hf hp)
  | .converted d, h =>
    List.map_eq_nil_iff.mpr (faults_eq_nil_of_parts d fun p hp ↦ h p (.converted hp))
  | .keyless d, h => absurd (.keyless d) (h _ .self)
  | .failing detail, h => absurd (.failing detail) (h _ .self)

private theorem itemFaults_eq_nil_of_parts : ∀ ds : List Datum,
    (∀ d ∈ ds, ∀ p, Part p d → ¬p.IsFaulty) → itemFaults ds = []
  | [], _ => rfl
  | d :: ds, h => by
    obtain ⟨hd, hds⟩ := List.forall_mem_cons.mp h
    rw [itemFaults, faults_eq_nil_of_parts d hd, itemFaults_eq_nil_of_parts ds hds,
      List.append_nil]

private theorem entryFaults_eq_nil_of_parts : ∀ es : List (Datum × Datum),
    (∀ e ∈ es, ∀ v, Value.ofDatum e.1 = .ok v → v.kind ∈ ValueKind.ofKeys) →
    (∀ e ∈ es, ∀ p, Part p e.1 → ¬p.IsFaulty) → (∀ e ∈ es, ∀ p, Part p e.2 → ¬p.IsFaulty) →
    entryFaults es = []
  | [], _, _, _ => rfl
  | (key, d) :: es, hkinds, hkeys, hvalues => by
    obtain ⟨hkind, hkinds⟩ := List.forall_mem_cons.mp hkinds
    obtain ⟨hkey, hkeys⟩ := List.forall_mem_cons.mp hkeys
    obtain ⟨hd, hvalues⟩ := List.forall_mem_cons.mp hvalues
    rw [entryFaults, faults_eq_nil_of_parts key hkey, keyFaults_eq_nil.mpr hkind,
      faults_eq_nil_of_parts d hd, entryFaults_eq_nil_of_parts es hkinds hkeys hvalues]
    rfl

private theorem fieldFaults_eq_nil_of_parts : ∀ fs : List (String × Datum),
    (∀ f ∈ fs, ∀ p, Part p f.2 → ¬p.IsFaulty) → fieldFaults fs = []
  | [], _ => rfl
  | (_, d) :: fs, h => by
    obtain ⟨hd, hfs⟩ := List.forall_mem_cons.mp h
    rw [fieldFaults, faults_eq_nil_of_parts d hd, fieldFaults_eq_nil_of_parts fs hfs,
      List.append_nil]

end

private theorem faults_ne_nil_iff {d : Datum} : d.faults ≠ [] ↔ ∃ p, Part p d ∧ p.IsFaulty := by
  constructor
  · refine fun h ↦ by_contra fun hnone ↦ h (faults_eq_nil_of_parts d fun p hp hfaulty ↦ ?_)
    exact hnone ⟨p, hp, hfaulty⟩
  · rintro ⟨p, hp, hfaulty⟩ hd
    exact hfaulty.faults_ne_nil (hp.faults_eq_nil hd)

end Datum

/-! ### The first fault -/

/-- A conversion of data with these faults fails at the first one, and does not fail without one. -/
inductive FailsFirst {α : Type} : List Fault → Except Error α → Prop where
  | ok (x : α) : FailsFirst [] (.ok x)
  | error (f : Fault) (fs : List Fault) : FailsFirst (f :: fs) (.error f.error)

namespace FailsFirst

variable {α β : Type} {fs gs : List Fault} {r : Except Error α}

/-- The faults of a step count in front of those of the step behind it, which is taken only without
them. -/
theorem bind {g : α → Except Error β} (hr : FailsFirst fs r)
    (hg : ∀ x, r = .ok x → FailsFirst gs (g x)) : FailsFirst (fs ++ gs) (r >>= g) := by
  cases hr with
  | ok x => exact hg x rfl
  | error f fs => exact .error f (fs ++ gs)

/-- What is made of a result has no faults of its own. -/
theorem map (g : α → β) (hr : FailsFirst fs r) : FailsFirst fs (do return g (← r)) := by
  have hbind := hr.bind fun x _ ↦ .ok (g x)
  rwa [List.append_nil] at hbind

/-- A failure can be reported as another one. -/
theorem mapError (hr : FailsFirst fs r) :
    FailsFirst (fs.map fun f ↦ .reported f.error.message)
      (r.mapError fun e ↦ .custom e.message) := by
  cases hr with
  | ok x => exact .ok x
  | error f fs => exact .error (.reported f.error.message) _

/-- A failure is the error of the first fault. -/
theorem eq_error_iff (hr : FailsFirst fs r) (e : Error) :
    r = .error e ↔ fs.head?.map Fault.error = some e := by
  cases hr with
  | ok x => simp
  | error f fs => simp

/-- There is a failure exactly if there is a fault. -/
theorem exists_error_iff (hr : FailsFirst fs r) : (∃ e, r = .error e) ↔ fs ≠ [] := by
  cases hr with
  | ok x => simp
  | error f fs => simp

/-- Without a fault there is a result. -/
theorem exists_ok (hr : FailsFirst [] r) : ∃ x, r = .ok x := by
  cases hr with
  | ok x => exact ⟨x, rfl⟩

end FailsFirst

namespace Datum

private theorem failsFirst_keyName {key : Datum} {v : Value} (hv : key.meaning = .ok v) :
    FailsFirst key.keyFaults v.keyName := by
  rw [keyFaults, ofDatum_eq_meaning, hv]
  cases v with
  | bool b | int n | float x | text s safe => exact .ok _
  | undefined | null | seq items | map entries | regex r => exact .error (.badKey _) []

mutual

private theorem failsFirst_meaning : ∀ d : Datum, FailsFirst d.faults d.meaning
  | .unit | .bool _ | .integer _ | .single _ | .double _ | .char _ | .text _ | .bytes _ | .tag _
  | .value _ | .converting => by
    unfold faults meaning
    exact .ok _
  | .wrapped d => by
    rw [faults, meaning]
    exact failsFirst_meaning d
  | .tagged _ d => by
    rw [faults, meaning]
    exact (failsFirst_meaning d).map _
  | .elsewhere _ d => by
    rw [faults, meaning]
    exact failsFirst_meaning d
  | .seq items => by
    rw [faults, meaning]
    exact (failsFirst_itemMeanings items).map _
  | .taggedSeq _ items => by
    rw [faults, meaning]
    exact (failsFirst_itemMeanings items).map _
  | .map entries => by
    rw [faults, meaning]
    exact (failsFirst_entryMeanings .empty entries).map _
  | .record fields => by
    rw [faults, meaning]
    exact (failsFirst_fieldMeanings .empty fields).map _
  | .taggedRecord _ fields => by
    rw [faults, meaning]
    exact (failsFirst_fieldMeanings .empty fields).map _
  | .converted d => by
    rw [faults, meaning]
    exact (failsFirst_meaning d).mapError
  | .keyless d => by
    rw [faults, meaning]
    exact .error .keyless d.faults
  | .failing detail => by
    rw [faults, meaning]
    exact .error (.reported detail) []

private theorem failsFirst_itemMeanings : ∀ ds : List Datum,
    FailsFirst (itemFaults ds) (itemMeanings ds)
  | [] => .ok []
  | d :: ds => by
    rw [itemFaults, itemMeanings]
    exact (failsFirst_meaning d).bind fun v _ ↦ (failsFirst_itemMeanings ds).map (v :: ·)

private theorem failsFirst_entryMeanings (table : Table Value) :
    ∀ es : List (Datum × Datum), FailsFirst (entryFaults es) (entryMeanings table es)
  | [] => .ok table
  | (key, d) :: es => by
    -- The name is asked of what the key was converted to, so its fault counts only behind the key.
    rw [entryFaults, entryMeanings, List.append_assoc, List.append_assoc]
    exact (failsFirst_meaning key).bind fun _ hkey ↦ (failsFirst_keyName hkey).bind fun _ _ ↦
      (failsFirst_meaning d).bind fun _ _ ↦ failsFirst_entryMeanings _ es

private theorem failsFirst_fieldMeanings (table : Table Value) :
    ∀ fs : List (String × Datum), FailsFirst (fieldFaults fs) (fieldMeanings table fs)
  | [] => .ok table
  | (_, d) :: fs => by
    rw [fieldFaults, fieldMeanings]
    exact (failsFirst_meaning d).bind fun _ _ ↦ failsFirst_fieldMeanings _ fs

end

end Datum

/-- The errors of all faults are of one kind. -/
theorem Fault.kind_error (f : Fault) : f.error.kind = .badSerialization := by
  cases f <;> rfl

/-- Data fails to be converted if and only if one of its parts is faulty: it reports a failure, is a
map value without a key, or is a map with a key that is converted to something else than a text, a
number or a truth value. Whatever ticket was given out last and whether or not a conversion is going
on already, the failure is that of the first fault, where the faults of a key stand in front of
those of its value. It is always of the kind that data fails with. Data without a faulty part is
converted to a value in which no map has a name twice. -/
theorem conversion_fails_first (active : Bool) (ticket : UInt32) (d : Datum) :
    let r := ((Value.convert d).run.run ⟨active, ticket, []⟩).1
    ((∃ e, r = .error e) ↔ ∃ p, Datum.Part p d ∧ p.IsFaulty) ∧
      (∀ e, r = .error e ↔ d.faults.head?.map Fault.error = some e) ∧
      (∀ e, r = .error e → e.kind = .badSerialization) ∧
      ((∀ p, Datum.Part p d → ¬p.IsFaulty) → ∃ v, r = .ok v ∧ v.HasDistinctNames) := by
  intro r
  have hr : r = d.meaning := d.run_convert_eq_meaning active ticket []
  have hfirst := d.failsFirst_meaning
  rw [← hr] at hfirst
  have hiff := hfirst.eq_error_iff
  refine ⟨?_, hiff, fun e he ↦ ?_, fun hparts ↦ ?_⟩
  · rw [hfirst.exists_error_iff, Datum.faults_ne_nil_iff]
  · obtain ⟨f, -, rfl⟩ := Option.map_eq_some_iff.mp ((hiff e).mp he)
    exact f.kind_error
  · rw [Datum.faults_eq_nil_of_parts d hparts] at hfirst
    obtain ⟨v, hv⟩ := hfirst.exists_ok
    exact ⟨v, hv, v.hasDistinctNames⟩

/-- A key that is a sequence fails before the value behind it does, and two keys of different kinds
that stand for one name are converted to one entry. -/
theorem conversion_fails_first_at_key :
    let bad : Datum := .record [("a", .unit), ("b", .map [(.seq [.unit], .failing "late")])]
    let good : Datum := .map [(.bool true, .unit), (.text "true", .value (.single "k" .null))]
    (∃ e, ((Value.convert bad).run.run ⟨false, 0, []⟩).1 = .error e) ∧
      ((Value.convert bad).run.run ⟨false, 0, []⟩).1 =
        .error (.custom "unsupported map key of kind sequence") ∧
      ∃ v, ((Value.convert good).run.run ⟨true, 7, []⟩).1 = .ok v ∧ v.HasDistinctNames := by
  intro bad good
  have hbad := conversion_fails_first false 0 bad
  have hpart : Datum.Part (.map [(.seq [.unit], .failing "late")]) bad :=
    .record (List.mem_cons_of_mem _ List.mem_cons_self) .self
  have hfaulty : Datum.IsFaulty (.map [(.seq [.unit], .failing "late")]) :=
    .badKey List.mem_cons_self (rfl : Value.ofDatum (.seq [.unit]) = .ok (.seq [.null])) (by decide)
  have hnone : ¬∃ p, Datum.Part p good ∧ p.IsFaulty :=
    Datum.faults_ne_nil_iff.not.mp (not_not_intro rfl)
  exact ⟨hbad.1.mpr ⟨_, hpart, hfaulty⟩, (hbad.2.1 _).mpr rfl,
    (conversion_fails_first true 7 good).2.2.2 fun p hp hf ↦ hnone ⟨p, hp, hf⟩⟩

end Stencil
