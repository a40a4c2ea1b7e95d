import Stencil.Proofs.DistinctNames
import Stencil.Proofs.Number.Double
import Stencil.Value.Compare

/-!
# Laws of equality

Equality of values looks up the names of one map only, and counts those of the other one. As the
names of a map are distinct, this is enough: two maps are equal exactly if they have the same names
and equal values of each. Equality thus depends neither on the order of their entries nor on which
of two values comes first. Main statement: `equality_laws`.
-/

namespace Stencil

/-! ### Floating-point numbers -/

namespace Number

open Float.Model

private theorem compare_swap (x y : UnpackedFloat) :
    y.compare x = (x.compare y).map Ordering.swap := by
  have hthen (m m' : Nat) (e e' : Int) :
      (compare e' e).then (compare m' m) = ((compare e e').then (compare m m')).swap := by
    rw [Ordering.swap_then, ← Std.OrientedCmp.eq_swap, ← Std.OrientedCmp.eq_swap]
  cases x with
  | notANumber => cases y <;> rfl
  | zero s => rcases y with (_ | _) | _ | _ | ⟨_ | _⟩ <;> rfl
  | infinity s => rcases s with _ | _ <;> rcases y with (_ | _) | _ | _ | ⟨_ | _⟩ <;> rfl
  | finite s m e hm =>
    cases y with
    | notANumber => cases s <;> rfl
    | zero t => cases s <;> rfl
    | infinity t => cases s <;> cases t <;> rfl
    | finite t m' e' hm' =>
      cases s with
      | positive =>
        cases t with
        | positive => exact congrArg some (hthen m m' e e')
        | negative => rfl
      | negative =>
        cases t with
        | positive => rfl
        | negative => exact congrArg (fun o ↦ some o.swap) (hthen m m' e e')

/-- Equality of floating-point numbers does not depend on which one comes first. -/
theorem float_beq_comm (x y : Float) : (x == y) = (y == x) := by
  change ((unpacked x).compare (unpacked y) == some .eq) =
    ((unpacked y).compare (unpacked x) == some .eq)
  rw [compare_swap (unpacked x)]
  rcases (unpacked x).compare (unpacked y) with _ | _ | _ | _ <;> rfl

end Number

namespace Value

/-! ### Sequences and maps -/

section

variable {names names' : List String} {as : Rows names} {bs : Rows names'}

/-- The entries of one map are within another one if each name of the first has an equal value in
the second. -/
theorem entriesWithin_iff :
    entriesWithin as bs = true ↔
      ∀ e ∈ as.entries, ∃ b, Entries.get? e.1 bs.entries = some b ∧ (b == e.2) = true := by
  induction as with
  | nil => simp [entriesWithin, Rows.entries]
  | cons name a fresh rest ih =>
    rw [entriesWithin, Bool.and_eq_true, ih, Rows.entries, List.forall_mem_cons]
    refine and_congr_left fun _ ↦ ?_
    split
    · next b hb => simp [hb, BEq.beq]
    · next hnone => simp [hnone]

/-- Maps are equal exactly if they have the same names and equal values of each. -/
theorem map_beq_map_iff :
    (Value.map as == Value.map bs) = true ↔
      (∀ name, name ∈ names ↔ name ∈ names') ∧
        ∀ name a b, Entries.get? name as.entries = some a → Entries.get? name bs.entries = some b →
          (b == a) = true := by
  have has := as.nodup_map_fst_entries
  have hbs := bs.nodup_map_fst_entries
  have hsame : (∀ name, name ∈ names ↔ name ∈ names') ↔
      ∀ name, name ∈ as.entries.map (·.1) ↔ name ∈ bs.entries.map (·.1) := by
    simp only [Rows.map_fst_entries]
  change equal (.map as) (.map bs) = true ↔ _
  rw [equal, Bool.and_eq_true, beq_iff_eq, entriesWithin_iff, hsame]
  constructor
  · rintro ⟨hlength, hwithin⟩
    constructor
    · apply Entries.names_iff_of_subset has _ hlength.ge
      intro name hname
      obtain ⟨e, he, rfl⟩ := List.mem_map.mp hname
      obtain ⟨b, hb, -⟩ := hwithin e he
      exact (Entries.isSome_get? _ _).mp (Option.isSome_of_eq_some hb)
    · intro name a b ha hb
      obtain ⟨b', hb', hab⟩ := hwithin (name, a) (Entries.mem_of_get? ha)
      rw [hb] at hb'
      exact Option.some.inj hb' ▸ hab
  · rintro ⟨hnames, hvalues⟩
    refine ⟨Entries.length_eq_of_names_iff has hbs hnames, fun e he ↦ ?_⟩
    have ha : Entries.get? e.1 as.entries = some e.2 := (Entries.get?_eq_some_iff has).mpr he
    have hmem : e.1 ∈ bs.entries.map (·.1) := (hnames e.1).mp (List.mem_map_of_mem he)
    obtain ⟨b, hb⟩ := Option.isSome_iff_exists.mp ((Entries.isSome_get? _ _).mpr hmem)
    exact ⟨b, hb, hvalues e.1 e.2 b ha hb⟩

/-! ### Symmetry -/

private theorem equalItems_comm {as bs : List Value}
    (h : ∀ a ∈ as, ∀ b ∈ bs, (a == b) = (b == a)) : equalItems as bs = equalItems bs as := by
  induction as generalizing bs with
  | nil => cases bs <;> simp [equalItems]
  | cons a as ih =>
    cases bs with
    | nil => simp [equalItems]
    | cons b bs =>
      have hhead : equal a b = equal b a := h a List.mem_cons_self b List.mem_cons_self
      have htail : equalItems as bs = equalItems bs as :=
        ih fun a ha b hb ↦ h a (List.mem_cons_of_mem _ ha) b (List.mem_cons_of_mem _ hb)
      rw [equalItems, equalItems, hhead, htail]

private theorem map_beq_map_comm
    (h : ∀ e ∈ as.entries, ∀ e' ∈ bs.entries, (e.2 == e'.2) = (e'.2 == e.2)) :
    (Value.map as == Value.map bs) = (Value.map bs == Value.map as) := by
  rw [Bool.eq_iff_iff, map_beq_map_iff, map_beq_map_iff]
  refine and_congr (forall_congr' fun name ↦ Iff.comm) ?_
  constructor
  · intro hab name b a hb ha
    rw [h (name, a) (Entries.mem_of_get? ha) (name, b) (Entries.mem_of_get? hb)]
    exact hab name a b ha hb
  · intro hba name a b ha hb
    rw [← h (name, a) (Entries.mem_of_get? ha) (name, b) (Entries.mem_of_get? hb)]
    exact hba name b a hb ha

end

private theorem sizeOf_lt_seq {v : Value} {items : List Value} (hv : v ∈ items) :
    sizeOf v < sizeOf (Value.seq items) := by
  have hlt := List.sizeOf_lt_of_mem hv
  rw [Value.seq.sizeOf_spec]
  omega

private theorem sizeOf_lt_map {e : String × Value} {names : List String} {rows : Rows names}
    (he : e ∈ rows.entries) : sizeOf e.2 < sizeOf (Value.map rows) := by
  have hlt := Rows.sizeOf_lt_of_mem he
  rw [Value.map.sizeOf_spec]
  omega

private theorem beq_comm_of_flat {a b : Value} (h : a.kind ≠ .sequence) (h' : a.kind ≠ .map) :
    (a == b) = (b == a) := by
  change equal a b = equal b a
  unfold equal
  cases a with
  | seq items => exact absurd rfl h
  | map rows => exact absurd rfl h'
  | regex r =>
    cases b with
    | regex r' => exact congrArg₂ and Bool.beq_comm Bool.beq_comm
    | _ => rfl
  | text s _ => cases b <;> first | rfl | exact Bool.beq_comm (a := s)
  | bool c => cases b <;> first | rfl | exact Bool.beq_comm (a := c)
  | int n =>
    cases b with
    | int m => exact Bool.beq_comm (a := n)
    | float y => exact Number.float_beq_comm ..
    | _ => rfl
  | float x =>
    cases b with
    | int m => exact Number.float_beq_comm ..
    | float y => exact Number.float_beq_comm ..
    | _ => rfl
  | undefined | null => cases b <;> rfl

private theorem beq_comm_of_kind_ne {a b : Value} (h : a.kind ≠ b.kind) : (a == b) = (b == a) := by
  by_cases ha : a.kind = .sequence ∨ a.kind = .map
  · by_cases hb : b.kind = .sequence ∨ b.kind = .map
    · change equal a b = equal b a
      unfold equal
      cases a <;> cases b <;> first | rfl | simp [kind] at h ha hb
    · rw [not_or] at hb
      exact (beq_comm_of_flat hb.1 hb.2).symm
  · rw [not_or] at ha
    exact beq_comm_of_flat ha.1 ha.2

private theorem beq_comm_of_parts {a b : Value}
    (ih : ∀ {v w : Value}, sizeOf v < sizeOf a → (v == w) = (w == v)) : (a == b) = (b == a) := by
  by_cases hflat : a.kind = .sequence ∨ a.kind = .map
  · by_cases hkind : a.kind = b.kind
    · cases a with
      | seq as =>
        cases b with
        | seq bs =>
          change equal (.seq as) (.seq bs) = equal (.seq bs) (.seq as)
          rw [equal, equal]
          exact equalItems_comm fun v hv w hw ↦ ih (sizeOf_lt_seq hv)
        | _ => cases hkind
      | map as =>
        cases b with
        | map bs => exact map_beq_map_comm fun e he e' he' ↦ ih (sizeOf_lt_map he)
        | _ => cases hkind
      | _ => rcases hflat with h | h <;> cases h
    · exact beq_comm_of_kind_ne hkind
  · rw [not_or] at hflat
    exact beq_comm_of_flat hflat.1 hflat.2

/-- Whether two values are equal does not depend on which one comes first. -/
theorem beq_comm (a b : Value) : (a == b) = (b == a) :=
  beq_comm_of_parts fun {v w} _ ↦ beq_comm v w
termination_by sizeOf a

/-! ### The two equalities of the expression language -/

/-- Values of different kinds are not equal. -/
theorem kind_eq_of_beq {a b : Value} (h : (a == b) = true) : a.kind = b.kind := by
  change equal a b = true at h
  unfold equal at h
  cases a <;> cases b <;> first | rfl | exact absurd h Bool.false_ne_true

/-- The equality that does not convert is the one of values. -/
theorem strictlyEqual_eq_beq (a b : Value) : strictlyEqual a b = (a == b) := by
  rw [strictlyEqual, Bool.and_eq_right_iff_imp]
  exact fun h ↦ beq_iff_eq.mpr (kind_eq_of_beq h)

private theorem isMissing_congr_kind {a b : Value} (h : a.kind = b.kind) :
    a.isMissing = b.isMissing := by
  cases a <;> cases b <;> first | rfl | cases h

/-- Values convert alike on both sides, so that the equality that converts is as symmetric as the
one of values. -/
theorem looselyEqual_comm (a b : Value) : looselyEqual a b = looselyEqual b a := by
  rw [looselyEqual, looselyEqual, Bool.or_comm, Bool.and_comm, Bool.or_comm a.isCompound,
    Bool.beq_comm (a := a.kind), beq_comm a, Bool.beq_comm (a := a.display)]
  cases ha : a.toNumber? <;> cases hb : b.toNumber? <;> simp [Number.float_beq_comm]

/-- Values that are equal without being converted are equal as well when they are. -/
theorem looselyEqual_of_strictlyEqual {a b : Value} (h : strictlyEqual a b = true) :
    looselyEqual a b = true := by
  rw [strictlyEqual_eq_beq] at h
  have hkind := kind_eq_of_beq h
  rw [looselyEqual, isMissing_congr_kind hkind]
  by_cases hb : b.isMissing = true
  · simp [hb]
  · simp [hb, hkind, h]

/-- All three equalities are symmetric, what is equal without being converted is equal as well when
it is, and two maps are equal exactly if they have the same names and equal values of each. -/
theorem equality_laws (a b : Value) :
    (a == b) = (b == a) ∧ looselyEqual a b = looselyEqual b a ∧
      strictlyEqual a b = strictlyEqual b a ∧
      (strictlyEqual a b = true → looselyEqual a b = true) ∧
      ∀ (names names' : List String) (as : Rows names) (bs : Rows names'), a = .map as →
        b = .map bs →
        ((a == b) = true ↔ (∀ name, name ∈ names ↔ name ∈ names') ∧
          ∀ name v w, Entries.get? name as.entries = some v →
            Entries.get? name bs.entries = some w → (v == w) = true) := by
  refine ⟨beq_comm a b, looselyEqual_comm a b, ?_, looselyEqual_of_strictlyEqual, ?_⟩
  · rw [strictlyEqual_eq_beq, strictlyEqual_eq_beq, beq_comm]
  · rintro names names' as bs rfl rfl
    rw [map_beq_map_iff]
    refine and_congr_right fun _ ↦ forall_congr' fun name ↦ forall₂_congr fun v w ↦
      forall₂_congr fun hv hw ↦ ?_
    rw [beq_comm]

/-- The laws for two maps that differ in the order of their entries, also in a map further in. -/
theorem equality_laws_nested :
    let last (name : String) (v : Value) : Rows [name] := .cons name v List.not_mem_nil .nil
    let inner : Value := .map (.cons "x" .null (by decide) (last "é" (.plain "")))
    let inner' : Value := .map (.cons "é" (.plain "") (by decide) (last "x" .null))
    let a : Value := .map (.cons "a" (.int 1) (by decide) (last "b" (.seq [inner])))
    let b : Value := .map (.cons "b" (.seq [inner']) (by decide) (last "a" (.int 1)))
    (a == b) = true ∧ (b == a) = true := by
  intro last inner inner' a b
  have h : (a == b) = true := by
    change equal _ _ = true
    simp [a, b, inner, inner', last, equal, equalItems, entriesWithin, Rows.entries, Entries.get?,
      equalNumbers, numberPair?, plain]
  exact ⟨h, (equality_laws a b).1 ▸ h⟩

end Value

end Stencil
