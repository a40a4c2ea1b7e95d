import Stencil.Proofs.Handover
import Stencil.Proofs.Length
import Stencil.Proofs.Literal

/-!
# Ways to properties

Properties are read one at a time, along a path, or under a key between brackets. One at a time they
lead where the path leads, unless a value on the way is missing: that is a failure there, and
undefined at the end of the path. A key stands for its text in every value, also where integers are
positions, so that a map that is converted from data is read under the values that its keys are
converted to. Main statements: `foldlM_property`, `item_eq_property_display`.
-/

namespace Stencil

open Number

namespace Value

/-! ### Properties one at a time -/

private theorem foldlM_property_cons (v : Value) (name : String) (names : List String) :
    (name :: names).foldlM property v =
      if v.isMissing then .error (v.unreadable name)
      else names.foldlM property ((v.property? name).getD .undefined) := by
  rw [List.foldlM_cons, property]
  split <;> rfl

private theorem foldlM_property_cases (v : Value) (names : List String) :
    (names.foldlM property v = .ok (v.path names) ∧
        ∀ front, front <+: names → front ≠ names → (v.path front).isMissing = false) ∨
      ∃ e, names.foldlM property v = .error e ∧ e.kind = .invalidOperation ∧
        v.path names = .undefined ∧
        ∃ front, front <+: names ∧ front ≠ names ∧ (v.path front).isMissing = true := by
  induction names generalizing v with
  | nil => exact .inl ⟨rfl, fun front hfront hne ↦ absurd (List.prefix_nil.mp hfront) hne⟩
  | cons name names ih =>
    rw [foldlM_property_cons, path]
    cases hv : v.isMissing with
    | true =>
      exact .inr ⟨v.unreadable name, rfl, rfl, rfl, [], List.nil_prefix, by simp, hv⟩
    | false =>
      have hpath (front : List String) :
          v.path (name :: front) = ((v.property? name).getD .undefined).path front := by
        rw [path, hv]
        rfl
      rcases ih ((v.property? name).getD .undefined) with
        ⟨hfold, hfront⟩ | ⟨e, hfold, hkind, hend, front, hprefix, hne, hmissing⟩
      · refine .inl ⟨hfold, fun front hprefix hne ↦ ?_⟩
        cases front with
        | nil => exact hv
        | cons name' front =>
          obtain ⟨rfl, hrest⟩ := List.cons_prefix_cons.mp hprefix
          rw [hpath]
          exact hfront front hrest fun heq ↦ hne (heq ▸ rfl)
      · refine .inr ⟨e, hfold, hkind, hend, name :: front, ?_, by simpa using hne, ?_⟩
        · exact List.cons_prefix_cons.mpr ⟨rfl, hprefix⟩
        · rw [hpath]
          exact hmissing

/-- Properties that are read one after the other lead where the path leads, or fail with an invalid
operation. They fail exactly if a proper part of the names, from the first one on, leads to a value
that is missing; the path is undefined then, and the failure tells the first name that is read from
such a value. A path goes on from where its first part leads. -/
theorem foldlM_property (v : Value) (names : List String) :
    (names.foldlM property v = .ok (v.path names) ∨
      ∃ e, names.foldlM property v = .error e ∧ e.kind = .invalidOperation) ∧
    ((∃ e, names.foldlM property v = .error e) ↔
      ∃ front, front <+: names ∧ front ≠ names ∧ (v.path front).isMissing = true) ∧
    ((∃ e, names.foldlM property v = .error e) → v.path names = .undefined) ∧
    (∀ front name rest w, names = front ++ name :: rest → front.foldlM property v = .ok w →
      w.isMissing = true → names.foldlM property v = .error (w.unreadable name)) ∧
    ∀ more, v.path (names ++ more) = (v.path names).path more := by
  have hfirst : ∀ front name rest w, names = front ++ name :: rest →
      front.foldlM property v = .ok w → w.isMissing = true →
      names.foldlM property v = .error (w.unreadable name) := by
    rintro front name rest w rfl hfront hw
    rw [List.foldlM_append, hfront]
    exact (foldlM_property_cons w name rest).trans (if_pos hw)
  rcases foldlM_property_cases v names with ⟨hfold, hthere⟩ | ⟨e, hfold, hkind, hend, hmissing⟩
  · have hnot : ¬∃ e, names.foldlM property v = .error e := by
      rintro ⟨e, he⟩
      cases hfold.symm.trans he
    have hnone : ¬∃ front, front <+: names ∧ front ≠ names ∧ (v.path front).isMissing = true := by
      rintro ⟨front, hprefix, hne, hmissing⟩
      cases (hthere front hprefix hne).symm.trans hmissing
    exact ⟨.inl hfold, iff_of_false hnot hnone, fun h ↦ absurd h hnot, hfirst, path_append v names⟩
  · exact ⟨.inr ⟨e, hfold, hkind⟩, iff_of_true ⟨e, hfold⟩ hmissing, fun _ ↦ hend, hfirst,
      path_append v names⟩

/-! ### Items under keys -/

private theorem readPosition?_toDigits {n : Nat} (h : n < UInt64.size) :
    readPosition? (Nat.toDigits 10 n) = some n := by
  unfold readPosition?
  split
  · next ds hds => exact absurd (isDigit_of_mem_toDigits (hds ▸ List.mem_cons_self)) (by decide)
  · dsimp only
    rw [natural?_toDigits]
    exact Option.filter_some_pos (by simpa using h)

private theorem readPosition?_integerText (i : Int64) :
    readPosition? (integerText i).toList = if i < 0 then none else some i.toInt.toNat := by
  have hneg : i < 0 ↔ i.toInt < 0 := Int64.lt_iff_toInt_lt
  have hlt := i.toInt_lt
  cases hi : i.toInt with
  | ofNat m =>
    rw [hi, Int.ofNat_eq_natCast] at hneg hlt
    rw [toList_integerText_of_ofNat hi, readPosition?_toDigits (by unfold UInt64.size; omega),
      if_neg (hneg.not.mpr (by omega))]
    rfl
  | negSucc m =>
    rw [hi] at hneg
    rw [toList_integerText_of_negSucc hi, if_pos (hneg.mpr (Int.negSucc_lt_zero m))]
    rfl

private theorem integerText_ne_length (i : Int64) : integerText i ≠ "length" := by
  intro h
  have hmem : 'l' ∈ (integerText i).toList := by
    rw [h]
    decide
  rcases eq_minus_or_isDigit_of_mem hmem with hchar | hchar <;> revert hchar <;> decide

private theorem position_integerText (v : Value) (length : Nat) (i : Int64) :
    (if integerText i = "length" then some (.ofNat length)
      else (readPosition? (integerText i).toList).bind v.at?) =
      if i < 0 then none else v.at? i.toInt.toNat := by
  rw [if_neg (integerText_ne_length i), readPosition?_integerText]
  split <;> rfl

private theorem item_eq_property (v key : Value) : v.item key = v.property key.display := by
  have htext (i : Int64) : (Value.int i).display = integerText i := String.ofList_toList
  have hplain (name : String) (safe : Bool) : (Value.text name safe).display = name :=
    String.ofList_toList
  unfold item property
  split
  · rfl
  · dsimp only
    split
    · rw [htext, property?, position_integerText]
    · rw [htext, property?, position_integerText]
    · rw [hplain]
    · rfl

/-! ### Maps that are converted from data -/

/-- Whether a value can be the key of a map: a text, a number or a truth value. -/
def IsKey (v : Value) : Prop := v.kind = .string ∨ v.kind = .number ∨ v.kind = .bool

/-- The keys and values of map entries are converted to the pairs, by themselves. -/
def AreConverted (entries : List (Datum × Datum)) (pairs : List (Value × Value)) : Prop :=
  List.Forall₂ (fun e p ↦ ofDatum e.1 = .ok p.1 ∧ p.1.IsKey ∧ ofDatum e.2 = .ok p.2) entries pairs

/-- Of the pairs whose keys have the text, the last one has the value. -/
def IsLastUnder (text : String) (w : Value) (pairs : List (Value × Value)) : Prop :=
  ∃ before key after, pairs = before ++ (key, w) :: after ∧ key.display = text ∧
    ∀ p ∈ after, p.1.display ≠ text

section

variable {entries : List (Datum × Datum)} {pairs : List (Value × Value)} {text : String} {w : Value}

private theorem keyName_of_isKey {v : Value} (h : v.IsKey) : v.keyName = .ok v.display := by
  cases v with
  | text s safe => exact congrArg Except.ok String.ofList_toList.symm
  | bool b => rfl
  | int n => rfl
  | float x => rfl
  | _ => rcases h with h | h | h <;> cases h

private theorem isKey_of_keyName {v : Value} {name : String} (h : v.keyName = .ok name) :
    v.IsKey := by
  cases v with
  | text s safe => exact .inl rfl
  | bool b => exact .inr (.inr rfl)
  | int n => exact .inr (.inl rfl)
  | float x => exact .inr (.inl rfl)
  | _ => cases h

private theorem exists_isLastUnder (h : ∃ p ∈ pairs, p.1.display = text) :
    ∃ w, IsLastUnder text w pairs := by
  induction pairs with
  | nil =>
    obtain ⟨p, hp, -⟩ := h
    cases hp
  | cons q pairs ih =>
    by_cases hlater : ∃ p ∈ pairs, p.1.display = text
    · obtain ⟨w, before, key, after, rfl, hlast⟩ := ih hlater
      exact ⟨w, q :: before, key, after, rfl, hlast⟩
    · obtain ⟨p, hp, htext⟩ := h
      rcases List.mem_cons.mp hp with rfl | hp
      · exact ⟨p.2, [], p.1, pairs, rfl, htext, fun p hp htext ↦ hlater ⟨p, hp, htext⟩⟩
      · exact absurd ⟨p, hp, htext⟩ hlater

/-- The table that keys and values are written to, each pair under the text of its key. -/
theorem AreConverted.entryMeanings_eq (h : AreConverted entries pairs)
    (table : Table Value) : Datum.entryMeanings table entries =
      .ok (table.insertAll (pairs.map fun p ↦ (p.1.display, p.2))) := by
  induction h generalizing table with
  | nil => rfl
  | @cons e p _ _ hentry _ ih =>
    obtain ⟨hname, hkey, hvalue⟩ := hentry
    rw [Datum.ofDatum_eq_meaning] at hname hvalue
    rw [Datum.entryMeanings, hname, hvalue]
    change (p.1.keyName >>= _) = _
    rw [keyName_of_isKey hkey]
    exact ih _

private theorem exists_areConverted {table out : Table Value}
    (h : Datum.entryMeanings table entries = .ok out) : ∃ pairs, AreConverted entries pairs := by
  induction entries generalizing table with
  | nil => exact ⟨[], .nil⟩
  | cons e entries ih =>
    obtain ⟨key, d⟩ := e
    rw [Datum.entryMeanings] at h
    obtain ⟨v, hv, h⟩ := exists_of_bind_eq_ok h
    obtain ⟨name, hname, h⟩ := exists_of_bind_eq_ok h
    obtain ⟨w, hw, h⟩ := exists_of_bind_eq_ok h
    obtain ⟨pairs, hpairs⟩ := ih h
    rw [← Datum.ofDatum_eq_meaning] at hv hw
    exact ⟨(v, w) :: pairs, .cons ⟨hv, isKey_of_keyName hname, hw⟩ hpairs⟩

private theorem IsLastUnder.get?_ofList (h : IsLastUnder text w pairs) :
    Entries.get? text (Entries.ofList (pairs.map fun p ↦ (p.1.display, p.2))) = some w := by
  obtain ⟨before, key, after, rfl, rfl, hafter⟩ := h
  rw [List.map_append, List.map_cons]
  refine Entries.get?_ofList ?_
  simpa using hafter

end

/-- A key stands for the property that is named by its text, whatever the value and the key are. So
is it in the maps that are converted from data. Each key of theirs is converted to a text, a number
or a truth value, and under each of these stands the value of the last entry whose key has the same
text. -/
theorem item_eq_property_display :
    (∀ v key : Value, v.item key = v.property key.display) ∧
    ∀ entries,
      (∀ m, ofDatum (.map entries) = .ok m → ∃ pairs, AreConverted entries pairs) ∧
      ∀ pairs, AreConverted entries pairs → ∃ m, ofDatum (.map entries) = .ok m ∧
        ∀ p ∈ pairs, ∃ w, IsLastUnder p.1.display w pairs ∧ m.item p.1 = .ok w := by
  have hmap (entries : List (Datum × Datum)) : ofDatum (.map entries) =
      Datum.entryMeanings .empty entries >>= fun out ↦ .ok (.ofTable out) := by
    rw [Datum.ofDatum_eq_meaning, Datum.meaning]
    rfl
  refine ⟨item_eq_property, fun entries ↦ ⟨fun m hm ↦ ?_, fun pairs h ↦ ?_⟩⟩
  · rw [hmap] at hm
    obtain ⟨out, hout, -⟩ := exists_of_bind_eq_ok hm
    exact exists_areConverted hout
  · refine ⟨.ofTable (.ofList (pairs.map fun p ↦ (p.1.display, p.2))), ?_, fun p hp ↦ ?_⟩
    · rw [hmap, h.entryMeanings_eq]
      rfl
    · obtain ⟨w, hlast⟩ := exists_isLastUnder ⟨p, hp, rfl⟩
      refine ⟨w, hlast, ?_⟩
      rw [item_eq_property]
      change Except.ok ((Entries.get? _ (Rows.ofList _ _).entries).getD Value.undefined) = _
      rw [Rows.entries_ofList, Table.entries_ofList, hlast.get?_ofList]
      rfl

/-- A text and an integer with one text among the keys, a negative integer and a truth value. -/
theorem item_eq_property_display_colliding :
    let entries : List (Datum × Datum) := [(.text "1", .text "a"), (.integer 1, .text "b"),
      (.integer (-1), .text "c"), (.bool true, .text "d")]
    let pairs : List (Value × Value) := [(.plain "1", .plain "a"), (.int 1, .plain "b"),
      (.int (-1), .plain "c"), (.bool true, .plain "d")]
    AreConverted entries pairs ∧ ∃ m, ofDatum (.map entries) = .ok m ∧
      ∀ p ∈ pairs, ∃ w, IsLastUnder p.1.display w pairs ∧ m.item p.1 = .ok w := by
  intro entries pairs
  have h : AreConverted entries pairs :=
    .cons ⟨rfl, .inl rfl, rfl⟩ <| .cons ⟨rfl, .inr (.inl rfl), rfl⟩ <|
      .cons ⟨rfl, .inr (.inl rfl), rfl⟩ <| .cons ⟨rfl, .inr (.inr rfl), rfl⟩ .nil
  exact ⟨h, (item_eq_property_display.2 entries).2 pairs h⟩

end Value

end Stencil
