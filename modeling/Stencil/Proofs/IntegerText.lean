import Stencil.Evaluation
import Stencil.Proofs.Number.Integral

/-!
# Integers from texts

An integer that is written out as a text is converted back by a filter and by an operator. Both read
the text in double precision, so they give the nearest number of 53 bits, while a text given for an
argument that is an integer is read exactly. Main statement: `convertedExactly_iff`.
-/

namespace Stencil

open Number

/-! ### The nearest number -/

namespace Number

section

variable {n : Int64}

private theorem natAbs_nearest_le (n : Int64) : (nearest n.toInt).natAbs ≤ 2 ^ 63 := by
  have hlower := nearest_mono (n.le_toInt)
  have hupper := nearest_mono (n.toInt_lt.le)
  have hmin : nearest (-2 ^ 63) = -2 ^ 63 := by decide
  have hmax : nearest (2 ^ 63) = 2 ^ 63 := by decide
  omega

private theorem ofInt_nearest_eq_iff (h : nearest n.toInt < 2 ^ 63) :
    Int64.ofInt (nearest n.toInt) = n ↔ nearest n.toInt = n.toInt := by
  have hrange := natAbs_nearest_le n
  have hback : (Int64.ofInt (nearest n.toInt)).toInt = nearest n.toInt := by
    apply Int64.toInt_ofInt_of_le <;> omega
  rw [← Int64.toInt_inj, hback]

private theorem clampInt64_nearest_eq_iff :
    clampInt64 (nearest n.toInt) = n ↔ nearest n.toInt = n.toInt ∨ n = Int64.maxValue := by
  have hrange := natAbs_nearest_le n
  have hmin : Int64.minValue.toInt = -2 ^ 63 := Int64.toInt_minValue
  have hmax : Int64.maxValue.toInt = 2 ^ 63 - 1 := Int64.toInt_maxValue
  have htop : nearest Int64.maxValue.toInt = 2 ^ 63 := by decide
  rw [clampInt64, if_neg (by omega)]
  split
  · constructor
    · exact fun h ↦ .inr h.symm
    · rintro (h | h)
      · have := n.toInt_le
        omega
      · exact h.symm
  · next hfits =>
    have hlt : nearest n.toInt < 2 ^ 63 := by omega
    rw [ofInt_nearest_eq_iff hlt, iff_self_or]
    rintro rfl
    exact absurd htop (by omega)

end

end Number

/-! ### Conversions -/

namespace Value

section

variable (n : Int64) (safe : Bool)

private theorem numberOfText_integerText :
    numberOfText (integerText n).toList = floatOfInt64 n := by
  have hne : (integerText n).toList.isEmpty = false :=
    List.isEmpty_eq_false_iff.mpr (toList_integerText_ne_nil n)
  simp only [numberOfText, trim_integerText, hne, readFloat?_integerText]
  rfl

private theorem toNumber?_text :
    (Value.text (integerText n) safe).toNumber? = some (floatOfInt64 n) :=
  congrArg some (numberOfText_integerText n)

private theorem toInteger_text :
    Filter.toInteger (.text (integerText n) safe) = .int (clampInt64 (nearest n.toInt)) := by
  obtain ⟨hnormal, hvalue⟩ := unpacked_floatOfInt64 n
  simp only [Filter.toInteger, toNumber?_text]
  rw [if_pos (isFinite_of_value hnormal hvalue), truncate_of_value hnormal hvalue]

private theorem toNumeric_text :
    (Value.text (integerText n) safe).toNumeric = .ok
      (if (nearest n.toInt).natAbs < 2 ^ 63 then .int (Int64.ofInt (nearest n.toInt))
        else .float (floatOfInt64 n)) := by
  obtain ⟨hnormal, hvalue⟩ := unpacked_floatOfInt64 n
  simp only [toNumeric, toNumber?_text, ofNumber]
  rw [isIntegral_of_value hnormal hvalue, truncate_of_value hnormal hvalue]
  simp

private theorem argument_text : ArgKind.toInteger (some (.text (integerText n) safe)) = .ok n := by
  simp only [ArgKind.toInteger, trim_integerText, readInt64?_integerText]

end

/-- Whether a value is converted to the integer `n`, both by the filter for integers and by the
operator in front of its operand. -/
structure ConvertedExactly (v : Value) (n : Int64) : Prop where
  /-- The built-in filter gives the integer. -/
  filter : ∃ f, Environment.new.filter? "int" = some f ∧ ∀ view, f view [v] = .ok (.int n)
  /-- The operator gives the integer. -/
  operator : UnaryOp.number.apply v = .ok (.int n)

private theorem filter?_int :
    Environment.new.filter? "int" = some (.ofMap .value fun v ↦ .ok (Filter.toInteger v)) := rfl

private theorem convertedExactly_iff_of_eq {v : Value} {n : Int64} :
    v.ConvertedExactly n ↔ Filter.toInteger v = .int n ∧ v.toNumeric = .ok (.int n) := by
  constructor
  · rintro ⟨⟨f, hf, happly⟩, hoperator⟩
    rw [filter?_int, Option.some.injEq] at hf
    subst hf
    exact ⟨Except.ok.inj (happly ⟨.html, 0, [], 0, fun _ ↦ none⟩), hoperator⟩
  · rintro ⟨hfilter, hoperator⟩
    exact ⟨⟨_, filter?_int, fun _ ↦ congrArg Except.ok hfilter⟩, hoperator⟩

/-- The text of an integer is converted to the nearest number of 53 bits: by the filter to the
greatest integer where that number is too great, by the operator to a floating-point number where
its magnitude is. So both are exact for integers that need no more bits, except for the least one,
while an argument that is to be an integer is read exactly in any case. -/
theorem convertedExactly_iff (n : Int64) (safe : Bool) :
    let text := Value.text (integerText n) safe
    (∃ f, Environment.new.filter? "int" = some f ∧
        ∀ view, f view [text] = .ok (.int (clampInt64 (nearest n.toInt)))) ∧
      UnaryOp.number.apply text = .ok
        (if (nearest n.toInt).natAbs < 2 ^ 63 then .int (Int64.ofInt (nearest n.toInt))
          else .float (floatOfInt64 n)) ∧
      ArgKind.toInteger (some text) = .ok n ∧
      (text.ConvertedExactly n ↔ nearest n.toInt = n.toInt ∧ n ≠ Int64.minValue) ∧
      (n.toInt.natAbs ≤ 2 ^ 53 → text.ConvertedExactly n) := by
  intro text
  have hiff : text.ConvertedExactly n ↔ nearest n.toInt = n.toInt ∧ n ≠ Int64.minValue := by
    have hmin : n = Int64.minValue ↔ n.toInt = -2 ^ 63 := by
      rw [← Int64.toInt_inj, Int64.toInt_minValue]
    rw [convertedExactly_iff_of_eq, toInteger_text, toNumeric_text, Value.int.injEq,
      clampInt64_nearest_eq_iff, ne_eq, hmin]
    split
    · next hlt =>
      rw [Except.ok.injEq, Value.int.injEq, ofInt_nearest_eq_iff (by omega)]
      omega
    · next hge =>
      have := n.le_toInt
      have := n.toInt_lt
      constructor
      · rintro ⟨-, h⟩
        cases h
      · rintro ⟨h, hne⟩
        omega
  refine ⟨⟨_, filter?_int, fun _ ↦ congrArg Except.ok (toInteger_text n safe)⟩,
    toNumeric_text n safe, argument_text n safe, hiff,
    fun h ↦ hiff.mpr ⟨nearest_of_natAbs_le h, ?_⟩⟩
  rintro rfl
  revert h
  decide

/-- The integer behind `2 ^ 53` is written out as a text and converted to `2 ^ 53`. -/
theorem not_convertedExactly_succ :
    let n : Int64 := 9007199254740993
    let text := Value.plain (integerText n)
    Filter.toInteger text = .int 9007199254740992 ∧
      text.toNumeric = .ok (.int 9007199254740992) ∧ ¬ text.ConvertedExactly n := by
  intro n text
  have hrounded : nearest n.toInt = 9007199254740992 := by decide
  have hfilter : Filter.toInteger text = .int 9007199254740992 := by
    refine (toInteger_text n false).trans ?_
    rw [hrounded]
    rfl
  have hoperator : text.toNumeric = .ok (.int 9007199254740992) := by
    refine (toNumeric_text n false).trans ?_
    rw [hrounded]
    rfl
  refine ⟨hfilter, hoperator, fun h ↦ ?_⟩
  have hsame := h.operator.symm.trans hoperator
  rw [Except.ok.injEq, Value.int.injEq] at hsame
  exact absurd hsame (by decide)

end Value

end Stencil
