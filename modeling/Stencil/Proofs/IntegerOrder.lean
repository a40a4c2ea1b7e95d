import Stencil.Evaluation
import Stencil.Proofs.Number.Double

/-!
# The order of integers

Integers are equal or not exactly, and one of the two orders is exact. The order relations of the
expression language compare integers in double precision, so they cannot tell integers apart that
are rounded to the same number.
-/

namespace Stencil

open Number

namespace Value

private theorem float_lt_iff {x y : Float} :
    x < y ↔ (unpacked x).compare (unpacked y) = some .lt := by
  change decide (x.toModel < y.toModel) = true ↔ _
  rw [decide_eq_true_iff]
  change ((unpacked x).compare (unpacked y) == some .lt) = true ↔ _
  exact beq_iff_eq

private theorem float_beq_iff {x y : Float} :
    (x == y) = true ↔ (unpacked x).compare (unpacked y) = some .eq := by
  change ((unpacked x).compare (unpacked y) == some .eq) = true ↔ _
  exact beq_iff_eq

/-- Floating-point numbers in normal form are ordered by their values. -/
theorem compareFloats?_of_isNormal {x y : Float} (hx : IsNormal (unpacked x))
    (hy : IsNormal (unpacked y)) :
    compareFloats? x y = some (compare (value (unpacked x)) (value (unpacked y))) := by
  have hxy := compare_of_isNormal hx hy
  have hyx := compare_of_isNormal hy hx
  rw [compareFloats?]
  rcases lt_trichotomy (value (unpacked x)) (value (unpacked y)) with h | h | h
  · rw [compare_lt_iff_lt.mpr h] at hxy ⊢
    rw [if_pos (float_lt_iff.mpr hxy)]
  · rw [compare_eq_iff_eq.mpr h] at hxy ⊢
    rw [if_neg (by simp [float_lt_iff, hxy]), if_pos (float_beq_iff.mpr hxy)]
  · rw [compare_gt_iff_gt.mpr h] at hxy ⊢
    rw [compare_lt_iff_lt.mpr h] at hyx
    rw [if_neg (by simp [float_lt_iff, hxy]), if_neg (by simp [float_beq_iff, hxy]),
      if_pos (float_lt_iff.mpr hyx)]

section

variable (a b : Int64)

private theorem compare_toInt : compare a b = compare a.toInt b.toInt := by
  simp only [compare, compareOfLessAndEq, Int64.lt_iff_toInt_lt, ← Int64.toInt_inj]

/-- The order of integers is exact. -/
theorem compare?_int : compare? (.int a) (.int b) = some (compare a.toInt b.toInt) :=
  congrArg some (compare_toInt a b)

/-- The order that converts is the one of the nearest numbers of 53 bits. -/
theorem relate?_int :
    relate? (.int a) (.int b) = some (compare (nearest a.toInt) (nearest b.toInt)) := by
  obtain ⟨ha, hvalue⟩ := unpacked_floatOfInt64 a
  obtain ⟨hb, hvalue'⟩ := unpacked_floatOfInt64 b
  change compareFloats? (floatOfInt64 a) (floatOfInt64 b) = _
  rw [compareFloats?_of_isNormal ha hb, hvalue, hvalue', ← cmp_eq_compare, ← cmp_eq_compare]
  exact congrArg some (Int.cast_strictMono.cmp_map_eq _ _)

end

end Value

/-! ### Comparing integers in expressions -/

namespace Number

private theorem compare_nearest_iff {a b : Int} :
    compare (nearest a) (nearest b) = compare a b ↔ a = b ∨ nearest a ≠ nearest b := by
  rcases lt_trichotomy a b with h | rfl | h
  · rw [compare_lt_iff_lt.mpr h, compare_lt_iff_lt, (nearest_mono h.le).lt_iff_ne]
    simp [h.ne]
  · simp
  · rw [compare_gt_iff_gt.mpr h, compare_gt_iff_gt, (nearest_mono h.le).lt_iff_ne]
    simp [h.ne', ne_comm]

-- Numbers of up to 53 bits are rounded apart, and so are numbers of up to 63 bits that are more
-- than 1024 apart.
private theorem eq_or_nearest_ne {a b : Int} (ha : a.natAbs ≤ 2 ^ 63) (hb : b.natAbs ≤ 2 ^ 63)
    (h : a.natAbs ≤ 2 ^ 53 ∧ b.natAbs ≤ 2 ^ 53 ∨ 1024 < (a - b).natAbs) :
    a = b ∨ nearest a ≠ nearest b := by
  rcases h with ⟨ha, hb⟩ | hfar
  · rw [nearest_of_natAbs_le ha, nearest_of_natAbs_le hb]
    exact em _
  · have hnear := nearest_near ha
    have hnear' := nearest_near hb
    omega

end Number

/-- The comparison of two integers. -/
def Expr.comparison (op : BinaryOp) (a b : Int64) : Expr :=
  .binary op (.const (.int a)) (.const (.int b))

/-- Whether the expression language orders two integers as the integers are ordered. -/
structure Value.OrderedExactly (a b : Int64) : Prop where
  /-- One integer is said to be less exactly if it is. -/
  less : ∀ s, (Expr.comparison .lt a b).eval s = pure (.bool (decide (a.toInt < b.toInt)))
  /-- The integers are said to be equal exactly if they are. -/
  equal : ∀ s, (Expr.comparison .eq a b).eval s = pure (.bool (decide (a.toInt = b.toInt)))
  /-- One integer is said to be greater exactly if it is. -/
  greater : ∀ s, (Expr.comparison .gt a b).eval s = pure (.bool (decide (b.toInt < a.toInt)))
  /-- The order that converts is the one that does not. -/
  agree : relate? (.int a) (.int b) = compare? (.int a) (.int b)

namespace Value

section

variable (a b : Int64)

private theorem eval_eq (s : Setting) :
    (Expr.comparison .eq a b).eval s = pure (.bool (decide (a.toInt = b.toInt))) := by
  have hequal : (a == b) = decide (a.toInt = b.toInt) := by
    rw [Bool.eq_iff_iff, beq_iff_eq, decide_eq_true_iff, Int64.toInt_inj]
  rw [← hequal, ← int_beq_int]
  rfl

private theorem eval_lt (s : Setting) :
    (Expr.comparison .lt a b).eval s = pure (.bool (relate? (.int a) (.int b) == some .lt)) := rfl

private theorem eval_gt (s : Setting) :
    (Expr.comparison .gt a b).eval s = pure (.bool (relate? (.int a) (.int b) == some .gt)) := rfl

private theorem orderedExactly_of_compare
    (h : compare (nearest a.toInt) (nearest b.toInt) = compare a.toInt b.toInt) :
    OrderedExactly a b := by
  have hrelate : relate? (.int a) (.int b) = some (compare a.toInt b.toInt) := by
    rw [relate?_int, h]
  refine ⟨fun s ↦ ?_, eval_eq a b, fun s ↦ ?_, hrelate.trans (compare?_int a b).symm⟩
  · have hless : (some (compare a.toInt b.toInt) == some .lt) = decide (a.toInt < b.toInt) := by
      rw [Bool.eq_iff_iff, beq_iff_eq, decide_eq_true_iff, Option.some.injEq, compare_lt_iff_lt]
    rw [eval_lt, hrelate, hless]
  · have hgreater : (some (compare a.toInt b.toInt) == some .gt) = decide (b.toInt < a.toInt) := by
      rw [Bool.eq_iff_iff, beq_iff_eq, decide_eq_true_iff, Option.some.injEq, compare_gt_iff_gt]
    rw [eval_gt, hrelate, hgreater]

/-- Integers are equal or not exactly, and the order that does not convert is exact. The order that
converts is the one of the nearest numbers of 53 bits, so it is exact unless it is asked about two
integers that are rounded to the same number: for integers of up to 53 bits, and for integers that
are more than 1024 apart. -/
theorem orderedExactly_iff :
    compare? (.int a) (.int b) = some (compare a.toInt b.toInt) ∧
      relate? (.int a) (.int b) = some (compare (nearest a.toInt) (nearest b.toInt)) ∧
      (∀ s, (Expr.comparison .eq a b).eval s = pure (.bool (decide (a.toInt = b.toInt)))) ∧
      (OrderedExactly a b ↔ a = b ∨ nearest a.toInt ≠ nearest b.toInt) ∧
      (a.toInt.natAbs ≤ 2 ^ 53 ∧ b.toInt.natAbs ≤ 2 ^ 53 ∨ 1024 < (a.toInt - b.toInt).natAbs →
        OrderedExactly a b) := by
  have hiff : OrderedExactly a b ↔ a.toInt = b.toInt ∨ nearest a.toInt ≠ nearest b.toInt := by
    rw [← compare_nearest_iff]
    refine ⟨fun h ↦ ?_, orderedExactly_of_compare a b⟩
    exact Option.some.inj ((relate?_int a b).symm.trans (h.agree.trans (compare?_int a b)))
  refine ⟨compare?_int a b, relate?_int a b, eval_eq a b, ?_, fun h ↦ hiff.mpr ?_⟩
  · rw [hiff, Int64.toInt_inj]
  · exact eq_or_nearest_ne (natAbs_toInt_le a) (natAbs_toInt_le b) h

end

/-- The integer behind `2 ^ 53` is rounded to it, so neither is said to be less than the other one,
and they are not said to be equal either. -/
theorem not_orderedExactly_succ :
    let a : Int64 := 9007199254740992
    let b : Int64 := 9007199254740993
    a.toInt < b.toInt ∧ compare? (.int a) (.int b) = some .lt ∧
      relate? (.int a) (.int b) = some .eq ∧
      (∀ s, (Expr.comparison .lt a b).eval s = pure (.bool false)) ∧
      (∀ s, (Expr.comparison .eq a b).eval s = pure (.bool false)) ∧
      (∀ s, (Expr.comparison .gt a b).eval s = pure (.bool false)) := by
  intro a b
  have hrelate : relate? (.int a) (.int b) = some .eq := by
    rw [relate?_int]
    decide
  refine ⟨by decide, by decide, hrelate, fun s ↦ ?_, eval_eq a b, fun s ↦ ?_⟩
  · rw [eval_lt, hrelate]
    rfl
  · rw [eval_gt, hrelate]
    rfl

end Value

end Stencil
