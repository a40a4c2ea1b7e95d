import Mathlib.Algebra.Order.Ring.Int

/-!
# Rounding to 53 bits

The nearest integer whose digits behind the first 53 binary ones are zero, an even one where two are
equally near. Rounding keeps the order, and makes no difference up to `2 ^ 53`.
-/

namespace Stencil.Number

/-! ### Rounding to a unit -/

/-- The number of units `2 ^ k` that is nearest to `n`, an even one where two are equally near. -/
def roundUnits (n k : Nat) : Nat :=
  if 2 * (n % 2 ^ k) < 2 ^ k then n / 2 ^ k
  else if 2 * (n % 2 ^ k) = 2 ^ k then n / 2 ^ k + n / 2 ^ k % 2
  else n / 2 ^ k + 1

section

variable {m n k : Nat}

/-- Rounding takes one of the two neighbours. -/
theorem roundUnits_bounds (n k : Nat) :
    n / 2 ^ k ≤ roundUnits n k ∧ roundUnits n k ≤ n / 2 ^ k + 1 := by
  unfold roundUnits
  split
  · omega
  · split <;> omega

/-- Nothing is lost in units of one. -/
@[simp] theorem roundUnits_zero (n : Nat) : roundUnits n 0 = n := by
  simp [roundUnits, Nat.mod_one]

/-- Rounding to a unit keeps the order. -/
theorem roundUnits_mono (h : m ≤ n) : roundUnits m k ≤ roundUnits n k := by
  have hupper := (roundUnits_bounds m k).2
  have hlower := (roundUnits_bounds n k).1
  rcases (Nat.div_le_div_right (c := 2 ^ k) h).lt_or_eq with hlt | heq
  · omega
  -- With the same units below, the greater number has the greater remainder.
  · have hrest : m % 2 ^ k ≤ n % 2 ^ k := by
      have hm := Nat.div_add_mod m (2 ^ k)
      have hn := Nat.div_add_mod n (2 ^ k)
      rw [heq] at hm
      omega
    by_cases hdown : 2 * (m % 2 ^ k) < 2 ^ k
    · have hm : roundUnits m k = m / 2 ^ k := if_pos hdown
      omega
    · by_cases hup : 2 ^ k < 2 * (n % 2 ^ k)
      · have hn : roundUnits n k = n / 2 ^ k + 1 := by
          rw [roundUnits, if_neg hup.not_gt, if_neg hup.ne']
        omega
      · have htie : m % 2 ^ k = n % 2 ^ k := by omega
        rw [roundUnits, roundUnits, heq, htie]

/-- A factor of the unit makes no difference. -/
theorem roundUnits_mul_two_pow (n k j : Nat) : roundUnits (n * 2 ^ j) (k + j) = roundUnits n k := by
  have hpos : 0 < 2 ^ j := Nat.two_pow_pos j
  have hlt (a b : Nat) : 2 * (a * 2 ^ j) < b * 2 ^ j ↔ 2 * a < b := by
    rw [← Nat.mul_assoc]
    exact Nat.mul_lt_mul_right hpos
  have heq (a b : Nat) : 2 * (a * 2 ^ j) = b * 2 ^ j ↔ 2 * a = b := by
    rw [← Nat.mul_assoc]
    exact Nat.mul_left_inj hpos.ne'
  simp only [roundUnits, Nat.pow_add, Nat.mul_mod_mul_right, Nat.mul_div_mul_right _ _ hpos, hlt,
    heq]

/-- A number of at least 53 bits rounds to at least 53 bits. -/
theorem two_pow_le_roundUnits (h : 2 ^ (52 + k) ≤ n) : 2 ^ 52 ≤ roundUnits n k := by
  refine le_trans ?_ (roundUnits_bounds n k).1
  rw [Nat.le_div_iff_mul_le (Nat.two_pow_pos k), ← Nat.pow_add]
  exact h

/-- A number of at most 53 bits rounds to at most the next power of two. -/
theorem roundUnits_le (h : n < 2 ^ (53 + k)) : roundUnits n k ≤ 2 ^ 53 := by
  refine le_trans (roundUnits_bounds n k).2 ?_
  rw [Nat.pow_add] at h
  exact Nat.div_lt_of_lt_mul (Nat.mul_comm _ _ ▸ h)

/-- Rounding changes a number by at most half a unit. -/
theorem roundUnits_near (n k : Nat) :
    2 * (roundUnits n k * 2 ^ k) ≤ 2 * n + 2 ^ k ∧
      2 * n ≤ 2 * (roundUnits n k * 2 ^ k) + 2 ^ k := by
  have hn := Nat.div_add_mod n (2 ^ k)
  have hr := Nat.mod_lt n (Nat.two_pow_pos k)
  have hsucc : (n / 2 ^ k + 1) * 2 ^ k = n / 2 ^ k * 2 ^ k + 2 ^ k := Nat.succ_mul _ _
  rw [Nat.mul_comm (2 ^ k)] at hn
  unfold roundUnits
  split
  · omega
  · split
    · rcases Nat.mod_two_eq_zero_or_one (n / 2 ^ k) with hq | hq
      · rw [hq, Nat.add_zero]
        omega
      · rw [hq]
        omega
    · omega

end

/-! ### Rounding to 53 bits -/

/-- The natural number with at most 53 significant bits that is nearest to `n`. -/
def nearestNat (n : Nat) : Nat := roundUnits n (n.log2 - 52) * 2 ^ (n.log2 - 52)

section

variable {m n : Nat}

/-- Up to `2 ^ 53` nothing is rounded. -/
theorem nearestNat_of_le (h : n ≤ 2 ^ 53) : nearestNat n = n := by
  rcases h.lt_or_eq with hlt | rfl
  · have hlog : n.log2 - 52 = 0 := by
      rcases Nat.eq_zero_or_pos n with rfl | hpos
      · simp
      · have := (Nat.log2_lt hpos.ne').mpr hlt
        omega
    rw [nearestNat, hlog, roundUnits_zero, Nat.pow_zero, Nat.mul_one]
  · decide

/-- Rounding stays between the neighbouring powers of two. -/
theorem nearestNat_bounds (h : n ≠ 0) :
    2 ^ n.log2 ≤ nearestNat n ∧ nearestNat n ≤ 2 ^ (n.log2 + 1) := by
  have hlower := Nat.log2_self_le h
  have hupper := Nat.lt_log2_self (n := n)
  by_cases hlog : n.log2 < 52
  · have hpow : 2 ^ (n.log2 + 1) ≤ 2 ^ 53 := Nat.pow_le_pow_right (by decide) (by omega)
    rw [nearestNat_of_le (by omega)]
    omega
  · obtain ⟨k, hk⟩ : ∃ k, n.log2 = 52 + k := ⟨n.log2 - 52, by omega⟩
    have hunit : n.log2 - 52 = k := by omega
    rw [nearestNat, hunit, hk, Nat.pow_add, show 52 + k + 1 = 53 + k by omega, Nat.pow_add]
    rw [hk] at hlower hupper
    constructor
    · exact Nat.mul_le_mul_right _ (two_pow_le_roundUnits hlower)
    · exact Nat.mul_le_mul_right _ (roundUnits_le (by rwa [show 53 + k = 52 + k + 1 by omega]))

/-- Rounding keeps the order. -/
theorem nearestNat_mono (h : m ≤ n) : nearestNat m ≤ nearestNat n := by
  rcases Nat.eq_zero_or_pos m with rfl | hm
  · rw [nearestNat_of_le (Nat.zero_le _)]
    exact Nat.zero_le _
  · have hlog : m.log2 ≤ n.log2 :=
      (Nat.le_log2 (by omega)).mpr (le_trans (Nat.log2_self_le hm.ne') h)
    rcases hlog.lt_or_eq with hlt | heq
    · calc
        nearestNat m ≤ 2 ^ (m.log2 + 1) := (nearestNat_bounds hm.ne').2
        _ ≤ 2 ^ n.log2 := Nat.pow_le_pow_right (by decide) hlt
        _ ≤ nearestNat n := (nearestNat_bounds (by omega)).1
    · rw [nearestNat, nearestNat, heq]
      exact Nat.mul_le_mul_right _ (roundUnits_mono h)

/-- A number of at most 63 bits is rounded by at most 512. -/
theorem nearestNat_near (h : n ≤ 2 ^ 63) : nearestNat n ≤ n + 512 ∧ n ≤ nearestNat n + 512 := by
  rcases h.lt_or_eq with hlt | rfl
  · have hunit : 2 ^ (n.log2 - 52) ≤ 2 ^ 10 := by
      apply Nat.pow_le_pow_right (by decide)
      rcases Nat.eq_zero_or_pos n with rfl | hpos
      · simp
      · have := (Nat.log2_lt hpos.ne').mpr hlt
        omega
    have hnear := roundUnits_near n (n.log2 - 52)
    unfold nearestNat
    omega
  · decide

end

/-- The integer with at most 53 significant bits that is nearest to `n`. -/
def nearest : Int → Int
  | .ofNat m => nearestNat m
  | .negSucc m => -nearestNat (m + 1)

section

variable {a b : Int}

/-- Up to `2 ^ 53` on either side nothing is rounded. -/
theorem nearest_of_natAbs_le (h : a.natAbs ≤ 2 ^ 53) : nearest a = a := by
  cases a with
  | ofNat m => exact congrArg Int.ofNat (nearestNat_of_le h)
  | negSucc m =>
    rw [Int.natAbs_negSucc] at h
    rw [nearest, nearestNat_of_le h]
    rfl

/-- Rounding keeps the order of integers. -/
theorem nearest_mono (h : a ≤ b) : nearest a ≤ nearest b := by
  cases a with
  | ofNat m =>
    cases b with
    | ofNat n => exact Int.ofNat_le.mpr (nearestNat_mono (Int.ofNat_le.mp h))
    | negSucc n => exact absurd (Int.negSucc_lt_zero n) (not_lt.mpr (le_trans (by simp) h))
  | negSucc m =>
    cases b with
    | ofNat n =>
      simp only [nearest]
      omega
    | negSucc n =>
      have hle : nearestNat (n + 1) ≤ nearestNat (m + 1) := nearestNat_mono (by omega)
      simp only [nearest]
      omega

/-- An integer of at most 63 bits is rounded by at most 512. -/
theorem nearest_near (h : a.natAbs ≤ 2 ^ 63) : nearest a ≤ a + 512 ∧ a ≤ nearest a + 512 := by
  cases a with
  | ofNat m =>
    have hnear := nearestNat_near (n := m) h
    rw [nearest, Int.ofNat_eq_natCast]
    omega
  | negSucc m =>
    have hnear := nearestNat_near (n := m + 1) h
    rw [nearest, Int.negSucc_eq]
    omega

end

end Stencil.Number
