import Mathlib.Tactic.Linarith
import Mathlib.Tactic.Ring
import Stencil.Number.Binary
import Stencil.Proofs.Number.Nearest

/-!
# Integers in double precision

A normal number of double precision has 53 significant bits and an exponent. Numbers in this form
are packed without loss, and compared by their values. An integer is converted to the nearest number
with 53 significant bits.
-/

namespace Stencil.Number

open Float.Model Float.Model.UnpackedFloat

/-! ### Normal numbers -/

/-- The rational number that a finite floating-point number stands for. -/
def value : UnpackedFloat → ℚ
  | .finite s m e _ => s.apply m * 2 ^ e
  | _ => 0

/-- Whether a number is zero, or has a mantissa of 53 bits and an exponent in the range of double
precision. -/
def IsNormal : UnpackedFloat → Prop
  | .zero _ => True
  | .finite _ m e _ => (2 ^ 52 ≤ m ∧ m < 2 ^ 53) ∧ -1074 ≤ e ∧ e ≤ 971
  | _ => False

/-! ### Comparing -/

private theorem two_zpow_pos (e : Int) : (0 : ℚ) < 2 ^ e := zpow_pos (by norm_num) e

private theorem magnitude_lt {m m' : Nat} {e e' : Int} (hm : m < 2 ^ 53) (hm' : 2 ^ 52 ≤ m')
    (h : e < e') : (m : ℚ) * 2 ^ e < m' * 2 ^ e' := by
  have hpow : (2 : ℚ) ^ (e + 1) ≤ 2 ^ e' := zpow_le_zpow_right₀ (by norm_num) h
  have hm : (m : ℚ) < 2 ^ 53 := by exact_mod_cast hm
  have hm' : (2 ^ 52 : ℚ) ≤ m' := by exact_mod_cast hm'
  calc
    (m : ℚ) * 2 ^ e < 2 ^ 53 * 2 ^ e := mul_lt_mul_of_pos_right hm (two_zpow_pos e)
    _ = 2 ^ 52 * 2 ^ (e + 1) := by
      rw [zpow_add_one₀ (by norm_num)]
      ring
    _ ≤ m' * 2 ^ e' := mul_le_mul hm' hpow (two_zpow_pos _).le (Nat.cast_nonneg _)

private theorem compare_magnitudes {m m' : Nat} {e e' : Int} (hm : 2 ^ 52 ≤ m ∧ m < 2 ^ 53)
    (hm' : 2 ^ 52 ≤ m' ∧ m' < 2 ^ 53) :
    (compare e e').then (compare m m') = compare ((m : ℚ) * 2 ^ e) (m' * 2 ^ e') := by
  rcases lt_trichotomy e e' with h | rfl | h
  · rw [compare_lt_iff_lt.mpr h, compare_lt_iff_lt.mpr (magnitude_lt hm.2 hm'.1 h)]
    rfl
  · have hmono : StrictMono fun n : Nat ↦ (n : ℚ) * 2 ^ e :=
      Nat.strictMono_cast.mul_const (two_zpow_pos e)
    rw [compare_eq_iff_eq.mpr rfl, ← cmp_eq_compare, ← cmp_eq_compare]
    exact (hmono.cmp_map_eq m m').symm
  · rw [compare_gt_iff_gt.mpr h, compare_gt_iff_gt.mpr (magnitude_lt hm'.2 hm.1 h)]
    rfl

private theorem compare_neg_neg (x y : ℚ) : compare (-x) (-y) = (compare x y).swap := by
  have hanti : StrictAnti fun x : ℚ ↦ -x := fun _ _ ↦ neg_lt_neg
  rw [← cmp_eq_compare, ← cmp_eq_compare, cmp_swap]
  exact hanti.cmp_map_eq x y

private theorem magnitude_pos {m : Nat} (hm : 0 < m) (e : Int) : (0 : ℚ) < m * 2 ^ e :=
  mul_pos (by exact_mod_cast hm) (two_zpow_pos e)

/-- The value of a positive number. -/
theorem value_positive {m : Nat} {e : Int} {hm : 0 < m} :
    value (.finite .positive m e hm) = m * 2 ^ e := rfl

/-- The value of a negative number. -/
theorem value_negative {m : Nat} {e : Int} {hm : 0 < m} :
    value (.finite .negative m e hm) = -(m * 2 ^ e) := by
  change ((-(m : Int) : Int) : ℚ) * 2 ^ e = _
  push_cast
  exact neg_mul _ _

private theorem compare_zero_finite (s t : Sign) {m : Nat} {e : Int} (hm : 0 < m) :
    (UnpackedFloat.zero s).compare (.finite t m e hm) =
      some (compare 0 (value (.finite t m e hm))) := by
  have hpos := magnitude_pos hm e
  cases t with
  | positive =>
    rw [value_positive, compare_lt_iff_lt.mpr hpos]
    rfl
  | negative =>
    rw [value_negative, compare_gt_iff_gt.mpr (neg_neg_of_pos hpos)]
    rfl

private theorem compare_finite_zero (s t : Sign) {m : Nat} {e : Int} (hm : 0 < m) :
    (UnpackedFloat.finite s m e hm).compare (.zero t) =
      some (compare (value (.finite s m e hm)) 0) := by
  have hpos := magnitude_pos hm e
  cases s with
  | positive =>
    rw [value_positive, compare_gt_iff_gt.mpr hpos]
    rfl
  | negative =>
    rw [value_negative, compare_lt_iff_lt.mpr (neg_neg_of_pos hpos)]
    rfl

/-- Normal numbers are compared by their values. -/
theorem compare_of_isNormal {x y : UnpackedFloat} (hx : IsNormal x) (hy : IsNormal y) :
    x.compare y = some (compare (value x) (value y)) := by
  cases x with
  | infinity s => cases hx
  | notANumber => cases hx
  | zero s =>
    cases y with
    | infinity t => cases hy
    | notANumber => cases hy
    | zero t =>
      change some Ordering.eq = some (compare (0 : ℚ) 0)
      rw [compare_eq_iff_eq.mpr rfl]
    | finite t m' e' hm' => exact compare_zero_finite s t hm'
  | finite s m e hm =>
    cases y with
    | infinity t => cases hy
    | notANumber => cases hy
    | zero t => exact compare_finite_zero s t hm
    | finite t m' e' hm' =>
      have hpos := magnitude_pos hm e
      have hpos' := magnitude_pos hm' e'
      cases s with
      | positive =>
        cases t with
        | positive =>
          rw [value_positive, value_positive, ← compare_magnitudes hx.1 hy.1]
          rfl
        | negative =>
          rw [value_positive, value_negative, compare_gt_iff_gt.mpr (by linarith)]
          rfl
      | negative =>
        cases t with
        | positive =>
          rw [value_negative, value_positive, compare_lt_iff_lt.mpr (by linarith)]
          rfl
        | negative =>
          rw [value_negative, value_negative, compare_neg_neg, ← compare_magnitudes hx.1 hy.1]
          rfl

/-! ### Packing -/

private theorem sign_packComponents (s : Sign) (e : BitVec 11) (m : BitVec 52) :
    Sign.ofBitVec (unpackSign (packComponents Format.binary64 s e m)) = s := by
  have hsign : unpackSign (packComponents Format.binary64 s e m) = s.toBitVec := by
    ext i hi
    obtain rfl : i = 0 := Nat.lt_one_iff.mp hi
    delta unpackSign packComponents
    rw [BitVec.getElem_cast, BitVec.extractLsb, BitVec.getElem_extractLsb']
    change (s.toBitVec ++ e ++ m : BitVec (1 + 11 + 52)).getLsbD 63 = _
    rw [BitVec.getLsbD_append, BitVec.getLsbD_append]
    rfl
  rw [hsign]
  cases s <;> rfl

private theorem finite_congr {s t : Sign} {m n : Nat} {e f : Int} {hm : 0 < m} {hn : 0 < n}
    (hs : s = t) (hmn : m = n) (he : e = f) :
    UnpackedFloat.finite s m e hm = .finite t n f hn := by
  subst hs hmn he
  rfl

private theorem unpack_packComponents (s : Sign) {b m : Nat} (hb : 0 < b ∧ b < 2047)
    (hm : 2 ^ 52 ≤ m ∧ m < 2 ^ 53) (hpos : 0 < m) :
    UnpackedFloat.unpack Format.binary64
        (packComponents Format.binary64 s (BitVec.ofNat 11 b) (BitVec.ofNat 52 m)) =
      .finite s m (b - 1075) hpos := by
  have hexponent : (BitVec.ofNat 11 b).toNat = b := by
    rw [BitVec.toNat_ofNat]
    omega
  have hzero : BitVec.ofNat 11 b ≠ 0#11 := by
    intro h
    rw [h] at hexponent
    simp at hexponent
    omega
  have hones : BitVec.ofNat 11 b ≠ -1#11 := by
    intro h
    rw [h] at hexponent
    simp at hexponent
    omega
  have hmantissa : (1#1 ++ BitVec.ofNat 52 m).toNat = m := by
    rw [BitVec.toNat_append, ← Nat.shiftLeft_add_eq_or_of_lt (BitVec.isLt _)]
    simp [Nat.shiftLeft_eq]
    omega
  have hunpacked := @unpackExponent_packComponents Format.binary64 s (.ofNat 11 b) (.ofNat 52 m)
  rw [← hunpacked] at hones hzero hexponent
  rw [← @unpackMantissa_packComponents Format.binary64 s (.ofNat 11 b) (.ofNat 52 m)] at hmantissa
  delta UnpackedFloat.unpack
  refine (if_neg hones).trans ((if_neg hzero).trans (finite_congr ?_ hmantissa ?_))
  · exact sign_packComponents s _ _
  · exact congrArg (fun n : Nat ↦ (n : Int) - 1075) hexponent

/-- Normal numbers are packed without loss. -/
theorem unpack_pack {x : UnpackedFloat} (hx : IsNormal x) :
    (Float.Model.pack x).unpack = x := by
  change UnpackedFloat.unpack Format.binary64 (UnpackedFloat.pack Format.binary64 x) = x
  cases x with
  | infinity s => cases hx
  | notANumber => cases hx
  | zero s => cases s <;> rfl
  | finite s m e hpos =>
    obtain ⟨hm, he⟩ := hx
    obtain ⟨b, rfl⟩ : ∃ b : Nat, e = b - 1075 := ⟨(e + 1075).toNat, by omega⟩
    have hlog : m.log2 = 52 := (Nat.log2_eq_iff (by omega)).mpr hm
    have hb : ((b - 1075 : Int) + Format.binary64.exponentBias +
        Format.binary64.mantissaBitsWithoutImplicit).toNat = b := by
      change ((b - 1075 : Int) + 1023 + 52).toNat = b
      omega
    have hfits : ¬2 ^ Format.binary64.exponentBits ≤ b + 1 := by
      change ¬2 ^ 11 ≤ b + 1
      omega
    have hbits : 52 + 1 = Format.binary64.mantissaBits := rfl
    delta UnpackedFloat.pack
    dsimp only
    rw [hb, hlog, if_neg hfits, if_pos hbits]
    exact unpack_packComponents s (by omega) hm hpos

/-! ### Rounding -/

private theorem le_or_mod_ne_zero_iff {d r : Nat} (hd : 0 < d) : d ≤ r ∨ r % d ≠ 0 ↔ r ≠ 0 := by
  constructor
  · rintro (h | h) rfl
    · omega
    · exact h (Nat.zero_mod d)
  · intro h
    rcases Nat.lt_or_ge r d with hlt | hge
    · exact .inr (by rwa [Nat.mod_eq_of_lt hlt])
    · exact .inl hge

-- What is shifted out is kept in two bits: whether it is at least half a unit, and whether it is
-- anything else than that or nothing.
private theorem shiftRight_exact (m k : Nat) :
    ExtendedMantissa.mk m false false >>> k =
      ⟨m / 2 ^ k, decide (2 ^ k ≤ 2 * (m % 2 ^ k)), decide (2 * (m % 2 ^ k) % 2 ^ k ≠ 0)⟩ := by
  change k.repeat ExtendedMantissa.shiftRightOne ⟨m, false, false⟩ = _
  induction k with
  | zero => simp [Nat.repeat, Nat.mod_one]
  | succ k ih =>
    have hpos := Nat.two_pow_pos k
    have hr := Nat.mod_lt m hpos
    have hdiv : m / 2 ^ (k + 1) = m / 2 ^ k / 2 := by
      rw [Nat.div_div_eq_div_mul, Nat.pow_succ]
    have hmod : m % 2 ^ (k + 1) = m % 2 ^ k + 2 ^ k * (m / 2 ^ k % 2) := Nat.mod_pow_succ
    have hrest : 2 * (m % 2 ^ (k + 1)) % 2 ^ (k + 1) = 2 * (m % 2 ^ k) := by
      rw [Nat.pow_succ', Nat.mul_mod_mul_left, Nat.mod_mul_left_mod]
    have hround : (m / 2 ^ k % 2 != 0) =
        decide (2 ^ (k + 1) ≤ 2 * (m % 2 ^ k + 2 ^ k * (m / 2 ^ k % 2))) := by
      rw [Nat.pow_succ']
      rcases Nat.mod_two_eq_zero_or_one (m / 2 ^ k) with hq | hq
      · simp [hq, hr]
      · simp [hq]
    have hsticky : (decide (2 ^ k ≤ 2 * (m % 2 ^ k)) || decide (2 * (m % 2 ^ k) % 2 ^ k ≠ 0)) =
        decide (2 * (m % 2 ^ k) ≠ 0) := by
      rw [← Bool.decide_or]
      exact decide_eq_decide.mpr (le_or_mod_ne_zero_iff hpos)
    rw [Nat.repeat, ih, ExtendedMantissa.shiftRightOne, hdiv, hrest, hmod]
    simp only [hround, hsticky]

private theorem roundedMantissa_mk (q : Nat) (half rest : Bool) :
    (ExtendedMantissa.mk q half rest).roundedMantissa =
      if half then if rest then q + 1 else q + q % 2 else q := by
  cases half <;> cases rest <;> rfl

private theorem roundedMantissa_shiftRight (m k : Nat) :
    (ExtendedMantissa.mk m false false >>> k).roundedMantissa = roundUnits m k := by
  have hr := Nat.mod_lt m (Nat.two_pow_pos k)
  rw [shiftRight_exact, roundedMantissa_mk, roundUnits]
  simp only [decide_eq_true_eq]
  by_cases hhalf : 2 ^ k ≤ 2 * (m % 2 ^ k)
  · have hrest : 2 * (m % 2 ^ k) % 2 ^ k = 2 * (m % 2 ^ k) - 2 ^ k := by
      rw [Nat.mod_eq_sub_mod hhalf, Nat.mod_eq_of_lt (by omega)]
    rw [if_pos hhalf, hrest, if_neg (not_lt.mpr hhalf)]
    by_cases htie : 2 * (m % 2 ^ k) = 2 ^ k
    · rw [if_pos htie, if_neg (by omega)]
    · rw [if_neg htie, if_pos (by omega)]
  · rw [if_neg hhalf, if_pos (not_le.mp hhalf)]

private theorem shiftToTargetExponent_eq {m k : Nat} {e : Int} (hm : m.log2 = 52 + k)
    (he : -1074 ≤ e) :
    shiftToTargetExponent Format.binary64 m e .exact =
      (ExtendedMantissa.mk m false false >>> k, e + k) := by
  have htarget : Format.binary64.targetExponent (totalExponent m e) = e + k := by
    change max ((m.log2 : Int) + 1 + e - 53) (-1074) = e + k
    omega
  rw [shiftToTargetExponent, htarget, shiftToExponent, add_sub_cancel_left, Int.toNat_natCast]
  rfl

/-- A mantissa of at least 53 bits is rounded to one of 53 bits. A carry shows in the exponent. -/
theorem exists_roundWithAccuracy (s : Sign) {m k : Nat} {e : Int} (hm : m.log2 = 52 + k)
    (he : -1074 ≤ e) :
    ∃ m' e' hpos, roundWithAccuracy Format.binary64 s m e .exact = .finite s m' e' hpos ∧
      (2 ^ 52 ≤ m' ∧ m' < 2 ^ 53) ∧ (e + k ≤ e' ∧ e' ≤ e + k + 1) ∧
      (m' : ℚ) * 2 ^ e' = roundUnits m k * 2 ^ (e + k) := by
  have hne : m ≠ 0 := by
    rintro rfl
    simp at hm
    omega
  have hlower : 2 ^ 52 ≤ roundUnits m k := two_pow_le_roundUnits (hm ▸ Nat.log2_self_le hne)
  have hupper : roundUnits m k ≤ 2 ^ 53 := by
    apply roundUnits_le
    rw [show 53 + k = m.log2 + 1 by omega]
    exact Nat.lt_log2_self
  unfold roundWithAccuracy
  rw [shiftToTargetExponent_eq hm he]
  dsimp only
  rw [roundedMantissa_shiftRight]
  rcases hupper.lt_or_eq with hlt | heq
  · have hlog : (roundUnits m k).log2 = 52 + 0 := (Nat.log2_eq_iff (by omega)).mpr ⟨hlower, hlt⟩
    have hmantissa : (ExtendedMantissa.mk (roundUnits m k) false false >>> 0).mantissa =
        roundUnits m k := rfl
    rw [shiftToTargetExponent_eq hlog (by omega)]
    rw [dif_neg (by rw [hmantissa]; omega)]
    exact ⟨roundUnits m k, e + k + 0, by omega, rfl, ⟨hlower, hlt⟩, by omega, by simp⟩
  · have hlog : (2 ^ 53).log2 = 52 + 1 := Nat.log2_two_pow
    have hmantissa : (ExtendedMantissa.mk (2 ^ 53) false false >>> 1).mantissa = 2 ^ 52 := by decide
    rw [heq, shiftToTargetExponent_eq hlog (by omega)]
    rw [dif_neg (by rw [hmantissa]; decide)]
    refine ⟨2 ^ 52, e + k + 1, by decide, rfl, by decide, by omega, ?_⟩
    push_cast
    rw [zpow_add_one₀ (by norm_num)]
    ring

/-! ### Integers -/

/-- The unpacked form of a floating-point number. -/
def unpacked (x : Float) : UnpackedFloat := x.toModel.unpack

private theorem unpacked_pack {x : UnpackedFloat} (hx : IsNormal x) :
    unpacked (.ofModel (.pack x)) = x := unpack_pack hx

private theorem log2_mul_two_pow {m : Nat} (hm : m ≠ 0) (j : Nat) :
    (m * 2 ^ j).log2 = m.log2 + j := by
  rw [Nat.log2_eq_iff (by positivity), Nat.pow_add, Nat.add_right_comm, Nat.pow_add]
  have hpos := Nat.two_pow_pos j
  exact ⟨Nat.mul_le_mul_right _ (Nat.log2_self_le hm),
    Nat.mul_lt_mul_of_pos_right Nat.lt_log2_self hpos⟩

private theorem exists_ofNat {m : Nat} (hpos : 0 < m) (hm : m < 2 ^ 53) :
    ∃ m' e' hpos, UnpackedFloat.ofNat Format.binary64 m = .finite .positive m' e' hpos ∧
      (2 ^ 52 ≤ m' ∧ m' < 2 ^ 53) ∧ (-52 ≤ e' ∧ e' ≤ 1) ∧ (m' : ℚ) * 2 ^ e' = m := by
  have hlog : m.log2 ≤ 52 := by
    have := (Nat.log2_lt hpos.ne').mpr hm
    omega
  obtain ⟨j, hj⟩ : ∃ j, m.log2 + j = 52 := ⟨52 - m.log2, by omega⟩
  have htarget : Format.binary64.targetExponent (totalExponent m 0) = -j := by
    change max ((m.log2 : Int) + 1 + 0 - 53) (-1074) = -j
    omega
  have hround : UnpackedFloat.ofNat Format.binary64 m =
      roundWithAccuracy Format.binary64 .positive (m * 2 ^ j) (-j) .exact := by
    have hgt : compare (m : Int) 0 = .gt := compare_gt_iff_gt.mpr (by omega)
    rw [UnpackedFloat.ofNat, UnpackedFloat.ofInt, UnpackedFloat.normalize, hgt]
    simp only [UnpackedFloat.round, Int.toNat_natCast, htarget, decreaseExponent, Nat.shiftLeft_eq]
    simp
  have hlog' : (m * 2 ^ j).log2 = 52 + 0 := by rw [log2_mul_two_pow hpos.ne', hj]
  obtain ⟨m', e', hpos', heq, hm', he', hvalue⟩ :=
    exists_roundWithAccuracy .positive hlog' (show -1074 ≤ -(j : Int) by omega)
  refine ⟨m', e', hpos', hround.trans heq, hm', by omega, ?_⟩
  rw [hvalue, roundUnits_zero]
  push_cast
  rw [mul_assoc, add_zero, zpow_neg, zpow_natCast, mul_inv_cancel₀ (by positivity), mul_one]

private theorem unpacked_mul {x y : Float} {z : UnpackedFloat} (hz : IsNormal z)
    (h : UnpackedFloat.mul Format.binary64 (unpacked x) (unpacked y) = z) :
    unpacked (x * y) = z := by
  change unpacked (.ofModel (.pack
    (UnpackedFloat.mul Format.binary64 (unpacked x) (unpacked y)))) = z
  rw [h, unpacked_pack hz]

-- A number of at most 53 bits is converted through a machine word, and multiplied by one.
private theorem unpacked_ofNat_of_lt {m : Nat} (hpos : 0 < m) (hm : m < 2 ^ 53) :
    IsNormal (unpacked (Float.ofNat m)) ∧ value (unpacked (Float.ofNat m)) = m := by
  obtain ⟨m₁, e₁, hpos₁, hword, hm₁, he₁, hvalue₁⟩ := exists_ofNat hpos hm
  have hlog : (m₁ * 2 ^ 52).log2 = 52 + 52 := by
    rw [log2_mul_two_pow hpos₁.ne', (Nat.log2_eq_iff hpos₁.ne').mpr hm₁]
  obtain ⟨m₂, e₂, hpos₂, hmul, hm₂, he₂, hvalue₂⟩ :=
    exists_roundWithAccuracy .positive hlog (show -1074 ≤ e₁ + -52 by omega)
  have hnormal : IsNormal (.finite .positive m₂ e₂ hpos₂) := ⟨hm₂, by omega⟩
  have htoNat : m.toUInt64.toNat = m := Nat.mod_eq_of_lt (by omega)
  have hleft : unpacked m.toUInt64.toFloat = .finite .positive m₁ e₁ hpos₁ := by
    have hnormal₁ : IsNormal (.finite .positive m₁ e₁ hpos₁) := ⟨hm₁, by omega⟩
    change unpacked (.ofModel (.pack (UnpackedFloat.ofNat Format.binary64 m.toUInt64.toNat))) = _
    rw [htoNat, hword, unpacked_pack hnormal₁]
  have hright : unpacked (Float.ofBits 0x3FF0000000000000) =
      .finite .positive (2 ^ 52) (-52) (by decide) := rfl
  have hproduct : Float.ofNat m = m.toUInt64.toFloat * Float.ofBits 0x3FF0000000000000 := by
    change Float.ofScientific m false 0 = _
    rw [Float.ofScientific, dif_pos (by omega)]
    rfl
  have hunpacked : unpacked (Float.ofNat m) = .finite .positive m₂ e₂ hpos₂ := by
    rw [hproduct]
    apply unpacked_mul hnormal
    rw [hleft, hright]
    exact hmul
  rw [hunpacked]
  refine ⟨hnormal, ?_⟩
  have hunits : roundUnits (m₁ * 2 ^ 52) 52 = m₁ := by
    rw [← Nat.zero_add 52, roundUnits_mul_two_pow, roundUnits_zero]
  have hexponent : e₁ + -52 + (52 : Nat) = e₁ := by omega
  rw [value_positive, hvalue₂, hunits, hexponent, hvalue₁]

-- A number of more than 53 bits is multiplied by a power of two and rounded.
private theorem unpacked_ofNat_of_ge {m : Nat} (hlower : 2 ^ 53 ≤ m) (hupper : m ≤ 2 ^ 63) :
    IsNormal (unpacked (Float.ofNat m)) ∧ value (unpacked (Float.ofNat m)) = nearestNat m := by
  have hne : m ≠ 0 := by omega
  obtain ⟨k, hk⟩ : ∃ k, m.log2 = 52 + k :=
    Nat.exists_eq_add_of_le ((Nat.le_log2 hne).mpr (by omega))
  have hbits : m.log2 < 64 := (Nat.log2_lt hne).mpr (by omega)
  have hlog : (m * 2 ^ 53).log2 = 52 + (k + 53) := by
    rw [log2_mul_two_pow hne]
    omega
  obtain ⟨m', e', hpos, hround, hm', he', hvalue⟩ :=
    exists_roundWithAccuracy .positive hlog (show -1074 ≤ (-53 : Int) by decide)
  have hnormal : IsNormal (.finite .positive m' e' hpos) := ⟨hm', by omega⟩
  have hscientific : UnpackedFloat.ofScientific Format.binary64 m 0 =
      .finite .positive m' e' hpos := by
    have hsmall : ¬(0 : Int) < -((2 ^ Format.binary64.exponentBits : Int) + m.log2) := by
      change ¬(0 : Int) < -((2 ^ 11 : Int) + m.log2)
      omega
    have hfactor : m * 2 ^ Format.binary64.mantissaBits * 10 ^ (0 : Int).toNat = m * 2 ^ 53 :=
      Nat.mul_one _
    rw [UnpackedFloat.ofScientific, dif_neg hne, if_neg (by decide), if_neg hsmall,
      if_pos (le_refl 0), ← hround]
    delta UnpackedFloat.mul
    dsimp only
    rw [Nat.shiftLeft_eq, hfactor]
    rfl
  have hunpacked : unpacked (Float.ofNat m) = .finite .positive m' e' hpos := by
    change unpacked (Float.ofScientific m false 0) = _
    rw [Float.ofScientific, dif_neg (by omega)]
    change unpacked (.ofModel (.pack (UnpackedFloat.ofScientific Format.binary64 m 0))) = _
    rw [hscientific, unpacked_pack hnormal]
  rw [hunpacked]
  refine ⟨hnormal, ?_⟩
  have hunit : m.log2 - 52 = k := by omega
  have hexponent : (-53 : Int) + (k + 53 : Nat) = k := by omega
  rw [value_positive, hvalue, roundUnits_mul_two_pow, hexponent, zpow_natCast, nearestNat, hunit]
  push_cast
  rfl

/-- A natural number of at most 63 bits is converted to the nearest number of 53 bits. -/
theorem unpacked_ofNat {m : Nat} (h : m ≤ 2 ^ 63) :
    IsNormal (unpacked (Float.ofNat m)) ∧ value (unpacked (Float.ofNat m)) = nearestNat m := by
  rcases Nat.eq_zero_or_pos m with rfl | hpos
  · have hzero : unpacked (Float.ofNat 0) = .zero .positive := rfl
    rw [hzero, nearestNat_of_le (Nat.zero_le _)]
    exact ⟨trivial, Nat.cast_zero.symm⟩
  · rcases Nat.lt_or_ge m (2 ^ 53) with hlt | hge
    · rw [nearestNat_of_le hlt.le]
      exact unpacked_ofNat_of_lt hpos hlt
    · exact unpacked_ofNat_of_ge hge h

private theorem isNormal_neg {x : UnpackedFloat} (hx : IsNormal x) : IsNormal x.neg := by
  cases x <;> exact hx

private theorem value_neg (x : UnpackedFloat) : value x.neg = -value x := by
  cases x with
  | finite s m e hm =>
    cases s with
    | positive => exact value_negative.trans (congrArg _ value_positive.symm)
    | negative =>
      rw [value_negative, neg_neg]
      exact value_positive
  | _ => exact neg_zero.symm

/-- An integer of at most 63 bits is converted to the nearest one of 53 bits. -/
theorem unpacked_ofInt {a : Int} (h : a.natAbs ≤ 2 ^ 63) :
    IsNormal (unpacked (Float.ofInt a)) ∧ value (unpacked (Float.ofInt a)) = nearest a := by
  cases a with
  | ofNat m =>
    obtain ⟨hnormal, hvalue⟩ := unpacked_ofNat (m := m) h
    exact ⟨hnormal, by rw [nearest, Int.cast_natCast]; exact hvalue⟩
  | negSucc m =>
    obtain ⟨hnormal, hvalue⟩ := unpacked_ofNat (m := m + 1) h
    have hneg : unpacked (Float.ofInt (.negSucc m)) = (unpacked (Float.ofNat (m + 1))).neg :=
      unpacked_pack (isNormal_neg hnormal)
    rw [hneg, value_neg, hvalue, nearest, Int.cast_neg, Int.cast_natCast]
    exact ⟨isNormal_neg hnormal, rfl⟩

section

variable (n : Int64)

/-- The magnitude of an integer of 64 bits takes at most 63 bits, or is the next number. -/
theorem natAbs_toInt_le : n.toInt.natAbs ≤ 2 ^ 63 := by
  have hlower := n.le_toInt
  have hupper := n.toInt_lt
  omega

/-- An integer of 64 bits is converted to the nearest one of 53 bits. -/
theorem unpacked_floatOfInt64 :
    IsNormal (unpacked (floatOfInt64 n)) ∧ value (unpacked (floatOfInt64 n)) = nearest n.toInt :=
  unpacked_ofInt (natAbs_toInt_le n)

end

end Stencil.Number
