import Mathlib.Algebra.Order.Field.Power
import Mathlib.Data.List.TakeWhile
import Mathlib.Data.Nat.Digits.Defs
import Stencil.Number.Reader
import Stencil.Proofs.Literal
import Stencil.Proofs.Names
import Stencil.Proofs.Number.Double

/-!
# Integers among the numbers of double precision

The parts of a finite number are those of its unpacked form, so a number whose value is an integer
has this integer as its integer part and nothing behind the point. The decimal text of an integer is
read as the number that the integer is converted to.
-/

namespace Stencil.Number

open Float.Model Float.Model.UnpackedFloat

/-! ### The parts of a number -/

/-- Whether a sign is minus. -/
def isNegative : Sign → Bool
  | .negative => true
  | .positive => false

/-- The parts of an unpacked number that is finite. -/
def Binary.ofUnpacked? : UnpackedFloat → Option Binary
  | .zero s => some ⟨isNegative s, 0, -1074⟩
  | .finite s m e _ => some ⟨isNegative s, m, e⟩
  | _ => none

section

variable (b : BitVec 64)

private abbrev mantissaBits : BitVec 52 := @unpackMantissa Format.binary64 b

private abbrev exponentBits : BitVec 11 := @unpackExponent Format.binary64 b

private abbrev sign : Sign := .ofBitVec (@unpackSign Format.binary64 b)

private theorem toNat_mantissaBits : (mantissaBits b).toNat = b.toNat % 2 ^ 52 := by
  change (b.extractLsb 51 0).toNat = _
  rw [BitVec.extractLsb_toNat]
  rfl

private theorem toNat_exponentBits : (exponentBits b).toNat = b.toNat / 2 ^ 52 % 2048 := by
  change (b.extractLsb 62 52).toNat = _
  rw [BitVec.extractLsb_toNat, Nat.shiftRight_eq_div_pow]

private theorem isNegative_ofBitVec (c : BitVec 1) : isNegative (.ofBitVec c) = (c.toNat == 1) := by
  revert c
  decide

private theorem isNegative_sign : isNegative (sign b) = (b.toNat >>> 63 == 1) := by
  change isNegative (.ofBitVec (b.extractLsb 63 63)) = _
  have hlt : b.toNat >>> 63 < 2 := by
    have := b.isLt
    omega
  rw [isNegative_ofBitVec, BitVec.extractLsb_toNat]
  exact congrArg (· == 1) (Nat.mod_eq_of_lt hlt)

private theorem ofUnpacked?_unpack :
    Binary.ofUnpacked? (UnpackedFloat.unpack Format.binary64 b) =
      if (exponentBits b).toNat = 2047 then none
      else if (exponentBits b).toNat = 0 then
        some ⟨isNegative (sign b), (mantissaBits b).toNat, -1074⟩
      else
        some ⟨isNegative (sign b), 2 ^ 52 + (mantissaBits b).toNat,
          ((exponentBits b).toNat : Int) - 1075⟩ := by
  have hones : exponentBits b = -1#11 ↔ (exponentBits b).toNat = 2047 := BitVec.toNat_inj.symm
  have hzeros : exponentBits b = 0#11 ↔ (exponentBits b).toNat = 0 := BitVec.toNat_inj.symm
  have hleading : (1#1 ++ mantissaBits b).toNat = 2 ^ 52 + (mantissaBits b).toNat := by
    rw [BitVec.toNat_append, ← Nat.shiftLeft_add_eq_or_of_lt (BitVec.isLt _)]
    rfl
  delta UnpackedFloat.unpack
  by_cases h2047 : (exponentBits b).toNat = 2047
  · rw [if_pos h2047, if_pos (hones.mpr h2047)]
    by_cases hzero : mantissaBits b = 0#52
    · rw [if_pos hzero]
      rfl
    · rw [if_neg hzero]
      rfl
  · rw [if_neg h2047, if_neg (mt hones.mp h2047)]
    by_cases h0 : (exponentBits b).toNat = 0
    · rw [if_pos h0, if_pos (hzeros.mpr h0)]
      by_cases hzero : mantissaBits b = 0#52
      · have hm : (mantissaBits b).toNat = 0 := BitVec.toNat_inj.mpr hzero
        rw [dif_pos hzero, hm]
        rfl
      · rw [dif_neg hzero, h0]
        rfl
    · rw [if_neg h0, if_neg (mt hzeros.mp h0), ← hleading]
      rfl

end

/-- The parts of a number are read off its unpacked form. -/
theorem Binary.ofFloat?_eq (x : Float) : Binary.ofFloat? x = Binary.ofUnpacked? (unpacked x) := by
  change _ = Binary.ofUnpacked? (UnpackedFloat.unpack Format.binary64 x.toModel.toBits.toBitVec)
  rw [ofUnpacked?_unpack, isNegative_sign, toNat_exponentBits, toNat_mantissaBits]
  rfl

/-! ### Numbers whose value is an integer -/

private theorem isIntegral_and_truncate {m k : Nat} {e : Int} (negative : Bool)
    (h : (m : ℚ) * 2 ^ e = k) :
    (Binary.mk negative m e).isIntegral = true ∧
      (Binary.mk negative m e).truncate = Binary.signed negative k := by
  simp only [Binary.isIntegral, Binary.truncate, Binary.scale]
  rcases le_or_gt 0 e with he | he
  · obtain ⟨j, rfl⟩ := Int.eq_ofNat_of_zero_le he
    have hproduct : m * 2 ^ j = k := by
      rw [zpow_natCast] at h
      exact_mod_cast h
    rw [if_pos he, Int.toNat_natCast, Nat.shiftLeft_eq m, hproduct]
    exact ⟨by simp, rfl⟩
  · obtain ⟨j, rfl⟩ := Int.exists_eq_neg_ofNat he.le
    have hproduct : m = k * 2 ^ j := by
      rw [zpow_neg, zpow_natCast, mul_inv_eq_iff_eq_mul₀ (by positivity)] at h
      exact_mod_cast h
    rw [if_neg he.not_ge, neg_neg, Int.toNat_natCast, Nat.shiftRight_eq_div_pow, hproduct,
      Nat.mul_div_cancel _ (Nat.two_pow_pos j), Nat.one_shiftLeft, Nat.mul_mod_left]
    exact ⟨by simp, rfl⟩

private theorem nonneg_of_magnitude {m : Nat} {e a : Int} (h : (m : ℚ) * 2 ^ e = a) : 0 ≤ a := by
  have hnonneg : (0 : ℚ) ≤ m * 2 ^ e := by positivity
  rw [h] at hnonneg
  exact_mod_cast hnonneg

/-- A finite number whose value is an integer has nothing behind the point, and is this integer. -/
theorem exists_ofFloat? {x : Float} {a : Int} (hx : IsNormal (unpacked x))
    (hvalue : value (unpacked x) = a) :
    ∃ b, Binary.ofFloat? x = some b ∧ b.isIntegral = true ∧ b.truncate = a := by
  rw [Binary.ofFloat?_eq]
  generalize unpacked x = y at hx hvalue
  cases y with
  | infinity s => cases hx
  | notANumber => cases hx
  | zero s =>
    have ha : a = 0 := Int.cast_eq_zero.mp hvalue.symm
    refine ⟨_, rfl, rfl, ?_⟩
    rw [ha]
    cases s <;> rfl
  | finite s m e hm =>
    cases s with
    | positive =>
      rw [value_positive] at hvalue
      obtain ⟨k, rfl⟩ := Int.eq_ofNat_of_zero_le (nonneg_of_magnitude hvalue)
      exact ⟨_, rfl, isIntegral_and_truncate false hvalue⟩
    | negative =>
      rw [value_negative] at hvalue
      obtain ⟨b, rfl⟩ : ∃ b, a = -b := ⟨-a, (neg_neg a).symm⟩
      rw [Int.cast_neg, neg_inj] at hvalue
      obtain ⟨k, rfl⟩ := Int.eq_ofNat_of_zero_le (nonneg_of_magnitude hvalue)
      exact ⟨_, rfl, isIntegral_and_truncate true hvalue⟩

section

variable {x : Float} {a : Int}

/-- A number whose value is an integer is finite. -/
theorem isFinite_of_value (hx : IsNormal (unpacked x)) (hvalue : value (unpacked x) = a) :
    isFinite x = true := by
  obtain ⟨b, hb, -, -⟩ := exists_ofFloat? hx hvalue
  rw [isFinite, hb]
  rfl

/-- A number whose value is an integer has nothing behind its point. -/
theorem isIntegral_of_value (hx : IsNormal (unpacked x)) (hvalue : value (unpacked x) = a) :
    isIntegral x = true := by
  obtain ⟨b, hb, hintegral, -⟩ := exists_ofFloat? hx hvalue
  rw [isIntegral, hb]
  exact hintegral

/-- A number whose value is an integer is cut down to this integer. -/
theorem truncate_of_value (hx : IsNormal (unpacked x)) (hvalue : value (unpacked x) = a) :
    truncate x = a := by
  obtain ⟨b, hb, -, htruncate⟩ := exists_ofFloat? hx hvalue
  rw [truncate, hb]
  exact htruncate

end

/-! ### Reading integers -/

/-- What begins with a digit is no word for an infinity or for no number. -/
theorem readMagnitude?_of_isDigit {c : Char} (hc : c.isDigit) (cs : List Char) :
    readMagnitude? (c :: cs) = (readNumeral? (c :: cs)).map .numeral := by
  have hword {w : String} {d : Char} {ds : List Char} (hw : w.toList = d :: ds)
      (hd : d.isDigit = false) : String.ofList ((c :: cs).map Char.toLower) ≠ w := by
    rintro rfl
    rw [String.toList_ofList, List.map_cons, toLower_of_isDigit hc] at hw
    rw [(List.cons.inj hw).1, hd] at hc
    cases hc
  have hinf : String.ofList ((c :: cs).map Char.toLower) ≠ "inf" := hword rfl rfl
  have hinfinity : String.ofList ((c :: cs).map Char.toLower) ≠ "infinity" := hword rfl rfl
  have hnan : String.ofList ((c :: cs).map Char.toLower) ≠ "nan" := hword rfl rfl
  simp only [readMagnitude?, hinf, hinfinity, hnan]
  rfl

/-- What begins with a digit has no sign. -/
theorem readSigned?_of_isDigit {c : Char} (hc : c.isDigit) (cs : List Char) :
    readSigned? (c :: cs) = (readNumeral? (c :: cs)).map fun x ↦ (false, .numeral x) := by
  have hsign {d : Char} {ds : List Char} (hd : d.isDigit = false) : c :: cs ≠ d :: ds := by
    rintro ⟨⟩
    rw [hd] at hc
    cases hc
  rw [readSigned?, readMagnitude?_of_isDigit hc, Option.map_map]
  · rfl
  · exact fun ds ↦ hsign rfl
  · exact fun ds ↦ hsign rfl

section

variable {n : Nat}

private theorem exists_toDigits (n : Nat) : ∃ c cs, Nat.toDigits 10 n = c :: cs ∧ c.isDigit := by
  obtain ⟨c, cs, hcs⟩ := List.exists_cons_of_ne_nil (Nat.toDigits_ne_nil (n := n) (b := 10))
  exact ⟨c, cs, hcs, isDigit_of_mem_toDigits (hcs ▸ List.mem_cons_self)⟩

private theorem readNumeral?_toDigits : readNumeral? (Nat.toDigits 10 n) = some ⟨n, 0⟩ := by
  have htake : (Nat.toDigits 10 n).takeWhile Char.isDigit = Nat.toDigits 10 n :=
    List.takeWhile_eq_self_iff.mpr fun _ hc ↦ isDigit_of_mem_toDigits hc
  have hdrop : (Nat.toDigits 10 n).dropWhile Char.isDigit = [] :=
    List.dropWhile_eq_nil_iff.mpr fun _ hc ↦ isDigit_of_mem_toDigits hc
  simp [readNumeral?, htake, hdrop, natural?_toDigits]

private theorem readMagnitude?_toDigits :
    readMagnitude? (Nat.toDigits 10 n) = some (.numeral ⟨n, 0⟩) := by
  obtain ⟨c, cs, hcs, hc⟩ := exists_toDigits n
  rw [hcs, readMagnitude?_of_isDigit hc, ← hcs, readNumeral?_toDigits]
  rfl

private theorem readSigned?_toDigits :
    readSigned? (Nat.toDigits 10 n) = some (false, .numeral ⟨n, 0⟩) := by
  obtain ⟨c, cs, hcs, hc⟩ := exists_toDigits n
  rw [hcs, readSigned?_of_isDigit hc, ← hcs, readNumeral?_toDigits]
  rfl

private theorem toFloat_numeral (h : n ≤ 2 ^ 63) : Numeral.toFloat ⟨n, 0⟩ = Float.ofNat n := by
  have hlength : (Nat.toDigits 10 n).length ≤ 19 := by
    apply Nat.toDigits_length _ _ _ (by decide)
    omega
  rcases Nat.eq_zero_or_pos n with rfl | hpos
  · rfl
  · have hrange : (n = 0 || ((Nat.toDigits 10 n).length + 0 : Int) < -400) = false := by
      rw [Bool.or_eq_false_iff, decide_eq_false_iff_not, decide_eq_false_iff_not]
      omega
    have htop : ¬(400 : Int) < (Nat.toDigits 10 n).length + 0 := by omega
    simp only [Numeral.toFloat, hrange, htop]
    rfl

end

/-- Digits are read as the number that they are converted to. -/
theorem readFloat?_toDigits {n : Nat} (h : n ≤ 2 ^ 63) :
    readFloat? (Nat.toDigits 10 n) = some (Float.ofNat n) := by
  rw [readFloat?, readSigned?_toDigits]
  exact congrArg some (toFloat_numeral h)

/-- The text of an integer is read as the number that the integer is converted to. -/
theorem readFloat?_integerText (n : Int64) :
    readFloat? (integerText n).toList = some (floatOfInt64 n) := by
  have hlower := n.le_toInt
  have hupper := n.toInt_lt
  rw [floatOfInt64]
  cases h : n.toInt with
  | ofNat m =>
    rw [h, Int.ofNat_eq_natCast] at hupper
    rw [toList_integerText_of_ofNat h, readFloat?_toDigits (by omega)]
    rfl
  | negSucc m =>
    rw [toList_integerText_of_negSucc h, readFloat?, readSigned?, readMagnitude?_toDigits]
    change some (-(Numeral.toFloat ⟨m + 1, 0⟩)) = _
    rw [toFloat_numeral (by omega)]
    rfl

/-- The text of an integer has no blanks. -/
theorem trim_integerText (n : Int64) :
    Text.trim (integerText n).toList = (integerText n).toList := by
  refine Text.trimWhile_append (s := []) (List.forall_mem_nil _) fun c hc ↦ ?_
  rcases eq_minus_or_isDigit_of_mem hc with rfl | hdigit
  · decide
  · exact isBlank_of_isNameChar (by simp [isNameChar, Char.isAlphanum, hdigit])

end Stencil.Number
