import Mathlib
import TagWeave.Number.Decimal

/-!
# Integers and doubles

A positive integer is rounded to 53 binary digits, a tie to the even neighbour, and the result is
a double unless its exponent is too large. So the integers without a double are just those from
the middle between the largest double and the next power of two on, and the double of a smaller
one is positive. In the other direction, a finite double that is not less than one has a positive
whole part.

Doubles are taken apart into sign, mantissa and exponent, as their operations do it.
-/

namespace TagWeave.Number

open Float.Model Float.Model.UnpackedFloat

/-! ### Mantissas -/

theorem targetExponent_eq (position : Int) :
    Format.binary64.targetExponent position = max (position - 53) (-1074) := rfl

/-- Shifting an exact mantissa by some places. The round bit is the last one that is lost, and the
sticky bit tells whether any other one that is lost is set. -/
theorem shiftRight_succ (mantissa places : Nat) :
    (⟨mantissa, false, false⟩ : ExtendedMantissa) >>> (places + 1) =
      ⟨mantissa / 2 ^ (places + 1), mantissa / 2 ^ places % 2 != 0, mantissa % 2 ^ places != 0⟩ := by
  induction places with
  | zero => simp [HShiftRight.hShiftRight, Nat.repeat, ExtendedMantissa.shiftRightOne, Nat.mod_one]
  | succ places ih =>
      have step : (⟨mantissa, false, false⟩ : ExtendedMantissa) >>> (places + 1 + 1) =
          ((⟨mantissa, false, false⟩ : ExtendedMantissa) >>> (places + 1)).shiftRightOne := rfl
      rw [step, ih, ExtendedMantissa.shiftRightOne, Nat.div_div_eq_div_mul, ← Nat.pow_succ,
        Nat.mod_pow_succ]
      congr 1
      rw [Bool.eq_iff_iff]
      simp only [Bool.or_eq_true, bne_iff_ne, ne_eq, Nat.add_eq_zero_iff, Nat.mul_eq_zero]
      have : 2 ^ places ≠ 0 := by positivity
      tauto

/-- However inexact it is, a mantissa is rounded to itself or to the next one. -/
theorem roundToNearestEven_bounds (m : Nat) (accuracy : Accuracy) :
    m ≤ accuracy.roundToNearestEven m ∧ accuracy.roundToNearestEven m ≤ m + 1 := by
  unfold Accuracy.roundToNearestEven
  split <;> omega

/-- An odd mantissa is rounded up just if the round bit is set. -/
theorem roundedMantissa_of_odd {em : ExtendedMantissa} (odd : em.mantissa % 2 = 1) :
    em.roundedMantissa = if em.roundBit then em.mantissa + 1 else em.mantissa := by
  obtain ⟨m, r, s⟩ := em
  cases r <;> cases s <;>
    simp_all [ExtendedMantissa.roundedMantissa, ExtendedMantissa.accuracy, Accuracy.roundToNearestEven]

/-! ### Rounding -/

/-- The nearest multiple of a power of two. -/
def rounded (m places : Nat) : Nat :=
  ((⟨m, false, false⟩ : ExtendedMantissa) >>> places).roundedMantissa

theorem mantissa_shiftRight (m places : Nat) :
    ((⟨m, false, false⟩ : ExtendedMantissa) >>> places).mantissa = m / 2 ^ places := by
  cases places with
  | zero => rw [pow_zero, Nat.div_one]; rfl
  | succ places => rw [shiftRight_succ]

theorem shiftToExponent_of_le {m : Nat} {e t : Int} (le : t ≤ e) :
    shiftToExponent m e .exact t = (⟨m, false, false⟩, e) := by
  have none : (t - e).toNat = 0 := by omega
  rw [shiftToExponent, none]
  exact Prod.ext rfl (add_zero e)

theorem rounded_bounds (m places : Nat) :
    m / 2 ^ places ≤ rounded m places ∧ rounded m places ≤ m / 2 ^ places + 1 := by
  rw [← mantissa_shiftRight]
  exact roundToNearestEven_bounds _ _

/-- A mantissa of at least 53 binary digits is rounded to 53 ones, or to the next power of two. -/
theorem rounded_digits {m : Nat} (long : 52 ≤ m.log2) :
    2 ^ 52 ≤ rounded m (m.log2 - 52) ∧ rounded m (m.log2 - 52) ≤ 2 ^ 53 := by
  have pos : 0 < m := by
    rw [Nat.pos_iff_ne_zero]
    rintro rfl
    simp at long
  obtain ⟨lower, upper⟩ := (Nat.log2_eq_iff pos.ne').mp rfl
  obtain ⟨places, split⟩ := Nat.exists_eq_add_of_le long
  have remaining : m.log2 - 52 = places := by omega
  have low : 2 ^ 52 ≤ m / 2 ^ places := by
    rw [Nat.le_div_iff_mul_le (by positivity), ← pow_add, ← split]
    exact lower
  have high : m / 2 ^ places < 2 ^ 53 := by
    rw [Nat.div_lt_iff_lt_mul (by positivity), ← pow_add]
    convert upper using 2
    omega
  rw [remaining]
  exact ⟨low.trans (rounded_bounds m places).1, (rounded_bounds m places).2.trans high⟩

/-- What has been rounded is shifted once more where it has carried into the next power of two. -/
theorem shift_rounded {r : Nat} {e : Int} (low : 2 ^ 52 ≤ r) (high : r ≤ 2 ^ 53) (normal : -1074 ≤ e) :
    ∃ em : ExtendedMantissa, em.mantissa.log2 = 52 ∧
      shiftToTargetExponent .binary64 r e .exact = (em, e + if r < 2 ^ 53 then 0 else 1) := by
  rw [shiftToTargetExponent, totalExponent, targetExponent_eq]
  by_cases fits : r < 2 ^ 53
  · have length : r.log2 = 52 := (Nat.log2_eq_iff (by omega)).mpr ⟨low, fits⟩
    refine ⟨⟨r, false, false⟩, length, ?_⟩
    rw [if_pos fits, add_zero, length]
    exact shiftToExponent_of_le (by omega)
  · obtain rfl : r = 2 ^ 53 := by omega
    have length : (2 ^ 53).log2 = 53 := Nat.log2_two_pow
    have target : (max ((53 : Nat) + 1 + e - 53) (-1074) - e).toNat = 1 := by omega
    refine ⟨⟨2 ^ 52, false, false⟩, Nat.log2_two_pow, ?_⟩
    rw [if_neg fits, length, shiftToExponent]
    simp only [target]
    exact Prod.ext (shiftRight_succ _ 0) rfl

/-- Rounding keeps 53 binary digits. The exponent grows by one where the mantissa carries into the next
power of two. -/
theorem roundWithAccuracy_exact (s : Sign) {m : Nat} {e : Int} (long : 52 ≤ m.log2)
    (normal : -1022 ≤ m.log2 + e) :
    ∃ m' e' pos, roundWithAccuracy .binary64 s m e .exact = .finite s m' e' pos ∧ m'.log2 = 52 ∧
      e' = m.log2 - 52 + e + if rounded m (m.log2 - 52) < 2 ^ 53 then 0 else 1 := by
  have first : shiftToTargetExponent .binary64 m e .exact =
      ((⟨m, false, false⟩ : ExtendedMantissa) >>> (m.log2 - 52), m.log2 - 52 + e) := by
    have target : (max ((m.log2 : Int) + 1 + e - 53) (-1074) - e).toNat = m.log2 - 52 := by omega
    rw [shiftToTargetExponent, totalExponent, targetExponent_eq, shiftToExponent]
    simp only [target]
    exact Prod.ext rfl (by simp only; omega)
  have folded : ((⟨m, false, false⟩ : ExtendedMantissa) >>> (m.log2 - 52)).roundedMantissa =
      rounded m (m.log2 - 52) := rfl
  obtain ⟨low, high⟩ := rounded_digits long
  obtain ⟨em, digits, second⟩ := shift_rounded low high (e := m.log2 - 52 + e) (by omega)
  have pos : 0 < em.mantissa := by
    rw [Nat.pos_iff_ne_zero]
    intro none
    rw [none] at digits
    cases digits
  rw [roundWithAccuracy]
  simp only [first, folded, second, dif_neg pos.ne']
  exact ⟨_, _, pos, rfl, digits, rfl⟩

/-! ### Packing -/

/-- A double that is packed is as it was, if its exponent is not too large. -/
theorem unpack_pack_finite (s : Sign) {m : Nat} {e : Int} (pos : 0 < m) (length : m.log2 = 52)
    (low : -1074 ≤ e) (high : e < 972) :
    (Float.Model.pack (.finite s m e pos)).unpack = .finite s m e pos := by
  obtain ⟨b, biased⟩ : ∃ b : Nat, (e + (1023 : Nat) + (52 : Nat)).toNat = b := ⟨_, rfl⟩
  have exponent : (BitVec.ofNat 11 b).toNat = b := by
    rw [BitVec.toNat_ofNat, Nat.mod_eq_of_lt (by omega)]
  have packed : UnpackedFloat.pack .binary64 (.finite s m e pos) =
      packComponents .binary64 s (BitVec.ofNat 11 b) (BitVec.ofNat 52 m) := by
    have fits : ¬ 2 ^ 11 ≤ (e + (1023 : Nat) + (52 : Nat)).toNat + 1 := by omega
    have long : m.log2 + 1 = 53 := by omega
    rw [UnpackedFloat.pack, ← biased]
    exact (if_neg fits).trans (if_pos long)
  have nonzero : BitVec.ofNat 11 b ≠ 0#11 := by
    rw [ne_eq, ← BitVec.toNat_inj, exponent, BitVec.toNat_zero]
    omega
  have finite : BitVec.ofNat 11 b ≠ -1#11 := by
    rw [ne_eq, ← BitVec.toNat_inj, exponent]
    change ¬ b = 2047
    omega
  have implicit : (1#1 ++ BitVec.ofNat 52 m).toNat = m := by
    obtain ⟨lower, upper⟩ := (Nat.log2_eq_iff pos.ne').mp length
    rw [BitVec.toNat_append, BitVec.toNat_ofNat, ← Nat.shiftLeft_add_eq_or_of_lt (by omega),
      Nat.shiftLeft_eq, BitVec.toNat_ofNat]
    omega
  rw [Float.Model.pack, Float.Model.unpack, UInt64.toBitVec_ofBitVec, packed, UnpackedFloat.unpack]
  simp only [unpackMantissa_packComponents, unpackExponent_packComponents, if_neg nonzero,
    if_neg finite, unpackSign_packComponents, Sign.ofBitVec_toBitVec, exponent, implicit]
  congr 1
  have bias : Format.binary64.exponentBias = 1023 := rfl
  simp only [bias]
  omega

/-- A double whose exponent is too large becomes infinite when it is packed. -/
theorem unpack_pack_infinite (s : Sign) {m : Nat} {e : Int} (pos : 0 < m) (high : 972 ≤ e) :
    (Float.Model.pack (.finite s m e pos)).unpack = .infinity s := by
  have large : 2 ^ 11 ≤ (e + (1023 : Nat) + (52 : Nat)).toNat + 1 := by omega
  have packed : UnpackedFloat.pack .binary64 (.finite s m e pos) = packedInfinity .binary64 s := by
    rw [UnpackedFloat.pack]
    exact if_pos large
  rw [Float.Model.pack, Float.Model.unpack, UInt64.toBitVec_ofBitVec, packed, UnpackedFloat.unpack,
    packedInfinity]
  simp only [unpackMantissa_packComponents, unpackExponent_packComponents, if_true,
    unpackSign_packComponents, Sign.ofBitVec_toBitVec]
  rfl

/-! ### Integers as doubles -/

/-- From here on the nearest double to an integer is infinite: half a unit in the last place above the
largest double. -/
def overflowBound : Nat := 2 ^ 1024 - 2 ^ 970

theorem overflowBound_eq : overflowBound = (2 ^ 54 - 1) * 2 ^ 970 := by
  rw [overflowBound, Nat.sub_mul, ← pow_add, one_mul]

theorem overflowBound_pos : 0 < overflowBound := by
  rw [overflowBound_eq]
  exact Nat.mul_pos (by decide) (by positivity)

/-- Rounding carries into the next power of two just from the middle of the last unit on. -/
theorem not_rounded_lt_iff {m places : Nat} (length : m.log2 = 52 + (places + 1)) :
    ¬ rounded m (places + 1) < 2 ^ 53 ↔ (2 ^ 54 - 1) * 2 ^ places ≤ m := by
  have pos : 0 < m := by
    rw [Nat.pos_iff_ne_zero]
    rintro rfl
    simp at length
  obtain ⟨lower, upper⟩ := (Nat.log2_eq_iff pos.ne').mp length
  rw [← Nat.le_div_iff_mul_le (by positivity)]
  have half : m / 2 ^ (places + 1) = m / 2 ^ places / 2 := by
    rw [Nat.div_div_eq_div_mul, Nat.pow_succ]
  have high : m / 2 ^ places < 2 ^ 54 := by
    rw [Nat.div_lt_iff_lt_mul (by positivity), ← pow_add]
    convert upper using 2
    omega
  have bounds := rounded_bounds m (places + 1)
  rw [half] at bounds
  have tie : m / 2 ^ places / 2 % 2 = 1 → rounded m (places + 1) =
      if m / 2 ^ places % 2 != 0 then m / 2 ^ places / 2 + 1 else m / 2 ^ places / 2 := by
    intro odd
    rw [rounded, roundedMantissa_of_odd, shiftRight_succ, half]
    rwa [mantissa_shiftRight, half]
  constructor
  · intro carries
    have last : m / 2 ^ places / 2 = 2 ^ 53 - 1 := by omega
    by_contra below
    have even : m / 2 ^ places % 2 = 0 := by omega
    rw [tie (by omega), even] at carries
    exact carries (by rw [if_neg (by decide)]; omega)
  · intro above
    have last : m / 2 ^ places = 2 ^ 54 - 1 := by omega
    rw [tie (by omega), last]
    decide

theorem log2_mul_two_pow {m : Nat} (pos : 0 < m) (places : Nat) :
    (m * 2 ^ places).log2 = m.log2 + places := by
  obtain ⟨lower, upper⟩ := (Nat.log2_eq_iff pos.ne').mp rfl
  refine (Nat.log2_eq_iff (by positivity)).mpr ⟨?_, ?_⟩
  · rw [pow_add]
    exact Nat.mul_le_mul_right _ lower
  · rw [Nat.add_right_comm, pow_add]
    exact Nat.mul_lt_mul_of_pos_right upper (by positivity)

/-- How large the exponent of an integer becomes when it is rounded to 53 binary digits. -/
theorem le_exponent_iff {n : Nat} (pos : 0 < n) (places : Nat) :
    (places + 2 : Int) ≤
        n.log2 - 52 + (if rounded (n * 2 ^ 53) (n.log2 + 1) < 2 ^ 53 then 0 else 1) ↔
      (2 ^ 54 - 1) * 2 ^ places ≤ n := by
  obtain ⟨lower, upper⟩ := (Nat.log2_eq_iff pos.ne').mp rfl
  rcases lt_trichotomy n.log2 (places + 53) with small | middle | large
  · have below : n < (2 ^ 54 - 1) * 2 ^ places := by
      calc n < 2 ^ (n.log2 + 1) := upper
        _ ≤ 2 ^ (53 + places) := Nat.pow_le_pow_right two_pos (by omega)
        _ = 2 ^ 53 * 2 ^ places := pow_add ..
        _ ≤ (2 ^ 54 - 1) * 2 ^ places := Nat.mul_le_mul_right _ (by decide)
    refine iff_of_false ?_ below.not_ge
    split <;> omega
  · have length := log2_mul_two_pow pos 53
    have carries : ¬ rounded (n * 2 ^ 53) (n.log2 + 1) < 2 ^ 53 ↔ (2 ^ 54 - 1) * 2 ^ places ≤ n := by
      rw [not_rounded_lt_iff (by omega), middle, pow_add, ← Nat.mul_assoc]
      exact Nat.mul_le_mul_right_iff (by positivity)
    rw [← carries]
    split
    · next fits => exact iff_of_false (by omega) fun carried => carried fits
    · next carried => exact iff_of_true (by omega) carried
  · have above : (2 ^ 54 - 1) * 2 ^ places ≤ n := by
      calc (2 ^ 54 - 1) * 2 ^ places ≤ 2 ^ 54 * 2 ^ places := Nat.mul_le_mul_right _ (by decide)
        _ = 2 ^ (54 + places) := (pow_add ..).symm
        _ ≤ 2 ^ n.log2 := Nat.pow_le_pow_right two_pos (by omega)
        _ ≤ n := lower
    refine iff_of_true ?_ above
    split <;> omega

/-- An integer of at most 53 binary digits is a double. -/
theorem unpack_toFloat {n : Nat} (pos : 0 < n) (short : n < 2 ^ 53) :
    ∃ m e, ∃ positive : 0 < m, n.toUInt64.toFloat.toModel.unpack = .finite .positive m e positive ∧
      m.log2 = 52 ∧ -53 ≤ e ∧ e ≤ 1 := by
  have length : n.log2 < 53 := (Nat.log2_lt pos.ne').mpr short
  have same : n.toUInt64.toNat = n := by
    rw [Nat.toUInt64_eq, UInt64.toNat_ofNat']
    exact Nat.mod_eq_of_lt (by omega)
  have normal : UnpackedFloat.normalize .binary64 n 0 .positive =
      UnpackedFloat.round .binary64 .positive n 0 := by
    have above : compare (n : Int) 0 = .gt := by
      rw [compare_gt_iff_gt]
      omega
    rw [UnpackedFloat.normalize, above]
    rfl
  have shifted : UnpackedFloat.round .binary64 .positive n 0 =
      roundWithAccuracy .binary64 .positive (n * 2 ^ (52 - n.log2)) (n.log2 - 52) .exact := by
    have target : (0 - max ((n.log2 : Int) + 1 + 0 - 53) (-1074)).toNat = 52 - n.log2 := by omega
    rw [UnpackedFloat.round, totalExponent, targetExponent_eq, decreaseExponent]
    simp only [target, Nat.shiftLeft_eq]
    congr 1
    omega
  have long : (n * 2 ^ (52 - n.log2)).log2 = 52 := by
    rw [log2_mul_two_pow pos]
    omega
  obtain ⟨m, e, positive, round, digits, exponent⟩ :=
    roundWithAccuracy_exact .positive long.ge (e := n.log2 - 52) (by omega)
  have range : -53 ≤ e ∧ e ≤ 1 := by
    rw [exponent, long]
    split <;> omega
  refine ⟨m, e, positive, ?_, digits, range.1, range.2⟩
  have packed : n.toUInt64.toFloat.toModel = .pack (.finite .positive m e positive) := by
    rw [UInt64.toFloat, Float.Model.ofUInt64, UnpackedFloat.ofUInt64, same, UnpackedFloat.ofNat,
      UnpackedFloat.ofInt, normal, shifted, round]
  rw [packed]
  exact unpack_pack_finite _ positive digits (by omega) (by omega)

/-- The double nearest to a positive integer has 53 binary digits, and its exponent is too large just
from a bound on. -/
theorem toModel_ofNat {n : Nat} (pos : 0 < n) :
    ∃ m e, ∃ positive : 0 < m, (Float.ofNat n).toModel = .pack (.finite .positive m e positive) ∧
      m.log2 = 52 ∧ -1074 ≤ e ∧ (972 ≤ e ↔ overflowBound ≤ n) := by
  by_cases short : n < 2 ^ 53
  · obtain ⟨m, e, positive, unpacked, digits, range⟩ := unpack_toFloat pos short
    have product : (Float.ofNat n).toModel = .pack (roundWithAccuracy .binary64 .positive
        (m * 2 ^ 52) (e + -52) .exact) := by
      have quick : Float.ofNat n =
          n.toUInt64.toFloat * Float.exactlyRepresentablePowersOfTen.toList.get ⟨0, by decide⟩ :=
        dif_pos ⟨short, Nat.zero_le _⟩
      have one : (Float.exactlyRepresentablePowersOfTen.toList.get ⟨0, by decide⟩).toModel.unpack =
          .finite .positive (2 ^ 52) (-52) (by decide) := rfl
      have packed : ∀ x y : Float, (x * y).toModel =
          .pack (UnpackedFloat.mul .binary64 x.toModel.unpack y.toModel.unpack) := fun _ _ => rfl
      rw [quick, packed, unpacked, one]
      rfl
    have long := log2_mul_two_pow positive 52
    obtain ⟨m', e', positive', round, digits', exponent⟩ :=
      roundWithAccuracy_exact .positive (m := m * 2 ^ 52) (e := e + -52) (by omega) (by omega)
    refine ⟨m', e', positive', by rw [product, round], digits', ?_, ?_⟩
    · split at exponent <;> omega
    · have low : e' < 972 := by split at exponent <;> omega
      have below : n < overflowBound := by
        have unit : 2 ^ 53 ≤ 2 ^ 54 - 1 := by decide
        rw [overflowBound_eq]
        exact short.trans_le (unit.trans (Nat.le_mul_of_pos_right _ (by positivity)))
      omega
  · have product : (Float.ofNat n).toModel = .pack (roundWithAccuracy .binary64 .positive
        (n * 2 ^ 53) (-53) .exact) := by
      have slow : Float.ofNat n = .ofModel (Float.Model.ofScientific n 0) :=
        dif_neg fun both => short both.1
      have near : ¬ (0 : Int) > 2 ^ 11 ∧ ¬ (0 : Int) < -(2 ^ 11 + n.log2) := by omega
      have exact : UnpackedFloat.ofScientific .binary64 n 0 = roundWithAccuracy .binary64 .positive
          (n <<< 53 * 10 ^ 0) (-53 + 0) .exact := by
        rw [UnpackedFloat.ofScientific, dif_neg pos.ne', if_neg near.1, if_neg near.2,
          if_pos le_rfl]
        rfl
      rw [slow, Float.Model.ofScientific, exact, Nat.shiftLeft_eq, pow_zero, mul_one, add_zero]
    have long := log2_mul_two_pow pos 53
    have size : 53 ≤ n.log2 := (Nat.le_log2 pos.ne').mpr (by omega)
    obtain ⟨m', e', positive', round, digits', exponent⟩ :=
      roundWithAccuracy_exact .positive (m := n * 2 ^ 53) (e := -53) (by omega) (by omega)
    refine ⟨m', e', positive', by rw [product, round], digits', ?_, ?_⟩
    · split at exponent <;> omega
    have places : (n * 2 ^ 53).log2 - 52 = n.log2 + 1 := by omega
    have moved : ((n.log2 + 53 : Nat) : Int) - 52 + -53 = n.log2 - 52 := by omega
    rw [exponent, places, long, moved, overflowBound_eq, ← le_exponent_iff pos 970]
    rfl

theorem isInf_ofNat {n : Nat} (pos : 0 < n) : (Float.ofNat n).isInf = decide (overflowBound ≤ n) := by
  obtain ⟨m, e, positive, packed, digits, low, large⟩ := toModel_ofNat pos
  rw [Float.isInf, Float.Model.isInf, packed]
  by_cases high : 972 ≤ e
  · rw [unpack_pack_infinite _ positive high, decide_eq_true (large.mp high)]
    rfl
  · rw [unpack_pack_finite _ positive digits low (by omega),
      decide_eq_false fun beyond => high (large.mpr beyond)]
    rfl

theorem le_of_lt_length {bound n digits : Nat} (some : 0 < digits) (small : bound ≤ 10 ^ digits)
    (long : digits < (decimalDigits n).length) : bound ≤ n := by
  have more : ¬ (Nat.toDigits 10 n).length ≤ digits := Nat.not_le.mpr long
  rw [Nat.length_toDigits_le_iff (by decide) some, Nat.not_lt] at more
  exact small.trans more

/-- An integer that is not negative has no double just from the bound on. -/
theorem floatOfInt?_natCast (n : Nat) :
    floatOfInt? n = if overflowBound ≤ n then none else some (Float.ofNat n) := by
  have sign : decide ((n : Int) < 0) = false := by simp
  rw [floatOfInt?, Int.natAbs_natCast, sign, nearestFloat]
  rcases Nat.eq_zero_or_pos n with rfl | pos
  · rw [if_neg overflowBound_pos.not_ge]
    rfl
  · have short : ¬ ((decimalDigits n).length + 0 : Int) < -400 := by omega
    have reading : Float.ofScientific n (decide ((0 : Int) < 0)) (0 : Int).natAbs = Float.ofNat n := rfl
    simp only [if_neg pos.ne', if_neg short, reading, Bool.false_eq_true, if_false]
    split
    · next long =>
      have large : overflowBound ≤ n :=
        le_of_lt_length (by decide) (by decide +kernel : overflowBound ≤ 10 ^ 400) (by omega)
      have infinite : (1.0 / 0.0 : Float).isInf = true := by decide +kernel
      rw [if_pos large, if_pos infinite]
    · rw [isInf_ofNat pos]
      simp only [decide_eq_true_eq]

/-! ### Comparisons -/

theorem float_le_iff {x y : Float} : x ≤ y ↔ x.toModel.unpack.le y.toModel.unpack := by
  change (decide (x.toModel ≤ y.toModel)) = true ↔ _
  rw [decide_eq_true_iff]
  rfl

theorem float_lt_iff {x y : Float} : x < y ↔ x.toModel.unpack.lt y.toModel.unpack := by
  change (decide (x.toModel < y.toModel)) = true ↔ _
  rw [decide_eq_true_iff]
  rfl

theorem unpack_zero : (Float.ofNat 0).toModel.unpack = .zero .positive := rfl

theorem ofNat_pos {n : Nat} (pos : 0 < n) (small : n < overflowBound) : 0 < Float.ofNat n := by
  obtain ⟨m, e, positive, packed, digits, low, large⟩ := toModel_ofNat pos
  have zero : (0 : Float).toModel.unpack = .zero .positive := rfl
  rw [float_lt_iff, zero, packed, unpack_pack_finite _ positive digits low (by omega)]
  rfl

theorem float_le_of_lt {x y : Float} (less : x < y) : x ≤ y := by
  rw [float_lt_iff, UnpackedFloat.lt] at less
  rw [float_le_iff, UnpackedFloat.le]
  cases compared : x.toModel.unpack.compare y.toModel.unpack with
  | none => rw [compared] at less; cases less
  | some order =>
      cases order with
      | lt => rfl
      | _ => rw [compared] at less; cases less

theorem ofNat_nonneg {n : Nat} (small : n < overflowBound) : 0 ≤ Float.ofNat n := by
  rcases Nat.eq_zero_or_pos n with rfl | pos
  · rw [float_le_iff]
    rfl
  · exact float_le_of_lt (ofNat_pos pos small)

/-- A double that is neither negative nor zero is positive, if it is a number. -/
theorem pos_of_not_le {x : Float} (number : x.isNaN = false) (above : ¬ x ≤ Float.ofNat 0) : 0 < x := by
  have zero : (0 : Float).toModel.unpack = .zero .positive := rfl
  rw [float_le_iff, unpack_zero] at above
  rw [float_lt_iff, zero]
  rw [Float.isNaN, Float.Model.isNaN] at number
  revert number above
  rcases x.toModel.unpack with (_ | _) | _ | s | ⟨_ | _, m, e, positive⟩ <;>
    simp [UnpackedFloat.isNaN, UnpackedFloat.le, UnpackedFloat.lt, UnpackedFloat.compare]

theorem nonneg_of_not_lt {x : Float} (number : x.isNaN = false) (above : ¬ x < Float.ofNat 0) :
    0 ≤ x := by
  have zero : (0 : Float).toModel.unpack = .zero .positive := rfl
  rw [float_lt_iff, unpack_zero] at above
  rw [float_le_iff, zero]
  rw [Float.isNaN, Float.Model.isNaN] at number
  revert number above
  rcases x.toModel.unpack with (_ | _) | _ | s | ⟨_ | _, m, e, positive⟩ <;>
    simp [UnpackedFloat.isNaN, UnpackedFloat.le, UnpackedFloat.lt, UnpackedFloat.compare]

/-! ### Whole parts -/

/-- What a double is unpacked to is its binary form, if it is not zero, with its sign. The mantissa has
all its digits unless the exponent is the least one. -/
theorem ofFloat_of_unpack {x : Float} {s : Sign} {m : Nat} {e : Int} {pos : 0 < m}
    (unpacked : x.toModel.unpack = .finite s m e pos) :
    (Binary.ofFloat x).mantissa = m ∧ (Binary.ofFloat x).exponent = e ∧
      (e = -1074 ∨ 2 ^ 52 ≤ m) ∧ (isNegative x = true ↔ s = .negative) := by
  obtain ⟨b, same⟩ : ∃ b : BitVec 64, x.toBits.toBitVec = b := ⟨_, rfl⟩
  have bits : x.toBits.toNat = b.toNat := congrArg BitVec.toNat same
  have parts : UnpackedFloat.unpack .binary64 b = .finite s m e pos := same ▸ unpacked
  have mantissa : (@unpackMantissa .binary64 b).toNat = b.toNat % 2 ^ 52 := by
    simp [unpackMantissa]
  have exponent : (@unpackExponent .binary64 b).toNat = b.toNat / 2 ^ 52 % 2 ^ 11 := by
    simp [unpackExponent, Nat.shiftRight_eq_div_pow]
  have sign : decide (Nat.pow 2 63 ≤ b.toNat) = true ↔
      Sign.ofBitVec (@unpackSign .binary64 b) = .negative := by
    have first : @unpackSign .binary64 b = 0#1 ↔ b.toNat < 2 ^ 63 := by
      have size := b.isLt
      rw [← BitVec.toNat_inj]
      simp only [unpackSign, BitVec.toNat_cast, BitVec.extractLsb_toNat, Nat.shiftRight_eq_div_pow]
      change b.toNat / 2 ^ 63 % 2 ^ 1 = 0 ↔ _
      omega
    change decide (2 ^ 63 ≤ b.toNat) = true ↔ _
    rw [decide_eq_true_iff, ← Nat.not_lt, ← first, Sign.ofBitVec]
    split <;> simp_all
  have bias :
      (Format.binary64.exponentBias : Int) + Format.binary64.mantissaBitsWithoutImplicit = 1075 := rfl
  rw [UnpackedFloat.unpack] at parts
  simp only [bias] at parts
  rw [Binary.ofFloat, isNegative, bits]
  split at parts
  · split at parts <;> cases parts
  · split at parts
    · next least =>
      have biased : b.toNat / Nat.pow 2 52 % Nat.pow 2 11 = 0 := by
        rw [least] at exponent
        exact exponent.symm
      split at parts
      · cases parts
      · cases parts
        rw [if_pos biased]
        refine ⟨mantissa.symm, ?_, .inl ?_, sign⟩ <;> simp [least]
    · next normal =>
      have biased : b.toNat / Nat.pow 2 52 % Nat.pow 2 11 ≠ 0 := by
        intro none
        exact normal (BitVec.toNat_inj.mp (exponent.trans none))
      have implicit : (1#1 ++ @unpackMantissa .binary64 b).toNat =
          b.toNat % 2 ^ 52 + 2 ^ 52 := by
        rw [BitVec.toNat_append, ← Nat.shiftLeft_add_eq_or_of_lt (BitVec.isLt _), mantissa]
        exact Nat.add_comm ..
      cases parts
      rw [if_neg biased, implicit, exponent]
      exact ⟨rfl, rfl, .inr (Nat.le_add_left ..), sign⟩

/-- A finite double that is not less than one has a positive whole part. -/
theorem one_le_truncate {x : Float} (number : x.isNaN = false) (finite : x.isInf = false)
    (above : ¬ x < Float.ofNat 1) : 1 ≤ truncate x := by
  have one : (Float.ofNat 1).toModel.unpack = .finite .positive (2 ^ 52) (-52) (by decide) := rfl
  rw [float_lt_iff, one] at above
  rw [Float.isNaN, Float.Model.isNaN] at number
  rw [Float.isInf, Float.Model.isInf] at finite
  cases unpacked : x.toModel.unpack with
  | notANumber => rw [unpacked] at number; cases number
  | infinity => rw [unpacked] at finite; cases finite
  | zero => rw [unpacked] at above; exact absurd rfl above
  | finite s m e pos =>
      obtain ⟨mantissa, exponent, full, negative⟩ := ofFloat_of_unpack unpacked
      rw [unpacked] at above
      cases s with
      | negative => exact absurd rfl above
      | positive =>
          have sign : isNegative x = false := by simpa using negative
          have large : -52 ≤ e := by
            by_contra small
            have less : compare e (-52) = .lt := compare_lt_iff_lt.mpr (by omega)
            refine above ?_
            rw [UnpackedFloat.lt, UnpackedFloat.compare, less]
            rfl
          have digits : 2 ^ 52 ≤ m := full.resolve_left (by omega)
          have covered : 2 ^ (-e).toNat ≤ m * 2 ^ e.toNat := by
            calc 2 ^ (-e).toNat ≤ 2 ^ 52 := Nat.pow_le_pow_right two_pos (by omega)
              _ ≤ m := digits
              _ ≤ m * 2 ^ e.toNat := Nat.le_mul_of_pos_right _ (by positivity)
          rw [truncate, twoPow, mantissa, exponent, sign]
          change (1 : Int) ≤ (m * 2 ^ e.toNat / 2 ^ (-e).toNat : Nat)
          exact_mod_cast (Nat.one_le_div_iff (by positivity)).mpr covered

end TagWeave.Number
