import Mathlib.Algebra.Order.Field.Power
import Mathlib.Tactic.NormNum.Pow
import Mathlib.Tactic.Positivity
import SoundChange.Random.Choice

/-! Fractions against numbers of thirty-two bits. A word counts as a fraction of one, and a choice compares
it with a threshold instead of with the number the threshold was made of. Both comparisons are the same
one of exact rationals: what a number is follows from its bits, case by case, and the rounding that makes
the threshold loses nothing, because no fraction lies strictly between a quotient and its ceiling. -/
namespace SoundChange.Fractions
open SoundChange.Random SoundChange.Number
open Float.Model (UnpackedFloat)
open Float.Model.Format (binary32)

/-- Whether a word, as a fraction of one, is at least a number. -/
def AtLeast (word : UInt32) : UnpackedFloat → Prop
  | .notANumber => False
  | .infinity .positive => False
  | .infinity .negative => True
  | .zero _ => True
  | .finite .negative _ _ _ => True
  | .finite .positive mantissa exponent _ =>
    (mantissa : ℚ) * 2 ^ exponent ≤ fraction word / 2 ^ 24

/-- Whether a word, as a fraction of one, is at least a number of thirty-two bits. -/
def Reaches (word : UInt32) (share : Float32) : Prop :=
  AtLeast word share.toModel.unpack

/-- A fraction has twenty-four bits, so it is below one. -/
theorem fraction_lt (word : UInt32) : fraction word < 2 ^ 24 := by
  have bound := word.toNat_lt
  have shifted : fraction word = word.toNat / 2 ^ 8 := by
    rw [fraction, UInt32.toNat_shiftRight, Nat.shiftRight_eq_div_pow]
    rfl
  omega

/-! What the bits of a number say. -/

section Bits
variable (b : BitVec 32)

/-- The exponent is in the eight bits after the sign. -/
theorem toNat_unpackExponent :
    (@UnpackedFloat.unpackExponent binary32 b).toNat = b.toNat / 2 ^ 23 % 2 ^ 8 := by
  simp [UnpackedFloat.unpackExponent, Nat.shiftRight_eq_div_pow]

theorem toNat_unpackMantissa :
    (@UnpackedFloat.unpackMantissa binary32 b).toNat = b.toNat % 2 ^ 23 := by
  simp [UnpackedFloat.unpackMantissa]

theorem unpackSign_eq :
    UnpackedFloat.Sign.ofBitVec (@UnpackedFloat.unpackSign binary32 b) =
      if b.toNat < 2 ^ 31 then .positive else .negative := by
  have bound := b.isLt
  have bit : (@UnpackedFloat.unpackSign binary32 b).toNat = b.toNat / 2 ^ 31 := by
    delta UnpackedFloat.unpackSign
    simp [Nat.shiftRight_eq_div_pow]
    omega
  rw [UnpackedFloat.Sign.ofBitVec]
  congr 1
  rw [← BitVec.toNat_inj, bit]
  simp

/-- What a number is, read off its sign and the bits after the sign. -/
inductive Shape (sign : UnpackedFloat.Sign) : ℕ → UnpackedFloat → Prop
  | infinity : Shape sign (255 * 2 ^ 23) (.infinity sign)
  | notANumber {magnitude : ℕ} : Shape sign magnitude .notANumber
  | zero : Shape sign 0 (.zero sign)
  | subnormal {mantissa : ℕ} {exponent : ℤ} (positive : 0 < mantissa) (small : mantissa < 2 ^ 23)
      (least : exponent = -149) : Shape sign mantissa (.finite sign mantissa exponent positive)
  | normal {mantissa biased significand : ℕ} {exponent : ℤ} (positive : 0 < significand)
      (small : mantissa < 2 ^ 23) (raised : 0 < biased) (leading : significand = 2 ^ 23 + mantissa)
      (unbiased : exponent = biased - 150) :
      Shape sign (biased * 2 ^ 23 + mantissa) (.finite sign significand exponent positive)

/-- Every pattern of bits has the shape that its sign and the bits after it say. -/
theorem shape_unpack :
    Shape (if b.toNat < 2 ^ 31 then .positive else .negative) (b.toNat % 2 ^ 31)
      (UnpackedFloat.unpack binary32 b) := by
  have exponent := toNat_unpackExponent b
  have mantissa := toNat_unpackMantissa b
  have parts : b.toNat % 2 ^ 31 = b.toNat / 2 ^ 23 % 2 ^ 8 * 2 ^ 23 + b.toNat % 2 ^ 23 := by omega
  have small : (@UnpackedFloat.unpackMantissa binary32 b).toNat < 2 ^ 23 := by omega
  rw [← unpackSign_eq, parts, ← exponent, ← mantissa]
  by_cases full : @UnpackedFloat.unpackExponent binary32 b = -BitVec.ofNat binary32.exponentBits 1
  · rw [full]
    by_cases empty : @UnpackedFloat.unpackMantissa binary32 b = 0
    · rw [show UnpackedFloat.unpack binary32 b = .infinity _ from
        (if_pos full).trans (if_pos empty), empty]
      exact .infinity
    · rw [show UnpackedFloat.unpack binary32 b = .notANumber from
        (if_pos full).trans (if_neg empty)]
      exact .notANumber
  by_cases low : @UnpackedFloat.unpackExponent binary32 b = BitVec.ofNat binary32.exponentBits 0
  · rw [low]
    by_cases empty : @UnpackedFloat.unpackMantissa binary32 b = 0
    · rw [show UnpackedFloat.unpack binary32 b = .zero _ from
        (if_neg full).trans ((if_pos low).trans (dif_pos empty)), empty]
      exact .zero
    · have start : (BitVec.ofNat binary32.exponentBits 0).toNat * 2 ^ 23 +
          (@UnpackedFloat.unpackMantissa binary32 b).toNat =
            (@UnpackedFloat.unpackMantissa binary32 b).toNat := by simp
      rw [show UnpackedFloat.unpack binary32 b = .finite _ _ _ _ from
        (if_neg full).trans ((if_pos low).trans (dif_neg empty)), start]
      exact .subnormal _ small (by rw [low]; rfl)
  · have raised : 0 < (@UnpackedFloat.unpackExponent binary32 b).toNat :=
      Nat.pos_of_ne_zero fun none => low (BitVec.eq_of_toNat_eq none)
    rw [show UnpackedFloat.unpack binary32 b = .finite _ _ _ _ from
      (if_neg full).trans (if_neg low)]
    refine .normal _ small raised ?_ rfl
    rw [BitVec.toNat_append, ← Nat.shiftLeft_add_eq_or_of_lt small]
    rfl

theorem isNaN_eq (share : Float32) : share.isNaN = share.toModel.unpack.isNaN := rfl

/-- There is one way not to be a number. -/
theorem unpack_of_nan {share : Float32} (nan : share.isNaN = true) :
    share.toModel.unpack = .notANumber := by
  rw [isNaN_eq] at nan
  generalize share.toModel.unpack = unpacked at nan ⊢
  cases unpacked with
  | notANumber => rfl
  | infinity => cases nan
  | zero => cases nan
  | finite => cases nan

end Bits

/-! The number that bits without a sign stand for. -/

section Values
variable {magnitude mantissa biased : ℕ} {unpacked : UnpackedFloat}

/-- Bits without an exponent stand for their own number of the smallest units. -/
theorem unpack_of_low (small : mantissa < 2 ^ 23) :
    Format.single.unpack mantissa = (mantissa, -149) :=
  if_pos small

theorem unpack_of_high (small : mantissa < 2 ^ 23) (raised : 0 < biased) :
    Format.single.unpack (biased * 2 ^ 23 + mantissa) =
      (2 ^ 23 + mantissa, (biased : ℤ) - 150) := by
  have large : ¬ biased * 2 ^ 23 + mantissa < 2 ^ 23 := by omega
  have rest : (biased * 2 ^ 23 + mantissa) % 2 ^ 23 = mantissa := by omega
  have quotient : (biased * 2 ^ 23 + mantissa) / 2 ^ 23 = biased := by omega
  have exponent : -149 + Int.ofNat (biased - 1) = (biased : ℤ) - 150 := by
    rw [Int.ofNat_eq_natCast]
    omega
  have unpacked : Format.single.unpack (biased * 2 ^ 23 + mantissa) =
      if biased * 2 ^ 23 + mantissa < 2 ^ 23 then (biased * 2 ^ 23 + mantissa, -149)
      else (2 ^ 23 + (biased * 2 ^ 23 + mantissa) % 2 ^ 23,
        -149 + Int.ofNat ((biased * 2 ^ 23 + mantissa) / 2 ^ 23 - 1)) := rfl
  rw [unpacked, if_neg large, rest, quotient, exponent]

/-- A number above zero is compared with a fraction by its exact value. -/
theorem value_le_iff (shape : Shape .positive magnitude unpacked) (number : unpacked.isNaN = false)
    (word : UInt32) :
    ((Format.single.unpack magnitude).1 : ℚ) * 2 ^ (Format.single.unpack magnitude).2 ≤
      fraction word / 2 ^ 24 ↔ AtLeast word unpacked := by
  cases shape with
  | infinity =>
    -- The bits of infinity stand for a number as well, one that no fraction comes near.
    have below : (fraction word : ℚ) / 2 ^ 24 < 1 := by
      rw [div_lt_one (by positivity)]
      exact_mod_cast fraction_lt word
    have huge : (1 : ℚ) ≤ (2 ^ 23 : ℕ) * 2 ^ (105 : ℤ) := by norm_num
    exact iff_of_false (not_le.mpr (below.trans_le huge)) id
  | notANumber => cases number
  | zero =>
    rw [unpack_of_low (by positivity), Nat.cast_zero, zero_mul]
    exact iff_of_true (by positivity) trivial
  | subnormal positive small least =>
    subst least
    rw [unpack_of_low small]
    exact Iff.rfl
  | normal positive small raised leading unbiased =>
    subst leading unbiased
    rw [unpack_of_high small raised]
    exact Iff.rfl

end Values

/-! Thresholds. -/

/-- A quotient is rounded up to the least number that is not below it. -/
theorem roundUp_le_iff {n d : ℕ} (positive : 0 < d) (k : ℕ) : (n + d - 1) / d ≤ k ↔ n ≤ k * d := by
  rw [← Nat.lt_succ_iff, Nat.div_lt_iff_lt_mul positive, Nat.succ_mul]
  omega

/-- A number with an exponent is at most a whole number exactly if its rounded quotient is. -/
theorem scaledDown_le_iff (numerator k : ℕ) (exponent : ℤ) :
    ((scaleDown numerator 1 exponent).1 + (scaleDown numerator 1 exponent).2 - 1) /
        (scaleDown numerator 1 exponent).2 ≤ k ↔ (numerator : ℚ) ≤ k * 2 ^ exponent := by
  rw [scaleDown]
  split
  · rename_i negative
    obtain ⟨n, rfl⟩ : ∃ n : ℕ, exponent = -n := ⟨exponent.natAbs, by omega⟩
    have power : (0 : ℚ) < 2 ^ n := by positivity
    rw [roundUp_le_iff Nat.one_pos, Nat.pow_eq, Int.natAbs_neg, Int.natAbs_natCast, zpow_neg,
      zpow_natCast, ← div_eq_mul_inv, le_div_iff₀ power]
    exact_mod_cast Iff.of_eq (by rw [Nat.mul_one])
  · rename_i positive
    obtain ⟨n, rfl⟩ : ∃ n : ℕ, exponent = n := ⟨exponent.natAbs, by omega⟩
    rw [Nat.pow_eq, Int.natAbs_natCast, Nat.one_mul, roundUp_le_iff (by positivity), zpow_natCast]
    exact_mod_cast Iff.rfl

section Threshold
variable {share : Float32}

/-- No fraction comes up to the threshold of what is not a number. -/
theorem threshold_of_nan (nan : share.isNaN = true) : threshold share = fractions := by
  simp only [threshold, nan, ↓reduceIte]

theorem threshold_of_negative (number : share.isNaN = false)
    (negative : 2 ^ 31 ≤ share.toBits.toNat) : threshold share = 0 := by
  have above : share.toBits.toNat ≥ Nat.pow 2 31 := negative
  simp only [threshold, number, Bool.false_eq_true, ↓reduceIte, above]

theorem threshold_of_positive (number : share.isNaN = false)
    (positive : share.toBits.toNat < 2 ^ 31) (k : ℕ) :
    threshold share ≤ k ↔
      ((Format.single.unpack share.toBits.toNat).1 : ℚ) *
        2 ^ (Format.single.unpack share.toBits.toNat).2 ≤ k / 2 ^ 24 := by
  have below : ¬ share.toBits.toNat ≥ Nat.pow 2 31 := Nat.not_le.mpr positive
  simp only [threshold, number, Bool.false_eq_true, ↓reduceIte, below]
  rw [scaledDown_le_iff, le_div_iff₀ (by positivity), zpow_neg, zpow_add₀ (by norm_num),
    ← div_eq_mul_inv, le_div_iff₀ (by positivity), mul_assoc]
  norm_num

/-- Fractions are compared with a threshold as they are with the number it was made of. -/
theorem threshold_le_iff (share : Float32) (word : UInt32) :
    threshold share ≤ fraction word ↔ Reaches word share := by
  have shape := shape_unpack share.toBits.toBitVec
  have bits : UnpackedFloat.unpack binary32 share.toBits.toBitVec = share.toModel.unpack := rfl
  rw [bits, UInt32.toNat_toBitVec] at shape
  cases number : share.isNaN with
  | true =>
    rw [threshold_of_nan number, Reaches, unpack_of_nan number]
    exact iff_of_false (Nat.not_le.mpr (fraction_lt word)) id
  | false =>
    by_cases positive : share.toBits.toNat < 2 ^ 31
    · rw [if_pos positive, Nat.mod_eq_of_lt positive] at shape
      rw [threshold_of_positive number positive]
      exact value_le_iff shape number word
    · rw [if_neg positive] at shape
      rw [threshold_of_negative number (Nat.not_lt.mp positive), Reaches]
      rw [isNaN_eq] at number
      generalize share.toBits.toNat % 2 ^ 31 = magnitude at shape
      generalize share.toModel.unpack = unpacked at shape number
      refine iff_of_true (Nat.zero_le _) ?_
      cases shape with
      | notANumber => cases number
      | infinity => trivial
      | zero => trivial
      | subnormal => trivial
      | normal => trivial

end Threshold

end SoundChange.Fractions
