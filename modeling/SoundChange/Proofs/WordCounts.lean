import SoundChange.Proofs.Registers
import SoundChange.Request

/-! Word counts. What a text says about the number of words is decided by the whole number that it writes,
if there is one of 128 bits, and by nothing else. The same answer comes from registers of fixed width,
where every step that could overflow is checked: no number is cut off or wraps around on the way. -/
namespace SoundChange.WordCounts
open Number Registers Text WrittenNumbers

/-- What a text says about the number of words. -/
inductive Decided (raw : String) : Except InputFault Nat → Prop
  | nonPositive {n : Int} (written : Writes (trim raw.toList) n) (fits : Fits n) (low : n ≤ 0) :
    Decided raw (.error .nonPositiveWordCount)
  | count {n : Nat} (written : Writes (trim raw.toList) n) (positive : 1 ≤ n) (limited : n ≤ 10000) :
    Decided raw (.ok n)
  | tooMany {n : Int} (written : Writes (trim raw.toList) n) (fits : Fits n) (high : 10000 < n) :
    Decided raw (.error (.tooManyWords 10000))
  | invalid (unwritten : ∀ n, Writes (trim raw.toList) n → ¬ Fits n) :
    Decided raw (.error (.invalidWordCount raw))

/-- A signed number in an unsigned register of 64 bits, if it fits there. -/
def narrow? (register : BitVec 128) : Option (BitVec 64) :=
  if 0 ≤ register.toInt ∧ register.toInt < 2 ^ 64 then some (register.setWidth 64) else none

/-- A count in an unsigned register, if it is neither zero nor above the limit. -/
def limited? (register : BitVec 128) : Option (BitVec 64) :=
  (narrow? register).filter fun count =>
    count.ule (BitVec.ofNat 64 wordLimit) && count != 0#64

/-- The number of words, read in registers. -/
def countInRegisters (raw : String) : Except InputFault (BitVec 64) :=
  match register? (trim raw.toList) with
  | none => .error (.invalidWordCount raw)
  | some register =>
    if register.sle 0#128 then .error .nonPositiveWordCount
    else
      match limited? register with
      | some count => .ok count
      | none => .error (.tooManyWords wordLimit)

/-! Reading whole numbers. -/

theorem within_iff (n : Int) : countLow ≤ n ∧ n < countHigh ↔ Fits n :=
  Iff.rfl

/-- The numbers that are read are those of 128 bits that a text writes. -/
theorem wholeWithin?_eq_some_iff {text : List Char} {n : Int} :
    wholeWithin? countLow countHigh text = some n ↔ Writes text n ∧ Fits n := by
  rw [wholeWithin?, ← whole?_eq_some_iff]
  cases whole? text with
  | none => simp
  | some m =>
    simp only [within_iff, Option.ite_none_right_eq_some, Option.some.injEq]
    constructor
    · rintro ⟨fits, rfl⟩
      exact ⟨rfl, fits⟩
    · rintro ⟨rfl, fits⟩
      exact ⟨fits, rfl⟩

/-- A register holds the number that is written, if it fits. -/
theorem register?_eq_map (text : List Char) :
    register? text = (wholeWithin? countLow countHigh text).map (BitVec.ofInt 128) := by
  rw [register?_eq, wholeWithin?]
  cases whole? text with
  | none => rfl
  | some n =>
    simp only [Option.bind_some, held?, within_iff]
    by_cases fits : Fits n <;> simp [fits]

/-! From a register to a count. -/

theorem sle_zero {n : Int} (fits : Fits n) : (BitVec.ofInt 128 n).sle 0#128 ↔ n ≤ 0 := by
  rw [BitVec.sle_iff_toInt_le, toInt_ofInt fits, BitVec.toInt_zero]

theorem toNat_ofNat_of_small {count : Nat} (small : count < 2 ^ 64) :
    (BitVec.ofNat 64 count).toNat = count := by
  rw [BitVec.toNat_ofNat, Nat.mod_eq_of_lt small]

/-- A small number goes from a register of 128 bits into one of 64 bits. -/
theorem narrow?_eq_some {count : Nat} (small : count < 2 ^ 64) :
    narrow? (BitVec.ofInt 128 count) = some (BitVec.ofNat 64 count) := by
  have fits : Fits count := ⟨by omega, by omega⟩
  have within : 0 ≤ (BitVec.ofInt 128 count).toInt ∧ (BitVec.ofInt 128 count).toInt < 2 ^ 64 := by
    rw [toInt_ofInt fits]
    omega
  rw [narrow?, if_pos within, BitVec.ofInt_natCast, BitVec.setWidth_ofNat_of_le (by decide)]

theorem limited?_eq_some {count : Nat} (positive : 0 < count) (limited : count ≤ wordLimit) :
    limited? (BitVec.ofInt 128 count) = some (BitVec.ofNat 64 count) := by
  have limit : wordLimit = 10000 := rfl
  have value : (BitVec.ofNat 64 count).toNat = count := toNat_ofNat_of_small (by omega)
  have below : (BitVec.ofNat 64 count).ule (BitVec.ofNat 64 wordLimit) := by
    rw [BitVec.ule_iff_toNat_le, value]
    exact limited
  have other : BitVec.ofNat 64 count ≠ 0#64 := fun same => by
    have zero := congrArg BitVec.toNat same
    rw [value] at zero
    exact absurd zero (Nat.ne_of_gt positive)
  rw [limited?, narrow?_eq_some (by omega)]
  simp [below, other]

/-- A register above the limit is refused, not cut off. -/
theorem limited?_eq_none {n : Int} (fits : Fits n) (high : (wordLimit : Int) < n) :
    limited? (BitVec.ofInt 128 n) = none := by
  have limit : wordLimit = 10000 := rfl
  obtain ⟨count, rfl⟩ := Int.eq_ofNat_of_zero_le (show 0 ≤ n by omega)
  by_cases small : count < 2 ^ 64
  · have above : ¬ (BitVec.ofNat 64 count).ule (BitVec.ofNat 64 wordLimit) := by
      rw [BitVec.ule_iff_toNat_le, toNat_ofNat_of_small small, toNat_ofNat_of_small (by decide)]
      omega
    rw [limited?, narrow?_eq_some small]
    simp [above]
  · rw [limited?, narrow?, toInt_ofInt fits, if_neg (by omega), Option.filter_none]

/-- The checked registers give the answer that is read. -/
theorem countInRegisters_eq (raw : String) :
    (countInRegisters raw).map BitVec.toNat = readWordCount raw := by
  rw [countInRegisters, register?_eq_map, readWordCount]
  cases read : wholeWithin? countLow countHigh (trim raw.toList) with
  | none => rfl
  | some n =>
    obtain ⟨-, fits⟩ := wholeWithin?_eq_some_iff.mp read
    simp only [Option.map_some]
    by_cases low : n ≤ 0
    · rw [if_pos ((sle_zero fits).mpr low), if_pos low]
      rfl
    · rw [if_neg (mt (sle_zero fits).mp low), if_neg low]
      by_cases limited : n ≤ wordLimit
      · obtain ⟨count, rfl⟩ := Int.eq_ofNat_of_zero_le (Int.le_of_lt (Int.not_le.mp low))
        have limit : wordLimit = 10000 := rfl
        have value : (BitVec.ofNat 64 count).toNat = count := toNat_ofNat_of_small (by omega)
        rw [limited?_eq_some (by omega) (by omega), if_pos limited]
        exact congrArg Except.ok value
      · rw [limited?_eq_none fits (Int.not_le.mp limited), if_neg limited]
        rfl

/-! What is read. -/

theorem decided_readWordCount (raw : String) : Decided raw (readWordCount raw) := by
  rw [readWordCount]
  cases read : wholeWithin? countLow countHigh (trim raw.toList) with
  | none =>
    refine .invalid fun n written fits => ?_
    rw [wholeWithin?_eq_some_iff.mpr ⟨written, fits⟩] at read
    cases read
  | some n =>
    obtain ⟨written, fits⟩ := wholeWithin?_eq_some_iff.mp read
    by_cases low : n ≤ 0
    · simpa only [low, ↓reduceIte] using .nonPositive written fits low
    · by_cases limited : n ≤ wordLimit
      · obtain ⟨count, rfl⟩ := Int.eq_ofNat_of_zero_le (Int.le_of_lt (Int.not_le.mp low))
        have limit : wordLimit = 10000 := rfl
        simpa only [low, limited, ↓reduceIte] using .count written (by omega) (by omega)
      · simpa only [low, limited, ↓reduceIte] using .tooMany written fits (Int.not_le.mp limited)

theorem readWordCount_of_decided {raw : String} {answer : Except InputFault Nat}
    (decided : Decided raw answer) : readWordCount raw = answer := by
  have limit : wordLimit = 10000 := rfl
  cases decided with
  | nonPositive written fits low =>
    rw [readWordCount, wholeWithin?_eq_some_iff.mpr ⟨written, fits⟩]
    exact if_pos low
  | @count count written positive limited =>
    have fits : Fits count := ⟨by omega, by omega⟩
    rw [readWordCount, wholeWithin?_eq_some_iff.mpr ⟨written, fits⟩]
    exact (if_neg (by omega)).trans (if_pos (by omega))
  | tooMany written fits high =>
    rw [readWordCount, wholeWithin?_eq_some_iff.mpr ⟨written, fits⟩]
    exact (if_neg (by omega)).trans (if_neg (by omega))
  | invalid unwritten =>
    cases read : wholeWithin? countLow countHigh (trim raw.toList) with
    | none => rw [readWordCount, read]
    | some n =>
      obtain ⟨written, fits⟩ := wholeWithin?_eq_some_iff.mp read
      exact absurd fits (unwritten n written)

/-- The number of words goes by the trimmed text alone. A whole number of 128 bits that is written there is
refused up to zero and above ten thousand, and is the number of words in between; any other text is refused
as it was typed. Registers of 128 and then 64 bits, with every step checked, come to the same answer. -/
theorem word_counts_read_exactly (raw : String) :
    (∀ answer, readWordCount raw = answer ↔ Decided raw answer) ∧
      (countInRegisters raw).map BitVec.toNat = readWordCount raw := by
  refine ⟨?_, countInRegisters_eq raw⟩
  intro answer
  constructor
  · rintro rfl
    exact decided_readWordCount raw
  · exact readWordCount_of_decided

end SoundChange.WordCounts
