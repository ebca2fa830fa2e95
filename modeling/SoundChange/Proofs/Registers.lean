import SoundChange.Proofs.WrittenNumbers

/-! Numbers in registers. A decimal number is read into a signed register of 128 bits digit by digit, and
reading stops at the first step whose result does not fit. Numbers only move away from zero on the way, so
reading stops exactly if the whole number does not fit. -/
namespace SoundChange.Registers
open Number WrittenNumbers

/-- The whole numbers that a signed register of 128 bits holds. -/
def Fits (n : Int) : Prop :=
  -2 ^ 127 ≤ n ∧ n < 2 ^ 127

instance (n : Int) : Decidable (Fits n) :=
  inferInstanceAs (Decidable (_ ∧ _))

/-- The result of a step in registers, if the step does not overflow. -/
def checked? (overflows : Bool) (result : BitVec 128) : Option (BitVec 128) :=
  if overflows then none else some result

def checkedMul? (first second : BitVec 128) : Option (BitVec 128) :=
  checked? (first.smulOverflow second) (first * second)

def checkedAdd? (first second : BitVec 128) : Option (BitVec 128) :=
  checked? (first.saddOverflow second) (first + second)

def checkedSub? (first second : BitVec 128) : Option (BitVec 128) :=
  checked? (first.ssubOverflow second) (first - second)

/-- A register with one more decimal digit, which counts down in a negative number. -/
def push? (negative : Bool) (register digit : BitVec 128) : Option (BitVec 128) :=
  (checkedMul? register 10#128).bind fun tenfold =>
    if negative then checkedSub? tenfold digit else checkedAdd? tenfold digit

/-- The number that digits continue in a register. -/
def registerFrom? (negative : Bool) : BitVec 128 → List Char → Option (BitVec 128)
  | register, [] => some register
  | register, c :: rest =>
    match digit? c with
    | some digit =>
      (push? negative register (BitVec.ofNat 128 digit)).bind (registerFrom? negative · rest)
    | none => none

def registerOf? (negative : Bool) : List Char → Option (BitVec 128)
  | [] => none
  | c :: rest => registerFrom? negative 0#128 (c :: rest)

/-- The register after reading a number with at most one sign. -/
def register? : List Char → Option (BitVec 128)
  | '+' :: digits => registerOf? false digits
  | '-' :: digits => registerOf? true digits
  | digits => registerOf? false digits

/-- The register that holds a number, if it fits. -/
def held? (n : Int) : Option (BitVec 128) :=
  if Fits n then some (BitVec.ofInt 128 n) else none

/-- A number below or above zero. -/
def signed (negative : Bool) (value : Nat) : Int :=
  if negative then -value else value

/-! Steps in registers. -/

/-- A number that fits is read back from its register. -/
theorem toInt_ofInt {n : Int} (fits : Fits n) : (BitVec.ofInt 128 n).toInt = n :=
  BitVec.toInt_ofInt_eq_self (by decide) fits.1 fits.2

/-- A step that is checked for an overflow holds the number that it should come to, or nothing. -/
theorem checked?_eq (n : Int) :
    checked? (decide (n ≥ 2 ^ 127) || decide (n < -2 ^ 127)) (BitVec.ofInt 128 n) = held? n := by
  have outside : (n ≥ 2 ^ 127 ∨ n < -2 ^ 127) ↔ ¬ Fits n := by
    rw [Fits]
    omega
  rw [checked?, held?, ← Bool.decide_or]
  by_cases fits : Fits n
  · rw [if_pos fits, decide_eq_false (mt outside.mp (not_not_intro fits))]
    rfl
  · rw [if_neg fits, decide_eq_true (outside.mpr fits)]
    rfl

section Overflow
variable {m n : Int} (fits_first : Fits m) (fits_second : Fits n)
include fits_first fits_second

theorem checkedMul?_ofInt :
    checkedMul? (BitVec.ofInt 128 m) (BitVec.ofInt 128 n) = held? (m * n) := by
  rw [checkedMul?, BitVec.smulOverflow, toInt_ofInt fits_first, toInt_ofInt fits_second,
    ← BitVec.ofInt_mul]
  exact checked?_eq (m * n)

theorem checkedAdd?_ofInt :
    checkedAdd? (BitVec.ofInt 128 m) (BitVec.ofInt 128 n) = held? (m + n) := by
  rw [checkedAdd?, BitVec.saddOverflow, toInt_ofInt fits_first, toInt_ofInt fits_second,
    ← BitVec.ofInt_add]
  exact checked?_eq (m + n)

theorem checkedSub?_ofInt :
    checkedSub? (BitVec.ofInt 128 m) (BitVec.ofInt 128 n) = held? (m - n) := by
  have difference : BitVec.ofInt 128 m - BitVec.ofInt 128 n = BitVec.ofInt 128 (m - n) := by
    rw [Int.sub_eq_add_neg, BitVec.ofInt_add, BitVec.ofInt_neg, BitVec.sub_eq_add_neg]
  rw [checkedSub?, BitVec.ssubOverflow, toInt_ofInt fits_first, toInt_ofInt fits_second, difference]
  exact checked?_eq (m - n)

end Overflow

/-- One more digit gives the number with this digit, or nothing if that does not fit: a tenfold number that
does not fit is no nearer to zero with the digit. -/
theorem push?_eq {negative : Bool} {value digit : Nat} (fits : Fits (signed negative value))
    (small : digit < 10) :
    push? negative (BitVec.ofInt 128 (signed negative value)) (BitVec.ofNat 128 digit) =
      held? (signed negative (value * 10 + digit)) := by
  have fits_digit : Fits digit := ⟨by omega, by omega⟩
  have fits_ten : Fits 10 := by decide
  have tenfold := checkedMul?_ofInt fits fits_ten
  rw [BitVec.ofInt_ofNat] at tenfold
  rw [push?, tenfold, held?]
  by_cases fits_tenfold : Fits (signed negative value * 10)
  · rw [if_pos fits_tenfold, Option.bind_some]
    cases negative with
    | true =>
      refine (checkedSub?_ofInt fits_tenfold fits_digit).trans (congrArg held? ?_)
      simp only [signed, ↓reduceIte]
      omega
    | false =>
      refine (checkedAdd?_ofInt fits_tenfold fits_digit).trans (congrArg held? ?_)
      simp only [signed, Bool.false_eq_true, ↓reduceIte]
      omega
  · have no_fit : ¬ Fits (signed negative (value * 10 + digit)) := by
      cases negative <;> simp only [signed, Fits, ↓reduceIte, Bool.false_eq_true] at fits_tenfold ⊢ <;> omega
    rw [if_neg fits_tenfold, Option.bind_none, held?, if_neg no_fit]

theorem digit?_lt {c : Char} {digit : Nat} (read : digit? c = some digit) : digit < 10 := by
  obtain ⟨digit, -, rfl⟩ := digit?_eq_some_iff.mp read
  exact digit.isLt

/-- More digits never make a smaller number. -/
theorem le_of_digitsFrom {text : List Char} {start value : Nat}
    (read : digitsFrom start text = some value) : start ≤ value := by
  obtain ⟨digits, -, rfl⟩ := digitsFrom_eq_some_iff.mp read
  have grown : start * 1 ≤ start * 10 ^ digits.length :=
    Nat.mul_le_mul_left start (Nat.one_le_pow' _ _)
  omega

/-- Numbers only move away from zero while digits are read. -/
theorem fits_of_further {negative : Bool} {near far : Nat} (further : near ≤ far)
    (fits : Fits (signed negative far)) : Fits (signed negative near) := by
  cases negative <;> simp only [signed, Fits, ↓reduceIte, Bool.false_eq_true] at fits ⊢ <;> omega

/-- Digits that are pushed one by one leave the number that they write, if it fits. -/
theorem registerFrom?_eq {negative : Bool} {start : Nat} (fits : Fits (signed negative start))
    (text : List Char) :
    registerFrom? negative (BitVec.ofInt 128 (signed negative start)) text =
      (digitsFrom start text).bind fun value => held? (signed negative value) := by
  induction text generalizing start with
  | nil => simp [registerFrom?, digitsFrom, held?, fits]
  | cons c rest ih =>
    rw [registerFrom?, digitsFrom]
    cases read : digit? c with
    | none => rfl
    | some digit =>
      simp only [push?_eq fits (digit?_lt read)]
      by_cases fits_next : Fits (signed negative (start * 10 + digit))
      · rw [held?, if_pos fits_next, Option.bind_some, ih fits_next]
      · rw [held?, if_neg fits_next, Option.bind_none]
        cases later : digitsFrom (start * 10 + digit) rest with
        | none => rfl
        | some value =>
          have no_fit : ¬ Fits (signed negative value) := fun fits =>
            fits_next (fits_of_further (le_of_digitsFrom later) fits)
          rw [Option.bind_some, held?, if_neg no_fit]

theorem registerOf?_eq (negative : Bool) (text : List Char) :
    registerOf? negative text = (natural? text).bind (held? ∘ signed negative) := by
  cases text with
  | nil => rfl
  | cons c rest =>
    have zero : (0#128 : BitVec 128) = BitVec.ofInt 128 (signed negative 0) := by
      cases negative <;> rfl
    rw [registerOf?, zero, natural?]
    exact registerFrom?_eq (by cases negative <;> decide) (c :: rest)

/-- Reading in a register is reading the number and then holding it. -/
theorem register?_eq (text : List Char) : register? text = (whole? text).bind held? := by
  have above : Int.ofNat = signed false := rfl
  have below : (fun value => -Int.ofNat value) = signed true := rfl
  rw [register?.eq_def]
  split
  · rw [registerOf?_eq, whole?, above, Option.bind_map]
  · rw [registerOf?_eq, whole?, below, Option.bind_map]
  · rw [registerOf?_eq, whole?, above, Option.bind_map]
    · assumption
    · assumption

end SoundChange.Registers
