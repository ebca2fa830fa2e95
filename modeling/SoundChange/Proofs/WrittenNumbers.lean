import Mathlib.Data.Nat.Digits.Defs
import Mathlib.Tactic.Ring
import SoundChange.Number.Whole

/-! Whole numbers as they are written: decimal digits, the first one worth most, behind at most one sign.
Reading a text as a whole number gives exactly the number that is written there. -/
namespace SoundChange.WrittenNumbers
open Number

/-- The characters of digits. -/
def numeral (digits : List (Fin 10)) : List Char :=
  digits.map fun digit => digit.val.digitChar

/-- The number that digits denote, the first one worth most. -/
def valueOf (digits : List (Fin 10)) : Nat :=
  Nat.ofDigits 10 (digits.reverse.map Fin.val)

/-- The texts that write a whole number: one or more digits, behind at most one sign. -/
inductive Writes : List Char → Int → Prop
  | unsigned {digits : List (Fin 10)} (given : digits ≠ []) : Writes (numeral digits) (valueOf digits)
  | plus {digits : List (Fin 10)} (given : digits ≠ []) :
    Writes ('+' :: numeral digits) (valueOf digits)
  | minus {digits : List (Fin 10)} (given : digits ≠ []) :
    Writes ('-' :: numeral digits) (-(valueOf digits))

theorem valueOf_cons (digit : Fin 10) (digits : List (Fin 10)) :
    valueOf (digit :: digits) = digit * 10 ^ digits.length + valueOf digits := by
  rw [valueOf, List.reverse_cons, List.map_append, List.map_singleton, Nat.ofDigits_append,
    Nat.ofDigits_singleton, List.length_map, List.length_reverse, valueOf, Nat.add_comm, Nat.mul_comm]

theorem digit?_digitChar (digit : Fin 10) : digit? digit.val.digitChar = some digit.val := by
  revert digit
  decide

/-- The characters that are read as digits are those that write one. -/
theorem digit?_eq_some_iff {c : Char} {value : Nat} :
    digit? c = some value ↔ ∃ digit : Fin 10, c = digit.val.digitChar ∧ value = digit := by
  constructor
  · intro read
    rw [digit?] at read
    split at read
    · rename_i within
      have low : 48 ≤ c.toNat := UInt32.le_iff_toNat_le.mp within.1
      have high : c.toNat ≤ 57 := UInt32.le_iff_toNat_le.mp within.2
      cases read
      have zero : '0'.toNat = 48 := rfl
      have below : c.toNat - '0'.toNat < 10 := by omega
      have same : c = (c.toNat - '0'.toNat).digitChar := by
        apply Char.toNat_inj.mp
        rw [Nat.toNat_digitChar_of_lt_ten below]
        omega
      exact ⟨⟨_, below⟩, same, rfl⟩
    · cases read
  · rintro ⟨digit, rfl, rfl⟩
    exact digit?_digitChar digit

/-- Digits that are read behind a number write it further, each making tenfold what came before. -/
theorem digitsFrom_eq_some_iff {text : List Char} {start value : Nat} :
    digitsFrom start text = some value ↔
      ∃ digits, text = numeral digits ∧ value = start * 10 ^ digits.length + valueOf digits := by
  induction text generalizing start with
  | nil =>
    have none_left {digits : List (Fin 10)} : [] = numeral digits ↔ digits = [] := by
      rw [numeral, eq_comm, List.map_eq_nil_iff]
    simp [digitsFrom, none_left, valueOf, eq_comm]
  | cons c rest ih =>
    rw [digitsFrom]
    constructor
    · intro read
      split at read
      · rename_i first found
        obtain ⟨digit, rfl, rfl⟩ := digit?_eq_some_iff.mp found
        obtain ⟨digits, rfl, rfl⟩ := ih.mp read
        refine ⟨digit :: digits, rfl, ?_⟩
        rw [valueOf_cons, List.length_cons, Nat.pow_succ]
        ring
      · cases read
    · rintro ⟨digits, spelled, rfl⟩
      cases digits with
      | nil => cases spelled
      | cons digit digits =>
        obtain ⟨rfl, rfl⟩ := List.cons.inj spelled
        simp only [digit?_digitChar]
        refine ih.mpr ⟨digits, rfl, ?_⟩
        rw [valueOf_cons, List.length_cons, Nat.pow_succ]
        ring

theorem natural?_eq_some_iff {text : List Char} {value : Nat} :
    natural? text = some value ↔
      ∃ digits, digits ≠ [] ∧ text = numeral digits ∧ value = valueOf digits := by
  cases text with
  | nil =>
    simp only [natural?, reduceCtorEq, false_iff]
    rintro ⟨digits, given, spelled, -⟩
    exact given (List.map_eq_nil_iff.mp spelled.symm)
  | cons c rest =>
    rw [natural?, digitsFrom_eq_some_iff]
    constructor
    · rintro ⟨digits, spelled, rfl⟩
      refine ⟨digits, ?_, spelled, by simp⟩
      rintro rfl
      cases spelled
    · rintro ⟨digits, -, spelled, rfl⟩
      exact ⟨digits, spelled, by simp⟩

/-- No numeral starts with a sign. -/
theorem starts_of_numeral {c : Char} {rest : List Char} {digits : List (Fin 10)}
    (spelled : c :: rest = numeral digits) : c ≠ '+' ∧ c ≠ '-' := by
  cases digits with
  | nil => cases spelled
  | cons digit digits =>
    obtain ⟨rfl, -⟩ := List.cons.inj spelled
    clear spelled
    revert digit
    decide

/-- A text is read as a whole number exactly if it writes that number. -/
theorem whole?_eq_some_iff {text : List Char} {n : Int} : whole? text = some n ↔ Writes text n := by
  constructor
  · intro read
    rw [whole?.eq_def] at read
    split at read
    all_goals
      obtain ⟨value, found, rfl⟩ := Option.map_eq_some_iff.mp read
      obtain ⟨digits, given, rfl, rfl⟩ := natural?_eq_some_iff.mp found
    · exact .plus given
    · exact .minus given
    · exact .unsigned given
  · intro written
    cases written with
    | @unsigned digits given =>
      have found := natural?_eq_some_iff.mpr ⟨digits, given, rfl, rfl⟩
      rw [whole?.eq_def]
      split
      · rename_i spelled
        exact absurd rfl (starts_of_numeral spelled.symm).1
      · rename_i spelled
        exact absurd rfl (starts_of_numeral spelled.symm).2
      · rw [found]
        rfl
    | @plus digits given =>
      have found := natural?_eq_some_iff.mpr ⟨digits, given, rfl, rfl⟩
      rw [whole?, found]
      rfl
    | @minus digits given =>
      have found := natural?_eq_some_iff.mpr ⟨digits, given, rfl, rfl⟩
      rw [whole?, found]
      rfl

end SoundChange.WrittenNumbers
