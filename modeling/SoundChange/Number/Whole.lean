/-!
Whole numbers in decimal: an optional sign and one or more ASCII digits, with any number of leading
zeros. `wholeWithin?` also refuses numbers outside given bounds.
-/
namespace SoundChange.Number

/-- The value of one ASCII digit. -/
def digit? (c : Char) : Option Nat :=
  if '0' ≤ c ∧ c ≤ '9' then some (c.toNat - '0'.toNat) else none

/-- The number that a list of digits continues, most significant digit first. -/
def digitsFrom (value : Nat) : List Char → Option Nat
  | [] => some value
  | c :: rest =>
    match digit? c with
    | some d => digitsFrom (value * 10 + d) rest
    | none => none

/-- The value of one or more digits. -/
def natural? : List Char → Option Nat
  | [] => none
  | c :: rest => digitsFrom 0 (c :: rest)

/-- The value of an optionally signed number. -/
def whole? : List Char → Option Int
  | '+' :: digits => (natural? digits).map Int.ofNat
  | '-' :: digits => (natural? digits).map fun n => -(Int.ofNat n)
  | digits => (natural? digits).map Int.ofNat

/-- The value of an optionally signed number that lies in the half-open range `low ≤ n < high`. -/
def wholeWithin? (low high : Int) (text : List Char) : Option Int :=
  match whole? text with
  | some n => if low ≤ n ∧ n < high then some n else none
  | none => none

end SoundChange.Number
