import SoundChange.Json.Token

/-!
The value of a number. Whole numbers that fit into sixty-four bits stay whole. Every other number is
a double: a significand of at most sixty-four bits, multiplied or divided by one power of ten.
Digits that do not fit into the significand only count towards the exponent when they stand before
the decimal point, and are dropped when they stand behind it.
-/
namespace SoundChange.Json

/-- The largest significand. -/
def significandLimit : Nat := Nat.pow 2 64

/-- The double nearest to a power of ten from zero to three hundred and eight. -/
def powerOfTen (exponent : Nat) : Float :=
  (Number.doubleOfDecimal? 1 exponent).getD 0.0

/-- Divides by powers of ten until the exponent is in reach of one power. -/
def scaleDown : Nat → Float → Float
  | exponent, x =>
    if exponent ≤ 308 then x / powerOfTen exponent
    else if x == 0.0 then x
    else scaleDown (exponent - 308) (x / powerOfTen 308)
termination_by exponent => exponent
decreasing_by omega

/-- A significand times a power of ten; none if that is too large for a double. -/
def scaled? (significand : Nat) (exponent : Int) : Option Float :=
  let x := Number.doubleOfNat significand
  if exponent < 0 then some (scaleDown exponent.natAbs x)
  else if exponent ≤ 308 then
    let y := x * powerOfTen exponent.toNat
    if y.isInf then none else some y
  else if significand = 0 then some x
  else none

/-- Takes digits into a significand while they fit; the number of digits left over. -/
def gatherWhole (significand : Nat) : List Char → Nat × Nat
  | [] => (significand, 0)
  | c :: rest =>
    let next := significand * 10 + (c.toNat - '0'.toNat)
    if next < significandLimit then gatherWhole next rest
    else (significand, (c :: rest).length)

/-- Takes digits behind the decimal point into a significand while they fit; their number. -/
def gatherFraction (significand : Nat) : List Char → Nat × Nat
  | [] => (significand, 0)
  | c :: rest =>
    let next := significand * 10 + (c.toNat - '0'.toNat)
    if next < significandLimit then
      let (s, count) := gatherFraction next rest
      (s, count + 1)
    else (significand, 0)

namespace Numeral

/-- The size of a number that is not whole, none if it is too large for a double. -/
def magnitude? (numeral : Numeral) : Option Float :=
  let (significand, beyond) := gatherWhole 0 numeral.whole
  let (significand, places) := gatherFraction significand (numeral.fraction.getD [])
  scaled? significand (Int.ofNat beyond - Int.ofNat places + numeral.exponent.getD 0)

/-- The value of a number written without point and exponent, if it fits into sixty-four bits. -/
def whole? (numeral : Numeral) : Option Int :=
  if numeral.fraction.isSome || numeral.exponent.isSome then none
  else
    let n := natOfDigits numeral.whole
    if numeral.negative then
      if 0 < n ∧ n ≤ Nat.pow 2 63 then some (-(Int.ofNat n)) else none
    else if n < Nat.pow 2 64 then some (Int.ofNat n)
    else none

/-- The value of a number; none if it is too large for a double. -/
def value? (numeral : Numeral) : Option Value :=
  match numeral.whole? with
  | some n => some (.integer n)
  | none =>
    numeral.magnitude?.map fun x => .real (if numeral.negative then -x else x)

end Numeral

end SoundChange.Json
