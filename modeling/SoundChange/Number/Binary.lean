/-!
Rounding to binary floating point. `Format.nearest?` finds the number of a format that is nearest to
a quotient of naturals, ties going to the even significand, in exact arithmetic; it answers none
when that number would be too large for the format. Numbers are written as a significand times a
power of two, and `Format.pattern` packs them into the bits of the format.
-/
namespace SoundChange.Number

/-- A binary format: the bits of a significand, and the exponents of the smallest and of the largest
unit in the last place. -/
structure Format where
  precision : Nat
  lowest : Int
  highest : Int
  deriving DecidableEq, Repr

namespace Format

/-- Sixty-four bits. -/
def double : Format := ⟨53, -1074, 971⟩

/-- Thirty-two bits. -/
def single : Format := ⟨24, -149, 104⟩

end Format

/-- The natural number nearest to a quotient; a half goes to the even neighbour. -/
def roundHalfEven (numerator denominator : Nat) : Nat :=
  let quotient := numerator / denominator
  let twice := 2 * (numerator % denominator)
  if twice > denominator || (twice == denominator && quotient % 2 == 1) then quotient + 1
  else quotient

/-- A quotient divided by a power of two, as numerator and denominator. -/
def scaleDown (numerator denominator : Nat) (exponent : Int) : Nat × Nat :=
  if exponent < 0 then (numerator * Nat.pow 2 exponent.natAbs, denominator)
  else (numerator, denominator * Nat.pow 2 exponent.natAbs)

namespace Format

/-- The exponent of the unit in which a positive quotient is rounded. -/
def unitOf (format : Format) (numerator denominator : Nat) : Int :=
  let size : Int := Int.ofNat numerator.log2 - Int.ofNat denominator.log2
  let guess := max format.lowest (size - format.precision)
  let (n, d) := scaleDown numerator denominator guess
  if n / d < Nat.pow 2 format.precision then guess else guess + 1

/-- The nearest number of a format, as significand and exponent. -/
def nearest? (format : Format) (numerator denominator : Nat) : Option (Nat × Int) :=
  if numerator = 0 then some (0, format.lowest)
  else
    let unit := format.unitOf numerator denominator
    let (n, d) := scaleDown numerator denominator unit
    let significand := roundHalfEven n d
    let (significand, unit) :=
      if significand = Nat.pow 2 format.precision then (Nat.pow 2 (format.precision - 1), unit + 1)
      else (significand, unit)
    if unit > format.highest then none else some (significand, unit)

/-- The bits of a non-negative number of a format. -/
def pattern (format : Format) (significand : Nat) (exponent : Int) : Nat :=
  let leading := Nat.pow 2 (format.precision - 1)
  if significand < leading then significand
  else ((exponent - format.lowest).toNat + 1) * leading + (significand - leading)

/-- The significand and exponent of the number with the given bits, the sign bit left out. -/
def unpack (format : Format) (pattern : Nat) : Nat × Int :=
  let leading := Nat.pow 2 (format.precision - 1)
  if pattern < leading then (pattern, format.lowest)
  else (leading + pattern % leading, format.lowest + Int.ofNat (pattern / leading - 1))

end Format

/-- The double nearest to a quotient, none if it is too large. -/
def doubleOfRatio? (numerator denominator : Nat) : Option Float :=
  (Format.double.nearest? numerator denominator).map fun (significand, exponent) =>
    Float.ofBits (Format.double.pattern significand exponent).toUInt64

/-- The number of thirty-two bits nearest to a natural, infinity if there is none so large. -/
def singleOfNat (n : Nat) : Float32 :=
  match Format.single.nearest? n 1 with
  | some (significand, exponent) =>
    Float32.ofBits (Format.single.pattern significand exponent).toUInt32
  | none => Float32.ofBits 0x7F800000

def singleOfInt (n : Int) : Float32 :=
  if n < 0 then -(singleOfNat n.natAbs) else singleOfNat n.natAbs

/-- The double nearest to a natural, infinity if there is none so large. -/
def doubleOfNat (n : Nat) : Float :=
  (doubleOfRatio? n 1).getD (Float.ofBits 0x7FF0000000000000)

def doubleOfInt (n : Int) : Float :=
  if n < 0 then -(doubleOfNat n.natAbs) else doubleOfNat n.natAbs

/-- The double nearest to `digits * 10 ^ exponent`, none if it is too large. Exponents far outside
the range of the format are decided without computing the power of ten. -/
def doubleOfDecimal? (digits : Nat) (exponent : Int) : Option Float :=
  if digits = 0 then some 0.0
  else if exponent ≥ 0 then
    if exponent > 400 then none else doubleOfRatio? (digits * Nat.pow 10 exponent.natAbs) 1
  else if Int.ofNat digits.log2 + 3 * exponent < -1200 then some 0.0
  else doubleOfRatio? digits (Nat.pow 10 exponent.natAbs)

end SoundChange.Number
