import SoundChange.Number.Binary
import SoundChange.Random.Draws

/-!
Random choices. `powerLaw` counts draws until one falls below a threshold. `Weights.ofList` adds up
a list of weights, and `Weights.index` turns one draw into the index of a weight, each index being
as likely as its weight is large; both work in double precision and round at every step.
-/
namespace SoundChange.Random

/-- The number of fractions that are smaller than a number of thirty-two bits: a fraction reaches
the number exactly when it is not below this threshold. Nothing reaches what is not a number. -/
def threshold (share : Float32) : Nat :=
  let bits := share.toBits.toNat
  if share.isNaN then fractions
  else if bits ≥ Nat.pow 2 31 then 0
  else
    let (significand, exponent) := Number.Format.single.unpack bits
    let (numerator, denominator) := Number.scaleDown significand 1 (-(exponent + 24))
    (numerator + denominator - 1) / denominator

/-- Counts the draws that reach a threshold, up to the first one below it, around the numbers below
`max`. -/
def powerLawFrom (max low result : Nat) (draws : Draws) : Option (Nat × Draws) :=
  match _drawn : draws.next? with
  | none => none
  | some (word, rest) =>
    if low ≤ fraction word then powerLawFrom max low ((result + 1) % max) rest
    else some (result, rest)
termination_by draws.size
decreasing_by have := Draws.size_of_next? _drawn; omega

/-- `power_law`: a number below `max` that gets rarer as it grows. -/
def powerLaw (max low : Nat) (draws : Draws) : Option (Nat × Draws) :=
  powerLawFrom max low 0 draws

/-- Why weights cannot be chosen from. -/
inductive WeightFault where
  | invalid
  | allZero
  /-- The sum of the weights is no number that could be scaled. -/
  | unbounded
  deriving DecidableEq, Repr

/-- The message of weights that are looked out for; a sum that could not be scaled is not. -/
def WeightFault.message : WeightFault → Option String
  | invalid => some "A weight is invalid in distribution"
  | allZero => some "All weights are zero in distribution"
  | unbounded => none

/-- Weights ready to be chosen from: their sum, and the sums of all proper initial parts. -/
structure Weights where
  total : Float
  sums : List Float

namespace Weights

/-- The sums of the initial parts that come before each of some further weights, and the sum of
all. -/
def addUp (total : Float) : List Float → Option (List Float × Float)
  | [] => some ([], total)
  | weight :: others =>
    if weight ≥ 0 then
      (addUp (total + weight) others).map fun (sums, whole) => (total :: sums, whole)
    else none

def ofList : List Float → Except WeightFault Weights
  | [] => .error .invalid
  | first :: others =>
    if first ≥ 0 then
      match addUp first others with
      | none => .error .invalid
      | some (sums, total) =>
        if total == 0 then .error .allZero
        else if total.isFinite then .ok ⟨total, sums⟩
        else .error .unbounded
    else .error .invalid

/-- The largest number that a draw between zero and one can be, `1 - 2 ^ -52`. -/
def largestUnit : Float := Float.ofBits 0x3FEFFFFFFFFFFFFE

/-- The bits of the largest number, at most the one with the given bits, that stays below `total`
when it is scaled by a draw. -/
def tightened (total : Float) : Nat → Nat
  | 0 => 0
  | bits + 1 =>
    if Float.ofBits (bits + 1).toUInt64 * largestUnit ≥ total then tightened total bits
    else bits + 1

def scale (weights : Weights) : Float :=
  Float.ofBits (tightened weights.total weights.total.toBits.toNat).toUInt64

/-- A draw as a number between zero and one: its upper fifty-two bits. -/
def unit (draw : UInt64) : Float :=
  Float.ofNat (draw >>> 12).toNat * Float.ofBits 0x3CB0000000000000

/-- The index that a draw stands for. -/
def index (weights : Weights) (draw : UInt64) : Nat :=
  let point := unit draw * weights.scale
  (weights.sums.filter fun sum => sum ≤ point).length

end Weights

end SoundChange.Random
