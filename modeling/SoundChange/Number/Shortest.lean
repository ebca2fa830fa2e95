import SoundChange.Number.Binary

/-!
Shortest decimals. `shortest` gives the fewest decimal digits that read back to a positive double,
and of two such decimals the nearer one. It walks through the decimal grids from the coarsest to
finer ones and stops at the first grid with a point between the two boundaries of the double.
-/
namespace SoundChange.Number

/-- The double `significand * 2 ^ exponent`, and a decimal grid: the multiples of `10 ^ grid`. All
comparisons are made between naturals, after multiplying out the negative powers. -/
structure Grid where
  exponent : Int
  grid : Int

namespace Grid

/-- `points` steps of the grid, in the common scale. -/
def ofPoints (g : Grid) (points : Nat) : Nat :=
  points * Nat.pow 10 g.grid.toNat * Nat.pow 2 (2 - g.exponent).toNat

/-- `quarters` quarters of the unit in the last place, in the common scale. -/
def ofQuarters (g : Grid) (quarters : Nat) : Nat :=
  quarters * Nat.pow 2 (g.exponent - 2).toNat * Nat.pow 10 (-g.grid).toNat

end Grid

/-- The quarters of a unit between a double and its lower boundary: one when the next double below
is half a unit away, else two. -/
def lowerQuarters (significand : Nat) (exponent : Int) : Nat :=
  if significand = Nat.pow 2 52 ∧ exponent > Format.double.lowest then 1 else 2

/-- The point of a grid that stands for a double, if the grid has one between the boundaries. -/
def pointOn? (significand : Nat) (exponent grid : Int) : Option Nat :=
  let g : Grid := ⟨exponent, grid⟩
  let m := significand
  let exact := g.ofQuarters (4 * m)
  let low := g.ofQuarters (4 * m - lowerQuarters m exponent)
  let high := g.ofQuarters (4 * m + 2)
  let inside (points : Nat) : Bool :=
    let value := g.ofPoints points
    points != 0 &&
      (if m % 2 == 0 then low ≤ value && value ≤ high else low < value && value < high)
  let below := exact / g.ofPoints 1
  let above := below + 1
  match inside below, inside above with
  | true, true =>
    let gapBelow := exact - g.ofPoints below
    let gapAbove := g.ofPoints above - exact
    if gapBelow < gapAbove || (gapBelow == gapAbove && below % 2 == 0) then some below
    else some above
  | true, false => some below
  | false, true => some above
  | false, false => none

/-- The first grid with a point for the double, from `grid` downwards. -/
def shortestFrom (significand : Nat) (exponent : Int) : Nat → Int → Nat × Int
  | 0, _ => (significand, 0)
  | steps + 1, grid =>
    match pointOn? significand exponent grid with
    | some points => (points, grid)
    | none => shortestFrom significand exponent steps (grid - 1)

/-- The shortest digits of `significand * 2 ^ exponent`, and the power of ten of the last one. -/
def shortest (significand : Nat) (exponent : Int) : Nat × Int :=
  let size : Int := exponent + Int.ofNat significand.log2 + 1
  shortestFrom significand exponent 24 (size * 30103 / 100000 + 2)

end SoundChange.Number
