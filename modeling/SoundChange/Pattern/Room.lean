import SoundChange.Pattern.Expression

/-!
The room that a pattern takes once it is compiled. A pattern is compiled to states that read one
byte of UTF-8 each, so a set of characters is first taken apart into rows: a row says for each byte
of an encoded character between which bounds it lies. Rows that begin alike share the states for
what they have in common. Counted repetitions are written out, and what they repeat takes its room
again every time.
-/
namespace SoundChange.Pattern

/-- The bounds of the bytes of some encoded characters, by the digits to base sixty-four that the
bytes hold. -/
abbrev ByteRow : Type := List (Nat × Nat)

namespace ByteRow

/-- The rows of the codes from `low` up to `high`, of which the last `count` digits stand in bytes
of their own. -/
def ofCodes : Nat → Nat → Nat → List ByteRow
  | 0, low, high => [[(low, high)]]
  | count + 1, low, high =>
    let unit := Nat.pow 64 (count + 1)
    let (first, last) := (low / unit, high / unit)
    if first = last then
      (ofCodes count (low % unit) (high % unit)).map ((first, first) :: ·)
    else
      let lowOpen := low % unit != 0
      let highOpen := high % unit != unit - 1
      let start := if lowOpen then first + 1 else first
      let stop := if highOpen then last else last + 1
      let head := if lowOpen then ofCodes count (low % unit) (unit - 1) else []
      let middle := if start < stop then [(start, stop - 1) :: List.replicate (count + 1) (0, 63)]
        else []
      let tail := if highOpen then ofCodes count 0 (high % unit) else []
      head.map ((first, first) :: ·) ++ middle ++ tail.map ((last, last) :: ·)

/-- The codes that are encoded in equally many bytes, and the number of their bytes after the
first; surrogates are not encoded. -/
def bands : List (Nat × Nat × Nat) :=
  [(0, 0x7F, 0), (0x80, 0x7FF, 1), (0x800, 0xD7FF, 2), (0xE000, 0xFFFF, 2),
    (0x10000, 0x10FFFF, 3)]

/-- The rows of the codes of a set that lie in a band. -/
def ofBand (ranges : List (Nat × Nat)) (band : Nat × Nat × Nat) : List ByteRow :=
  ranges.flatMap fun (first, last) =>
    let (low, high) := (max first band.1, min last band.2.1)
    if low ≤ high then ofCodes band.2.2 low high else []

/-- The part of a row that it does not share with the row before it. -/
def unshared : ByteRow → ByteRow → ByteRow
  | a :: before, b :: row => if a = b then unshared before row else b :: row
  | _, row => row

/-- The number of states for rows that follow a row. -/
def states (before : ByteRow) : List ByteRow → Nat
  | [] => 0
  | row :: others => (unshared before row).length + states row others

end ByteRow

/-- The room for one state. -/
def stateRoom : Nat := 32

/-- The room for a state that chooses between two others. -/
def forkRoom : Nat := stateRoom + 8

/-- The room for one character of a set. -/
def setRoom (set : Unicode.CodeSet) : Nat :=
  let ranges := set.ranges.toList
  if ranges.all fun range => range.2 ≤ 0x7F then 2 * stateRoom + 8 * ranges.length
  else
    let rowsOf := ByteRow.ofBand ranges
    2 * stateRoom + 4 * (ByteRow.bands.flatMap rowsOf).length +
      stateRoom * ByteRow.bands.foldl (fun count band => count + ByteRow.states [] (rowsOf band)) 0

namespace Expression

/-- The room that an expression takes. -/
def room : Expression → Nat
  | empty => stateRoom
  | literal text => stateRoom * (String.ofList text).utf8ByteSize
  | one set => setRoom set
  | check _ => stateRoom
  | group _ inner => 2 * stateRoom + inner.room
  | sequence first second => first.room + second.room
  | either first second => forkRoom + first.room + second.room
  | repeated inner low none _ =>
    if low ≠ 0 then forkRoom + low * inner.room
    else if inner.alwaysAdvances then forkRoom + inner.room
    else 2 * forkRoom + stateRoom + inner.room
  | repeated inner low (some high) _ =>
    stateRoom + low * inner.room + (high - low) * (forkRoom + inner.room)

end Expression

/-- The room that a pattern may take. -/
def roomLimit : Nat := 10485760

end SoundChange.Pattern
