/-!
Sets of code points. A set is an array of ascending ranges that neither overlap nor touch; every
operation brings its result back to this form. `CodeSet.ofText` reads the notation in which property
tables are written: ranges in hexadecimal, `41-5A`, single code points, `AA`, and evenly spaced code
points, `100-12E/2`, separated by blanks and line breaks.
-/
namespace SoundChange.Unicode

/-- A set of code points, as ascending ranges with gaps between them. -/
structure CodeSet where
  ranges : Array (Nat × Nat)
  deriving DecidableEq, Repr, Inhabited

/-- The largest code point. -/
def lastCode : Nat := 0x10FFFF

namespace CodeSet

def empty : CodeSet := ⟨#[]⟩

/-- All code points. -/
def full : CodeSet := ⟨#[(0, lastCode)]⟩

def isEmpty (set : CodeSet) : Bool :=
  set.ranges.isEmpty

/-- Searches the ranges with indices from `low` up to, but not including, `high`. -/
def searchRange (ranges : Array (Nat × Nat)) (code low high : Nat) : Bool :=
  if _inside : low < high then
    let middle := (low + high) / 2
    match ranges[middle]? with
    | none => false
    | some (first, last) =>
      if code < first then searchRange ranges code low middle
      else if last < code then searchRange ranges code (middle + 1) high
      else true
  else false
termination_by high - low
decreasing_by all_goals omega

def contains (set : CodeSet) (code : Nat) : Bool :=
  searchRange set.ranges code 0 set.ranges.size

def containsChar (set : CodeSet) (c : Char) : Bool :=
  set.contains c.toNat

/-- Joins ranges that overlap or touch; the ranges come in ascending order of their starts. -/
def mergeRanges (current : Nat × Nat) : List (Nat × Nat) → List (Nat × Nat)
  | [] => [current]
  | next :: others =>
    if next.1 ≤ current.2 + 1 then mergeRanges (current.1, max current.2 next.2) others
    else current :: mergeRanges next others

/-- The set of all code points in some ranges, given in any order; empty ranges are passed over. -/
def ofRanges (ranges : List (Nat × Nat)) : CodeSet :=
  match (ranges.filter fun r => r.1 ≤ r.2).mergeSort fun a b => a.1 ≤ b.1 with
  | [] => empty
  | first :: others => ⟨(mergeRanges first others).toArray⟩

def single (code : Nat) : CodeSet := ⟨#[(code, code)]⟩

def union (a b : CodeSet) : CodeSet :=
  ofRanges (a.ranges.toList ++ b.ranges.toList)

/-- The gaps from `start` on between ascending ranges. -/
def gaps (start : Nat) : List (Nat × Nat) → List (Nat × Nat)
  | [] => if start ≤ lastCode then [(start, lastCode)] else []
  | (first, last) :: others =>
    if start < first then (start, first - 1) :: gaps (last + 1) others
    else gaps (last + 1) others

def complement (set : CodeSet) : CodeSet :=
  ⟨(gaps 0 set.ranges.toList).toArray⟩

def intersect (a b : CodeSet) : CodeSet :=
  complement (union (complement a) (complement b))

def difference (a b : CodeSet) : CodeSet :=
  intersect a (complement b)

def symmetricDifference (a b : CodeSet) : CodeSet :=
  union (difference a b) (difference b a)

/-- Whether every code point of the set is at most `bound`. -/
def within (set : CodeSet) (bound : Nat) : Bool :=
  set.ranges.all fun r => r.2 ≤ bound

def hexDigit (c : Char) : Nat :=
  if '0' ≤ c ∧ c ≤ '9' then c.toNat - '0'.toNat
  else if 'A' ≤ c ∧ c ≤ 'F' then c.toNat - 'A'.toNat + 10
  else 0

def hexValue (digits : List Char) : Nat :=
  digits.foldl (fun value c => value * 16 + hexDigit c) 0

/-- The ranges of one table entry. -/
def entryRanges (entry : List Char) : List (Nat × Nat) :=
  let (first, rest) := entry.span (· != '-')
  match rest with
  | [] => [(hexValue first, hexValue first)]
  | _ :: rest =>
    let (last, step) := rest.span (· != '/')
    match step with
    | [] => [(hexValue first, hexValue last)]
    | _ :: step =>
      let low := hexValue first
      let width := max 1 (hexValue step)
      (List.range ((hexValue last - low) / width + 1)).map fun i =>
        (low + i * width, low + i * width)

/-- The entries of a table: its maximal runs without blanks and line breaks. -/
def entries (current : List Char) : List Char → List (List Char)
  | [] => if current.isEmpty then [] else [current.reverse]
  | c :: rest =>
    if c = ' ' ∨ c = '\n' then
      if current.isEmpty then entries [] rest else current.reverse :: entries [] rest
    else entries (c :: current) rest

/-- The set that a property table describes. -/
def ofText (table : String) : CodeSet :=
  ofRanges ((entries [] table.toList).flatMap entryRanges)

end CodeSet

end SoundChange.Unicode
