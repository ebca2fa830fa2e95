import Std.Data.TreeSet
import SoundChange.Pattern.Program

/-!
Searching a text. A search follows the program from one place of the text after the other and takes
the first way that ends in a match, preferred ways first. No instruction is tried twice at the same
place: what failed there once fails again, so the work is bounded by the size of the program times
the length of the text.
-/
namespace SoundChange.Pattern

/-- The places that a way through the program has remembered, by slot. -/
abbrev Slots : Type := Array (Option Nat)

/-- A way still to be tried: an instruction, a place of the text, and what is remembered so far. -/
structure Way where
  instruction : Nat
  place : Nat
  slots : Slots

def isAsciiWord (c : Char) : Bool :=
  c.isAlphanum || c == '_'

/-- Whether the character is there and is a word character. -/
def isWordAt (unicode : Bool) (c : Option Char) : Bool :=
  match c with
  | some c => if unicode then Unicode.Property.isWord c else isAsciiWord c
  | none => false

def WordEdge.holds (edge : WordEdge) (before after : Bool) : Bool :=
  match edge with
  | boundary => before != after
  | noBoundary => before == after
  | start => !before && after
  | finish => before && !after
  | startHalf => !before
  | finishHalf => !after

/-- Whether an assertion holds between two characters, either of which may be missing. -/
def Assertion.holds (assertion : Assertion) (before after : Option Char) : Bool :=
  match assertion with
  | textStart => before.isNone
  | textEnd => after.isNone
  | lineStart false => before.isNone || before == some '\n'
  | lineEnd false => after.isNone || after == some '\n'
  | lineStart true =>
    before.isNone || before == some '\n' || (before == some '\r' && after != some '\n')
  | lineEnd true =>
    after.isNone || after == some '\r' || (after == some '\n' && before != some '\r')
  | word edge unicode => edge.holds (isWordAt unicode before) (isWordAt unicode after)

/-- The character before a place. -/
def characterBefore (text : Array Char) (place : Nat) : Option Char :=
  if place = 0 then none else text[place - 1]?

/-- The ways on from one way, the preferred one first; or the finished match. -/
def Way.next (way : Way) (program : Program) (text : Array Char) : Except Slots (List Way) :=
  match program.code[way.instruction]? with
  | none => .ok []
  | some .accept => .error way.slots
  | some (.step set next) =>
    match text[way.place]? with
    | some c =>
      .ok (if set.containsChar c then [{ way with instruction := next, place := way.place + 1 }]
        else [])
    | none => .ok []
  | some (.check assertion next) =>
    .ok (if assertion.holds (characterBefore text way.place) text[way.place]? then
        [{ way with instruction := next }]
      else [])
  | some (.save slot next) =>
    .ok [{ way with instruction := next, slots := way.slots.setIfInBounds slot way.place }]
  | some (.fork first second) =>
    .ok [{ way with instruction := first }, { way with instruction := second }]

/-- Instructions that were tried, each with its place, as one number. -/
abbrev Tried : Type := Std.TreeSet Nat

/-- Tries the ways of a list in order. -/
def tryWays (program : Program) (text : Array Char) :
    Nat → List Way → Tried → Option Slots × Tried
  | 0, _, tried => (none, tried)
  | _ + 1, [], tried => (none, tried)
  | budget + 1, way :: ways, tried =>
    let mark := way.instruction * (text.size + 1) + way.place
    if tried.contains mark then tryWays program text budget ways tried
    else
      let tried := tried.insert mark
      match way.next program text with
      | .error slots => (some slots, tried)
      | .ok others => tryWays program text budget (others ++ ways) tried

/-- More steps than any search from one place can take: every way is tried at most once, and adds at
most two others. -/
def budgetOf (program : Program) (text : Array Char) : Nat :=
  2 * (program.code.size + 1) * (text.size + 1) + 2

/-- The first match that starts at `place` or at one of the `others` places after it. -/
def searchFrom (program : Program) (text : Array Char) :
    Nat → Nat → Tried → Option Slots
  | others, place, tried =>
    let slots : Slots := Array.replicate (startSlot (program.groups + 1)) none
    let first : Way := ⟨program.start, place, slots⟩
    match tryWays program text (budgetOf program text) [first] tried with
    | (some slots, _) => some slots
    | (none, tried) =>
      match others with
      | 0 => none
      | others + 1 => searchFrom program text others (place + 1) tried

/-- A match: the places of every group, the whole match being group zero. -/
structure Match where
  slots : Slots

namespace Match

/-- The start and the end of a group, if it took part in the match. -/
def bounds? (m : Match) (group : Nat) : Option (Nat × Nat) :=
  match m.slots[startSlot group]?, m.slots[startSlot group + 1]? with
  | some (some first), some (some last) => some (first, last)
  | _, _ => none

/-- The characters of a group; none if it took no part. -/
def groupText (m : Match) (text : Array Char) (group : Nat) : List Char :=
  match m.bounds? group with
  | some (first, last) => (text.extract first last).toList
  | none => []

end Match

/-- The first match from a place on. -/
def Program.search? (program : Program) (text : Array Char) (place : Nat) : Option Match :=
  if place ≤ text.size then
    (searchFrom program text (text.size - place) place ∅).map Match.mk
  else none

end SoundChange.Pattern
