import SoundChange.Unicode.Folding
import SoundChange.Unicode.Property

/-!
Regular expressions as trees. All flags are already worked into a tree: a character that ignores
case is a set, and an assertion says which line ends and which word characters it looks at.
`sequenceOf`, `eitherOf` and `repeatedOf` build trees in a simple form: sequences hold no sequences,
choices hold no choices, literals are joined, a choice between characters is a set, and what all
branches of a choice start with stands in front of it.
-/
namespace SoundChange.Pattern

open Unicode (CodeSet)

/-- Flags that are in force at a place of a pattern. -/
structure Flags where
  ignoreCase : Bool
  /-- Whether `^` and `$` also match at the ends of lines. -/
  manyLines : Bool
  /-- Whether a dot also matches a newline. -/
  dotAll : Bool
  /-- Whether repetitions are lazy unless marked otherwise. -/
  lazyFirst : Bool
  unicode : Bool
  /-- Whether a carriage return also ends a line. -/
  returns : Bool
  /-- Whether blanks and comments in the pattern are passed over. -/
  spaced : Bool
  deriving DecidableEq, Repr

def Flags.initial : Flags := ⟨false, false, false, false, true, false, false⟩

/-- What an assertion about words asks of the characters before and after a place. -/
inductive WordEdge where
  | boundary
  | noBoundary
  | start
  | finish
  | startHalf
  | finishHalf
  deriving DecidableEq, Repr

/-- Conditions on a place between two characters. -/
inductive Assertion where
  | textStart
  | textEnd
  | lineStart (returns : Bool)
  | lineEnd (returns : Bool)
  | word (edge : WordEdge) (unicode : Bool)
  deriving DecidableEq, Repr

/-- Regular expressions. Sequences and choices are nested to the right. -/
inductive Expression where
  | empty
  /-- One or more characters in a row. -/
  | literal (text : List Char)
  | one (set : CodeSet)
  | check (assertion : Assertion)
  | group (index : Nat) (inner : Expression)
  | sequence (first second : Expression)
  /-- Either expression, the first one preferred. -/
  | either (first second : Expression)
  /-- From `low` to `high` times, or without limit; a greedy repetition prefers more. -/
  | repeated (inner : Expression) (low : Nat) (high : Option Nat) (greedy : Bool)
  deriving DecidableEq, Inhabited

namespace Expression

/-- What matches one character of a set; a set of one character is a literal. -/
def ofSet (set : CodeSet) : Expression :=
  match set.ranges.toList with
  | [(first, last)] => if first = last then literal [Char.ofNat first] else one set
  | _ => one set

/-- The parts of a sequence. -/
def parts : Expression → List Expression
  | empty => []
  | sequence first second => first.parts ++ second.parts
  | e => [e]

/-- Joins literals that stand next to each other. -/
def joinLiterals : List Expression → List Expression
  | [] => []
  | e :: others =>
    match e, joinLiterals others with
    | literal text, literal text' :: rest => literal (text ++ text') :: rest
    | e, rest => e :: rest

/-- Parts written one after the other. -/
def ofParts : List Expression → Expression
  | [] => empty
  | [e] => e
  | e :: others => sequence e (ofParts others)

/-- The sequence of some expressions. -/
def sequenceOf (expressions : List Expression) : Expression :=
  ofParts (joinLiterals (expressions.flatMap parts))

/-- The branches of a choice. -/
def branches : Expression → List Expression
  | either first second => first.branches ++ second.branches
  | e => [e]

/-- Branches in order of preference; without any, nothing matches. -/
def ofBranches : List Expression → Expression
  | [] => one CodeSet.empty
  | [e] => e
  | e :: others => either e (ofBranches others)

def singleCharacter? : Expression → Option Char
  | literal [c] => some c
  | _ => none

def set? : Expression → Option CodeSet
  | one set => some set
  | _ => none

/-- The set of a choice between single characters, or between sets. -/
def setOfBranches? (branches : List Expression) : Option CodeSet :=
  match branches.mapM singleCharacter? with
  | some characters => some (CodeSet.ofRanges (characters.map fun c => (c.toNat, c.toNat)))
  | none => (branches.mapM set?).map fun sets => sets.foldl CodeSet.union CodeSet.empty

/-- The parts that two lists have in common at their start. -/
def commonStart : List Expression → List Expression → List Expression
  | e :: others, e' :: others' => if e = e' then e :: commonStart others others' else []
  | _, _ => []

/-- The parts that all branches have in common at their start, when all are sequences. -/
def sharedParts : List (List Expression) → List Expression
  | [] => []
  | first :: others =>
    if (first :: others).all fun parts => 2 ≤ parts.length then others.foldl commonStart first
    else []

/-- The choice between branches; what all of them start with is written once, in front. `budget`
bounds the number of times that something can be taken out. -/
def choiceFrom : Nat → List Expression → Expression
  | 0, alternatives => ofBranches alternatives
  | budget + 1, alternatives =>
    match alternatives with
    | [e] => e
    | _ =>
      match setOfBranches? alternatives with
      | some set => ofSet set
      | none =>
        let lists := alternatives.map parts
        let shared := sharedParts lists
        if shared.isEmpty then ofBranches alternatives
        else
          let rests := lists.map fun list => sequenceOf (list.drop shared.length)
          sequenceOf (shared ++ [choiceFrom budget (rests.flatMap branches)])

/-- The choice between some expressions. -/
def eitherOf (expressions : List Expression) : Expression :=
  let alternatives := expressions.flatMap branches
  choiceFrom ((alternatives.flatMap parts).length + 1) alternatives

/-- The least number of characters of a match, if there can be one. -/
def leastLength? : Expression → Option Nat
  | empty => some 0
  | literal text => some text.length
  | one set => if set.isEmpty then none else some 1
  | check _ => some 0
  | group _ inner => inner.leastLength?
  | sequence first second =>
    match first.leastLength?, second.leastLength? with
    | some m, some n => some (m + n)
    | _, _ => none
  | either first second =>
    match first.leastLength?, second.leastLength? with
    | some m, some n => some (min m n)
    | _, _ => none
  | repeated inner low _ _ => inner.leastLength?.map (low * ·)

/-- Whether every match takes at least one character. -/
def alwaysAdvances (e : Expression) : Bool :=
  match e.leastLength? with
  | some n => 0 < n
  | none => false

/-- Whether an expression only ever matches the empty text. -/
def isZeroWidth : Expression → Bool
  | empty => true
  | literal _ => false
  | one _ => false
  | check _ => true
  | group _ inner => inner.isZeroWidth
  | sequence first second => first.isZeroWidth && second.isZeroWidth
  | either first second => first.isZeroWidth && second.isZeroWidth
  | repeated inner _ high _ => inner.isZeroWidth || high == some 0

/-- A repetition; what matches only the empty text is repeated at most once. -/
def repeatedOf (inner : Expression) (low : Nat) (high : Option Nat) (greedy : Bool) :
    Expression :=
  let (low, high) :=
    if inner.isZeroWidth then (min low 1, some (min (high.getD 1) 1)) else (low, high)
  match low, high with
  | 0, some 0 => empty
  | 1, some 1 => inner
  | low, high => repeated inner low high greedy

end Expression

end SoundChange.Pattern
