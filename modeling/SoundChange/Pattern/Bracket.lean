import SoundChange.Pattern.Escape

/-!
Classes in brackets. A class is a union of characters, ranges, escapes and nested classes; unions
are joined by `&&`, `--` and `~~`, from left to right and with equal strength. A class also answers
its nesting depth, because patterns may be nested only so deep.
-/
namespace SoundChange.Pattern

open Unicode (CodeSet)

/-- An operand of a set operation, with its nesting depth. -/
structure Operand where
  set : CodeSet
  depth : Nat

/-- The items of a union gathered so far. -/
structure Gathered where
  set : CodeSet
  count : Nat
  depth : Nat

namespace Gathered

def none : Gathered := ⟨CodeSet.empty, 0, 0⟩

def add (gathered : Gathered) (item : Operand) : Gathered :=
  ⟨gathered.set.union item.set, gathered.count + 1, max gathered.depth item.depth⟩

/-- A union of two or more items is one level deeper than its items. -/
def operand (gathered : Gathered) : Operand :=
  ⟨gathered.set, if gathered.count ≤ 1 then gathered.depth else gathered.depth + 1⟩

end Gathered

inductive SetOperation where
  | intersection
  | difference
  | symmetricDifference

/-- The set of an operation; its operands are closed under case first where the flags say so. -/
def SetOperation.apply (operation : SetOperation) (flags : Flags) (left right : CodeSet) :
    CodeSet :=
  let fold (set : CodeSet) : CodeSet := (foldAndNegate? flags false set).getD set
  match operation with
  | intersection => (fold left).intersect (fold right)
  | difference => (fold left).difference (fold right)
  | symmetricDifference => (fold left).symmetricDifference (fold right)

/-- What is still open around a union. -/
inductive ClassFrame where
  | opened (outer : Gathered) (negated : Bool)
  | operation (operation : SetOperation) (left : Operand)

/-- Carries out the operation that waits for its right operand, if there is one. -/
def finishOperation (flags : Flags) (right : Operand) :
    List ClassFrame → Operand × List ClassFrame
  | .operation operation left :: frames =>
    (⟨operation.apply flags left.set right.set, 1 + max left.depth right.depth⟩, frames)
  | frames => (right, frames)

/-- The set of one character in a class; without Unicode it must be ASCII. -/
def itemSet? (flags : Flags) (c : Char) : Option CodeSet :=
  if flags.unicode || c.toNat ≤ asciiEnd then some (.single c.toNat) else none

/-- Reads the hyphens at the start of a class, which stand for themselves. -/
def openingHyphens (flags : Flags) : Nat → List Char → Nat × List Char
  | 0, text => (0, text)
  | budget + 1, '-' :: rest =>
    let (count, after) := openingHyphens flags budget (dropSpaces flags rest)
    (count + 1, after)
  | _ + 1, text => (0, text)

/-- Reads the start of a class after its bracket: a caret, hyphens, and a closing bracket that
stands for itself. -/
def readOpening? (flags : Flags) (text : List Char) :
    Option (Bool × Gathered × List Char) := do
  let text := dropSpaces flags text
  let (negated, text) := match text with
    | '^' :: rest => (true, dropSpaces flags rest)
    | _ => (false, text)
  let (hyphens, text) := openingHyphens flags (text.length + 1) text
  let union : Gathered := if hyphens = 0 then .none else ⟨.single '-'.toNat, hyphens, 0⟩
  let (union, text) := match hyphens, text with
    | 0, ']' :: rest => (union.add ⟨.single ']'.toNat, 0⟩, dropSpaces flags rest)
    | _, _ => (union, text)
  guard (!text.isEmpty)
  return (negated, union, text)

/-- Reads a named ASCII class such as `[:alpha:]`, after its first bracket; answers its set, and
whether it is excluded. -/
def readAsciiClass? : List Char → Option ((CodeSet × Bool) × List Char)
  | ':' :: rest => do
    let (negated, rest) := match rest with
      | '^' :: rest => (true, rest)
      | _ => (false, rest)
    let (name, rest) := rest.span (· != ':')
    match rest with
    | ':' :: ']' :: after =>
      let set ← asciiClass? (String.ofList name)
      return ((set, negated), after)
    | _ => none
  | _ => none

/-- One end of a range, or a whole item: a character or an escape. -/
def readClassPrimitive? (flags : Flags) : List Char → Option (Primitive × List Char)
  | [] => none
  | '\\' :: rest => readEscape? flags rest
  | c :: rest => some (.literal c, rest)

/-- The character of a primitive that may end a range. -/
def Primitive.character? : Primitive → Option Char
  | literal c => some c
  | byte c => some c
  | _ => none

/-- The character after a hyphen, blanks passed over where the flags say so. The mark that opens a
comment is passed over as well. -/
def characterAfterHyphen? (flags : Flags) (rest : List Char) : Option Char :=
  if flags.spaced then
    let skipped := match rest.dropWhile Text.isBlank with
      | '#' :: comment => comment.dropWhile Text.isBlank
      | text => text
    skipped.head? <|> rest.head?
  else rest.head?

/-- The set of a primitive that stands in a class on its own; assertions have none. -/
def Primitive.classSet? (flags : Flags) : Primitive → Option CodeSet
  | literal c => itemSet? flags c
  | byte c => itemSet? flags c
  | set s => some s
  | check _ => none

/-- Reads a range or a single item. -/
def readRange? (flags : Flags) (text : List Char) : Option (CodeSet × List Char) := do
  let (first, rest) ← readClassPrimitive? flags text
  let rest := dropSpaces flags rest
  match rest with
  | [] => none
  | '-' :: after =>
    let next := characterAfterHyphen? flags after
    if next = some ']' || next = some '-' then return (← first.classSet? flags, rest)
    let (last, after) ← readClassPrimitive? flags (dropSpaces flags after)
    let low ← first.character?
    let high ← last.character?
    guard (low.toNat ≤ high.toNat)
    let _ ← itemSet? flags low
    let _ ← itemSet? flags high
    return (CodeSet.ofRanges [(low.toNat, high.toNat)], after)
  | _ => return (← first.classSet? flags, rest)

/-- Reads a class to its closing bracket. -/
def readClassFrom? (flags : Flags) :
    Nat → List ClassFrame → Gathered → List Char → Option (Operand × List Char)
  | 0, _, _, _ => none
  | budget + 1, frames, union, text =>
    let operate (operation : SetOperation) (rest : List Char) :=
      let (left, frames) := finishOperation flags union.operand frames
      readClassFrom? flags budget (.operation operation left :: frames) .none rest
    match dropSpaces flags text with
    | [] => none
    | '[' :: rest =>
      match readAsciiClass? rest with
      | some ((set, negated), after) =>
        (foldAndNegate? flags negated set).bind fun set =>
          readClassFrom? flags budget frames (union.add ⟨set, 0⟩) after
      | none =>
        (readOpening? flags rest).bind fun (negated, inner, after) =>
          readClassFrom? flags budget (.opened union negated :: frames) inner after
    | ']' :: rest =>
      let (whole, frames) := finishOperation flags union.operand frames
      match frames with
      | .opened outer negated :: frames =>
        (foldAndNegate? flags negated whole.set).bind fun set =>
          let closed : Operand := ⟨set, whole.depth + 1⟩
          if frames.isEmpty then some (closed, rest)
          else readClassFrom? flags budget frames (outer.add closed) rest
      | _ => none
    | '&' :: '&' :: rest => operate .intersection rest
    | '-' :: '-' :: rest => operate .difference rest
    | '~' :: '~' :: rest => operate .symmetricDifference rest
    | c :: rest =>
      (readRange? flags (c :: rest)).bind fun (set, after) =>
        readClassFrom? flags budget frames (union.add ⟨set, 0⟩) after

/-- Reads a class after its first bracket; answers its set, its depth and the text that follows. -/
def readClass? (flags : Flags) (text : List Char) : Option (Operand × List Char) :=
  (readOpening? flags text).bind fun (negated, union, rest) =>
    readClassFrom? flags (rest.length + 1) [.opened .none negated] union rest

end SoundChange.Pattern
