import SoundChange.Pattern.Bracket
import SoundChange.Pattern.Room

/-!
Reading regular expressions. The reader goes through the text once and keeps the levels of open
groups; each level remembers the alternatives and items before the place where it was opened, and
the flags to come back to. Flags set inside a group hold to its end, also in later alternatives.
`readPattern?` answers the tree with the number of groups and the names of the named ones; it
refuses a text that breaks a rule, is nested too deeply, or needs too much room.
-/
namespace SoundChange.Pattern

open Unicode (CodeSet)

/-- An expression with its nesting depth. -/
structure Piece where
  expression : Expression
  depth : Nat

/-- One item of a sequence. A flag setting matches nothing and cannot be repeated. -/
inductive Item where
  | setting
  | piece (p : Piece)

def Item.depth : Item → Nat
  | setting => 0
  | piece p => p.depth

def Item.expression? : Item → Option Expression
  | setting => none
  | piece p => some p.expression

/-- The sequence of some items, the latest one first. -/
def sequencePiece (items : List Item) : Piece :=
  let deepest := items.foldl (fun deepest item => max deepest item.depth) 0
  ⟨.sequenceOf (items.filterMap Item.expression?).reverse,
    if items.length ≤ 1 then deepest else deepest + 1⟩

/-- The choice between some branches, the latest one first, and a last sequence. -/
def choicePiece (branches : List Piece) (items : List Item) : Piece :=
  let last := sequencePiece items
  if branches.isEmpty then last
  else
    let deepest := branches.foldl (fun deepest branch => max deepest branch.depth) last.depth
    ⟨.eitherOf ((last :: branches).reverse.map Piece.expression), deepest + 1⟩

/-- An open group: what it captures, and what to come back to when it closes. -/
structure Level where
  capture : Option Nat
  items : List Item
  branches : List Piece
  flags : Flags

/-- The reader between two items. -/
structure Reading where
  flags : Flags
  items : List Item
  branches : List Piece
  levels : List Level
  groups : Nat
  names : List (String × Nat)

namespace Reading

def initial : Reading := ⟨.initial, [], [], [], 0, []⟩

def push (reading : Reading) (expression : Expression) (depth : Nat) : Reading :=
  { reading with items := .piece ⟨expression, depth⟩ :: reading.items }

/-- Opens a group; the flags may be other ones inside it. -/
def opened (reading : Reading) (capture : Option Nat) (inside : Flags) : Reading :=
  { reading with
    flags := inside
    items := []
    branches := []
    levels := ⟨capture, reading.items, reading.branches, reading.flags⟩ :: reading.levels }

/-- Opens a group that captures. -/
def openedCapture (reading : Reading) : Reading :=
  let index := reading.groups + 1
  { reading.opened (some index) reading.flags with groups := index }

/-- Opens a group that captures under a name; a name can be given only once. -/
def openedNamed? (reading : Reading) (name : String) : Option Reading :=
  if reading.names.any (·.1 == name) then none
  else
    let inner := reading.openedCapture
    some { inner with names := (name, inner.groups) :: inner.names }

/-- Closes the innermost group. -/
def closed? (reading : Reading) : Option Reading :=
  match reading.levels with
  | [] => none
  | level :: levels =>
    let inner := choicePiece reading.branches reading.items
    let expression := match level.capture with
      | some index => Expression.group index inner.expression
      | none => inner.expression
    some { reading with
      flags := level.flags
      items := .piece ⟨expression, inner.depth + 1⟩ :: level.items
      branches := level.branches
      levels }

def alternative (reading : Reading) : Reading :=
  { reading with
    items := []
    branches := sequencePiece reading.items :: reading.branches }

/-- Repeats the latest item. -/
def repeated? (reading : Reading) (low : Nat) (high : Option Nat) (lazy : Bool) :
    Option Reading :=
  match reading.items with
  | .piece p :: items =>
    let greedy := lazy == reading.flags.lazyFirst
    some { reading with
      items := .piece ⟨.repeatedOf p.expression low high greedy, p.depth + 1⟩ :: items }
  | _ => none

end Reading

/-- The flags with one of them switched on or off. -/
def Flags.switched? (flags : Flags) (letter : Char) (on : Bool) : Option Flags :=
  match letter with
  | 'i' => some { flags with ignoreCase := on }
  | 'm' => some { flags with manyLines := on }
  | 's' => some { flags with dotAll := on }
  | 'U' => some { flags with lazyFirst := on }
  | 'u' => some { flags with unicode := on }
  | 'R' => some { flags with returns := on }
  | 'x' => some { flags with spaced := on }
  | _ => none

/-- Reads flag letters up to a colon or a closing parenthesis. Letters after a hyphen are switched
off; no letter comes twice, and a hyphen is followed by a letter. -/
def readFlags? (flags : Flags) (seen : List Char) (on : Bool) :
    List Char → Option (Flags × List Char × List Char)
  | [] => none
  | c :: rest =>
    if c = ':' || c = ')' then
      if seen.head? = some '-' then none else some (flags, seen, c :: rest)
    else if seen.contains c then none
    else if c = '-' then readFlags? flags ('-' :: seen) false rest
    else (flags.switched? c on).bind fun flags => readFlags? flags (c :: seen) on rest

def isNameStart (c : Char) : Bool :=
  c == '_' || Unicode.Property.alphabetic.containsChar c

/-- The characters with a numeric category. -/
def numericSet : CodeSet := Unicode.Category.unionOf Unicode.Category.numbers

def isNameCharacter (c : Char) : Bool :=
  isNameStart c || c == '.' || c == '[' || c == ']' || numericSet.containsChar c

/-- Reads the name of a group up to the closing angle. -/
def readName? (text : List Char) : Option (String × List Char) :=
  match text.span (· != '>') with
  | (first :: others, '>' :: rest) =>
    if isNameStart first && others.all isNameCharacter then
      some (String.ofList (first :: others), rest)
    else none
  | _ => none

/-- Reads what follows an opening parenthesis: a plain group, a named one, flags for a group, or a
flag setting of its own. -/
def readGroup? (reading : Reading) (text : List Char) : Option (Reading × List Char) :=
  match dropSpaces reading.flags text with
  | '?' :: 'P' :: '<' :: rest => do
    let (name, rest) ← readName? rest
    return (← reading.openedNamed? name, rest)
  | '?' :: '<' :: '=' :: _ => none
  | '?' :: '<' :: '!' :: _ => none
  | '?' :: '<' :: rest => do
    let (name, rest) ← readName? rest
    return (← reading.openedNamed? name, rest)
  | '?' :: rest =>
    match readFlags? reading.flags [] true rest with
    | some (flags, seen, ')' :: rest) =>
      if seen.isEmpty then none
      else some ({ reading with flags, items := .setting :: reading.items }, rest)
    | some (flags, _, ':' :: rest) => some (reading.opened none flags, rest)
    | _ => none
  | text => some (reading.openedCapture, text)

/-- The largest number that a counted repetition may hold. -/
def countLimit : Nat := Nat.pow 2 32 - 1

/-- Reads digits, passing over spaces where the flags say so. -/
def countDigits (flags : Flags) : Nat → List Char → List Char × List Char
  | 0, text => ([], text)
  | _ + 1, [] => ([], [])
  | budget + 1, c :: rest =>
    if c.isDigit then
      let (digits, after) := countDigits flags budget (dropSpaces flags rest)
      (c :: digits, after)
    else ([], c :: rest)

/-- Passes over blanks in any case, and over comments too where the flags say so. -/
def dropBlanks (flags : Flags) (text : List Char) : List Char :=
  match text with
  | [] => []
  | c :: rest => if Text.isBlank c then (dropSpaces flags rest).dropWhile Text.isBlank
    else c :: rest

/-- Reads the number of a counted repetition, with blanks around it. -/
def readCount? (flags : Flags) (text : List Char) : Option (Nat × List Char) := do
  let (digits, rest) := countDigits flags (text.length + 1) (text.dropWhile Text.isBlank)
  let n ← Number.natural? digits
  guard (n ≤ countLimit)
  return (n, dropBlanks flags rest)

/-- Reads the bounds of a counted repetition after its brace, up to the closing one. -/
def readBounds? (flags : Flags) (text : List Char) :
    Option ((Nat × Option Nat) × List Char) := do
  let (low, rest) ← readCount? flags (dropSpaces flags text)
  match rest with
  | '}' :: rest => return ((low, some low), rest)
  | ',' :: rest =>
    match dropSpaces flags rest with
    | '}' :: rest => return ((low, none), rest)
    | text =>
      let (high, rest) ← readCount? flags text
      match rest with
      | '}' :: rest =>
        guard (low ≤ high)
        return ((low, some high), rest)
      | _ => none
  | _ => none

/-- Reads the question mark that makes a repetition lazy. -/
def readLazy : List Char → Bool × List Char
  | '?' :: rest => (true, rest)
  | text => (false, text)

/-- The set of a dot. -/
def dotSet? (flags : Flags) : Option CodeSet :=
  if !flags.unicode then none
  else if flags.dotAll then some CodeSet.full
  else if flags.returns then
    some (CodeSet.ofRanges [('\n'.toNat, '\n'.toNat), ('\r'.toNat, '\r'.toNat)]).complement
  else some (CodeSet.single '\n'.toNat).complement

/-- The expression of a primitive outside of classes. -/
def Primitive.expression? (flags : Flags) : Primitive → Option Expression
  | literal c => (literalSet? flags false c).map .ofSet
  | byte c => (literalSet? flags true c).map .ofSet
  | set s => some (.ofSet s)
  | check assertion => some (.check assertion)

/-- Reads one item, one operator, or one parenthesis. -/
def readItem? (reading : Reading) : List Char → Option (Reading × List Char)
  | [] => none
  | c :: rest =>
    let flags := reading.flags
    let plain (expression : Expression) : Option (Reading × List Char) :=
      some (reading.push expression 0, rest)
    let counted (low : Nat) (high : Option Nat) : Option (Reading × List Char) :=
      let (lazy, rest) := readLazy rest
      (reading.repeated? low high lazy).map (·, rest)
    match c with
    | '(' => readGroup? reading rest
    | ')' => reading.closed?.map (·, rest)
    | '|' => some (reading.alternative, rest)
    | '[' => do
      let (found, rest) ← readClass? flags rest
      return (reading.push (.ofSet found.set) found.depth, rest)
    | '?' => counted 0 (some 1)
    | '*' => counted 0 none
    | '+' => counted 1 none
    | '{' => do
      let ((low, high), rest) ← readBounds? flags rest
      let (lazy, rest) := readLazy (dropSpaces flags rest)
      return (← reading.repeated? low high lazy, rest)
    | '\\' => do
      let (primitive, rest) ← readEscape? flags rest
      return (reading.push (← primitive.expression? flags) 0, rest)
    | '.' => do plain (.ofSet (← dotSet? flags))
    | '^' => plain (.check (if flags.manyLines then .lineStart flags.returns else .textStart))
    | '$' => plain (.check (if flags.manyLines then .lineEnd flags.returns else .textEnd))
    | c => do plain (.ofSet (← literalSet? flags false c))

/-- Reads items to the end of the text. -/
def readItems? : Nat → Reading → List Char → Option Reading
  | 0, _, _ => none
  | budget + 1, reading, text =>
    match dropSpaces reading.flags text with
    | [] => some reading
    | c :: rest =>
      (readItem? reading (c :: rest)).bind fun (reading, after) =>
        readItems? budget reading after

/-- The depth to which patterns may be nested. -/
def depthLimit : Nat := 250

/-- A pattern that was read: its tree, the number of its groups, and the names of the named ones. -/
structure Parsed where
  expression : Expression
  groups : Nat
  names : List (String × Nat)

/-- The pattern that a text stands for. -/
def readPattern? (text : String) : Option Parsed := do
  let characters := text.toList
  let reading ← readItems? (characters.length + 1) .initial characters
  guard reading.levels.isEmpty
  let whole := choicePiece reading.branches reading.items
  guard (whole.depth ≤ depthLimit && whole.expression.room ≤ roomLimit)
  return ⟨whole.expression, reading.groups, reading.names⟩

end SoundChange.Pattern
