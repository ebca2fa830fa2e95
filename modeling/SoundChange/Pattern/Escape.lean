import SoundChange.Number.Whole
import SoundChange.Pattern.Expression
import SoundChange.Text.Blank
import SoundChange.Unicode.Age
import SoundChange.Unicode.Break

/-!
Escapes of patterns. A backslash stands before a character that is meant literally, a control
character, a code point in hexadecimal, a named class of characters, a Unicode property, or an
assertion. Without the Unicode flag only ASCII characters have classes, and a class that would reach
beyond them is refused. Every reader here answers what it read and the text that follows.
-/
namespace SoundChange.Pattern

open Unicode (CodeSet)

/-- Passes over a comment, up to the end of its line. -/
def dropComment (text : List Char) : List Char :=
  (text.dropWhile (· != '\n')).drop 1

/-- Passes over blanks and comments; `budget` bounds the number of characters. -/
def dropSpacesFrom : Nat → List Char → List Char
  | 0, text => text
  | _ + 1, [] => []
  | budget + 1, c :: rest =>
    if Text.isBlank c then dropSpacesFrom budget rest
    else if c = '#' then dropSpacesFrom budget (dropComment rest)
    else c :: rest

/-- Passes over blanks and comments where the flags say so. -/
def dropSpaces (flags : Flags) (text : List Char) : List Char :=
  if flags.spaced then dropSpacesFrom (text.length + 1) text else text

/-- What a backslash and the characters after it stand for. -/
inductive Primitive where
  | literal (c : Char)
  /-- A character given by exactly two hexadecimal digits, a byte when Unicode is off. -/
  | byte (c : Char)
  | set (s : CodeSet)
  | check (assertion : Assertion)

/-- Characters that mean something in a pattern. -/
def metaCharacters : List Char := "\\.+*?()|[]\x7b\x7d^$#&-~".toList

/-- Characters that may follow a backslash to stand for themselves. -/
def isEscapable (c : Char) : Bool :=
  metaCharacters.contains c || (c.toNat < 0x80 && !c.isAlphanum && c != '<' && c != '>')

/-- ASCII classes by name, as they are written in brackets. -/
def asciiClass? (name : String) : Option CodeSet :=
  let ranges? : Option (List (Char × Char)) := match name with
    | "alnum" => some [('0', '9'), ('A', 'Z'), ('a', 'z')]
    | "alpha" => some [('A', 'Z'), ('a', 'z')]
    | "ascii" => some [('\x00', '\x7f')]
    | "blank" => some [('\t', '\t'), (' ', ' ')]
    | "cntrl" => some [('\x00', '\x1f'), ('\x7f', '\x7f')]
    | "digit" => some [('0', '9')]
    | "graph" => some [('!', '~')]
    | "lower" => some [('a', 'z')]
    | "print" => some [(' ', '~')]
    | "punct" => some [('!', '/'), (':', '@'), ('[', '\x60'), ('{', '~')]
    | "space" => some [('\t', '\r'), (' ', ' ')]
    | "upper" => some [('A', 'Z')]
    | "word" => some [('0', '9'), ('A', 'Z'), ('_', '_'), ('a', 'z')]
    | "xdigit" => some [('0', '9'), ('A', 'F'), ('a', 'f')]
    | _ => none
  ranges?.map fun ranges => CodeSet.ofRanges (ranges.map fun r => (r.1.toNat, r.2.toNat))

/-- The largest ASCII code point. -/
def asciiEnd : Nat := 0x7F

/-- The ASCII letters in both cases for every ASCII letter of a set. -/
def closeUnderAsciiCase (set : CodeSet) : CodeSet :=
  let shifted (low high target : Nat) : List (Nat × Nat) :=
    ((List.range (high - low + 1)).filter fun i => set.contains (low + i)).map fun i =>
      (target + i, target + i)
  set.union (CodeSet.ofRanges (shifted 0x41 0x5A 0x61 ++ shifted 0x61 0x7A 0x41))

/-- A set as the flags want it: closed under case, and then negated. Without Unicode a set must stay
within ASCII. -/
def foldAndNegate? (flags : Flags) (negated : Bool) (set : CodeSet) : Option CodeSet :=
  let folded :=
    if flags.ignoreCase then
      if flags.unicode then Unicode.Folding.closeUnderCase set else closeUnderAsciiCase set
    else set
  if negated then
    if flags.unicode then some folded.complement else none
  else if flags.unicode || folded.within asciiEnd then some folded
  else none

/-- The classes of digits, blanks and word characters. -/
def letterClass? (flags : Flags) (letter : Char) : Option CodeSet :=
  let negated := letter.isUpper
  let set? : Option CodeSet := match letter.toLower with
    | 'd' =>
      if flags.unicode then Unicode.Category.setNamed? "nd" else asciiClass? "digit"
    | 's' =>
      if flags.unicode then Unicode.Property.setNamed? "whitespace" else asciiClass? "space"
    | 'w' => if flags.unicode then some Unicode.Property.wordSet else asciiClass? "word"
    | _ => none
  set?.bind fun set =>
    if negated then if flags.unicode then some set.complement else none else some set

/-- A name as property names are compared: ASCII only, in lower case, without separators and without
`is` at the beginning. -/
def propertyName (text : List Char) : String :=
  let plain (cs : List Char) : List Char :=
    ((cs.filter fun c => c.toNat < 0x80 && c != ' ' && c != '_' && c != '-')).map Char.toLower
  match text with
  | a :: b :: rest =>
    if a.toLower = 'i' && b.toLower = 's' then
      let name := plain rest
      String.ofList (if name = ['c'] then ['i', 's', 'c'] else name)
    else String.ofList (plain text)
  | _ => String.ofList (plain text)

/-- The set of a property given by one name: a binary property, a category, or a script. A few short
names belong to a category although properties have them too. -/
def namedSet? (text : List Char) : Option CodeSet :=
  let name := propertyName text
  let binary? :=
    if name = "cf" || name = "sc" || name = "lc" then none
    else Unicode.Property.setNamed? name
  match binary? with
  | some set => some set
  | none =>
    match Unicode.Category.setNamed? name with
    | some set => some set
    | none => Unicode.Script.setNamed? name

/-- The set of a property given by name and value. -/
def valuedSet? (name value : List Char) : Option CodeSet :=
  let value := propertyName value
  match propertyName name with
  | "generalcategory" | "gc" | "category" => Unicode.Category.setNamed? value
  | "script" | "sc" => Unicode.Script.setNamed? value
  | "scriptextensions" | "scx" => Unicode.Script.extensionsNamed? value
  | "age" => Unicode.Age.setNamed? value
  | "graphemeclusterbreak" | "gcb" => Unicode.Break.clusterNamed? value
  | "wordbreak" | "wb" => Unicode.Break.wordNamed? value
  | "sentencebreak" | "sb" => Unicode.Break.sentenceNamed? value
  | _ => none

/-- The two parts of a text around the first place where `mark` stands. -/
def splitAt? (mark : List Char) : List Char → Option (List Char × List Char)
  | [] => none
  | c :: rest =>
    if mark.isPrefixOf (c :: rest) then some ([], (c :: rest).drop mark.length)
    else (splitAt? mark rest).map fun (before, after) => (c :: before, after)

/-- The set that stands between the braces of a property escape, and whether it is excluded. -/
def bracedSet? (text : List Char) : Option (CodeSet × Bool) :=
  match splitAt? ['!', '='] text with
  | some (name, value) => (valuedSet? name value).map fun set => (set, true)
  | none =>
    match splitAt? [':'] text with
    | some (name, value) => (valuedSet? name value).map fun set => (set, false)
    | none =>
      match splitAt? ['='] text with
      | some (name, value) => (valuedSet? name value).map fun set => (set, false)
      | none => (namedSet? text).map fun set => (set, false)

/-- Reads characters up to a closing brace, leaving out blanks where the flags say so. -/
def untilBrace? (flags : Flags) : Nat → List Char → Option (List Char × List Char)
  | 0, _ => none
  | budget + 1, text =>
    match dropSpaces flags text with
    | [] => none
    | '}' :: rest => some ([], rest)
    | c :: rest =>
      (untilBrace? flags budget rest).map fun (inside, after) => (c :: inside, after)

/-- Reads the name of a property, in braces or a single letter; answers its set, and whether the
name excludes it. -/
def readPropertySet? (flags : Flags) (text : List Char) :
    Option ((CodeSet × Bool) × List Char) :=
  match dropSpaces flags text with
  | [] => none
  | '{' :: rest => do
    let (inside, after) ← untilBrace? flags (rest.length + 1) rest
    let found ← bracedSet? inside
    return (found, after)
  | '\\' :: _ => none
  | c :: rest => do
    let set ← namedSet? [c]
    return ((set, false), dropSpaces flags rest)

/-- Reads the property after `\p` or `\P`; there are properties only with the Unicode flag. -/
def readProperty? (flags : Flags) (negated : Bool) (text : List Char) :
    Option (Primitive × List Char) := do
  guard flags.unicode
  let ((set, excluded), rest) ← readPropertySet? flags text
  let set ← foldAndNegate? flags (negated != excluded) set
  return (.set set, rest)

def hexDigit? (c : Char) : Option Nat :=
  if '0' ≤ c ∧ c ≤ '9' then some (c.toNat - '0'.toNat)
  else if 'a' ≤ c ∧ c ≤ 'f' then some (c.toNat - 'a'.toNat + 10)
  else if 'A' ≤ c ∧ c ≤ 'F' then some (c.toNat - 'A'.toNat + 10)
  else none

/-- The character with a code point, if it is one. -/
def scalar? (code : Nat) : Option Char :=
  if code.isValidChar then some (Char.ofNat code) else none

/-- Reads a fixed number of hexadecimal digits. -/
def readHexDigits? (flags : Flags) : Nat → Nat → List Char → Option (Nat × List Char)
  | 0, value, text => some (value, text)
  | digits + 1, value, text =>
    match text with
    | [] => none
    | c :: rest =>
      (hexDigit? c).bind fun d =>
        readHexDigits? flags digits (value * 16 + d) (dropSpaces flags rest)

/-- The value of hexadecimal digits; the number may not pass thirty-two bits. -/
def hexValue? (digits : List Char) : Option Nat :=
  if digits.isEmpty then none
  else
    (digits.foldlM (fun value c => (hexDigit? c).map (value * 16 + ·)) 0).bind fun value =>
      if value < Nat.pow 2 32 then some value else none

/-- Reads a code point in hexadecimal, either of fixed length or in braces. -/
def readHex? (flags : Flags) (digits : Nat) (text : List Char) :
    Option (Primitive × List Char) :=
  match dropSpaces flags text with
  | [] => none
  | '{' :: rest => do
    let (inside, after) ← untilBrace? flags (rest.length + 1) rest
    let c ← (hexValue? inside).bind scalar?
    return (.literal c, dropSpaces flags after)
  | c :: rest => do
    let (value, after) ← readHexDigits? flags digits 0 (c :: rest)
    let c ← scalar? value
    return (if digits = 2 then .byte c else .literal c, after)

/-- Reads the letters of a word assertion in braces. -/
def edgeLetters (flags : Flags) : Nat → List Char → List Char × List Char
  | 0, text => ([], text)
  | _ + 1, [] => ([], [])
  | budget + 1, c :: rest =>
    if c.isAlpha || c = '-' then
      let (letters, after) := edgeLetters flags budget (dropSpaces flags rest)
      (c :: letters, after)
    else ([], c :: rest)

/-- The word assertion with a name in braces. -/
def edgeNamed? (name : String) : Option WordEdge :=
  match name with
  | "start" => some .start
  | "end" => some .finish
  | "start-half" => some .startHalf
  | "end-half" => some .finishHalf
  | _ => none

/-- Reads what follows `\b`: a name in braces, or nothing. A brace with no letter after it opens a
counted repetition and stays where it is. -/
def readBoundary? (flags : Flags) (text : List Char) : Option (Primitive × List Char) :=
  match text with
  | '{' :: inside =>
    match dropSpaces flags inside with
    | [] => none
    | c :: rest =>
      if c.isAlpha || c = '-' then
        match edgeLetters flags (rest.length + 1) (c :: rest) with
        | (letters, '}' :: after) =>
          (edgeNamed? (String.ofList letters)).map fun edge =>
            (.check (.word edge flags.unicode), after)
        | _ => none
      else some (.check (.word .boundary flags.unicode), text)
  | _ => some (.check (.word .boundary flags.unicode), text)

/-- Reads what follows a backslash. -/
def readEscape? (flags : Flags) : List Char → Option (Primitive × List Char)
  | [] => none
  | c :: rest =>
    if isEscapable c then some (.literal c, rest)
    else match c with
      | 'x' => readHex? flags 2 rest
      | 'u' => readHex? flags 4 rest
      | 'U' => readHex? flags 8 rest
      | 'p' => readProperty? flags false rest
      | 'P' => readProperty? flags true rest
      | 'd' | 's' | 'w' | 'D' | 'S' | 'W' =>
        (letterClass? flags c).map fun set => (.set set, rest)
      | 'a' => some (.literal '\x07', rest)
      | 'f' => some (.literal '\x0c', rest)
      | 't' => some (.literal '\t', rest)
      | 'n' => some (.literal '\n', rest)
      | 'r' => some (.literal '\r', rest)
      | 'v' => some (.literal '\x0b', rest)
      | 'A' => some (.check .textStart, rest)
      | 'z' => some (.check .textEnd, rest)
      | 'b' => readBoundary? flags rest
      | 'B' => some (.check (.word .noBoundary flags.unicode), rest)
      | '<' => some (.check (.word .start flags.unicode), rest)
      | '>' => some (.check (.word .finish flags.unicode), rest)
      | _ => none

/-- The set of a single literal character. Without Unicode, a byte beyond ASCII is refused. -/
def literalSet? (flags : Flags) (bytes : Bool) (c : Char) : Option CodeSet :=
  let code := c.toNat
  if flags.unicode then
    some (if flags.ignoreCase then Unicode.Folding.closeUnderCase (.single code)
      else .single code)
  else if bytes && asciiEnd < code then none
  else some (if flags.ignoreCase then closeUnderAsciiCase (.single code) else .single code)

end SoundChange.Pattern
