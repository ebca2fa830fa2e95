import SoundChange.Number.Binary
import SoundChange.Number.Whole
import SoundChange.Toml.Document

/-!
The small parts of TOML text: blanks, comments, keys, texts, numbers and dates. Every scanner takes
the characters from its place on and hands back what it read and what follows, or nothing when the
text breaks a rule.
-/
namespace SoundChange.Toml

/-- A blank within a line. -/
def isBlank (c : Char) : Bool :=
  c == ' ' || c == '\t'

/-- A character that may stand in a comment or a text. -/
def isPlain (c : Char) : Bool :=
  c == '\t' || (' ' ≤ c && c ≤ '~') || 0x80 ≤ c.toNat

def skipBlanks (text : List Char) : List Char :=
  text.dropWhile isBlank

/-- What follows a line end. -/
def lineEnd? : List Char → Option (List Char)
  | '\n' :: rest => some rest
  | '\r' :: '\n' :: rest => some rest
  | _ => none

/-- What follows the end of a line, or of the text. -/
def lineOrTextEnd? : List Char → Option (List Char)
  | [] => some []
  | text => lineEnd? text

/-- The end of a line that may hold blanks and a comment. -/
def trailing? (text : List Char) : Option (List Char) :=
  match skipBlanks text with
  | '#' :: rest => lineOrTextEnd? (rest.dropWhile isPlain)
  | rest => lineOrTextEnd? rest

/-- Skips blanks, line ends and comments between the items of a list. -/
def skipFiller (commented : Bool) : List Char → Option (List Char)
  | [] => if commented then none else some []
  | '\n' :: rest => skipFiller false rest
  | '\r' :: '\n' :: rest => skipFiller false rest
  | c :: rest =>
    if commented then if isPlain c then skipFiller true rest else none
    else if isBlank c then skipFiller false rest
    else if c = '#' then skipFiller true rest
    else some (c :: rest)

def hexDigit? (c : Char) : Option Nat :=
  if '0' ≤ c ∧ c ≤ '9' then some (c.toNat - '0'.toNat)
  else if 'a' ≤ c ∧ c ≤ 'f' then some (c.toNat - 'a'.toNat + 10)
  else if 'A' ≤ c ∧ c ≤ 'F' then some (c.toNat - 'A'.toNat + 10)
  else none

/-- The number that a list of hexadecimal digits continues. -/
def hexFrom (value : Nat) : List Char → Option Nat
  | [] => some value
  | c :: rest =>
    match hexDigit? c with
    | some d => hexFrom (value * 16 + d) rest
    | none => none

/-- The character with a code point in hexadecimal. -/
def hexChar? (digits : List Char) : Option Char :=
  match hexFrom 0 digits with
  | some code => if code.isValidChar then some (Char.ofNat code) else none
  | none => none

/-- The character that a letter after a backslash stands for. -/
def shortEscape? (c : Char) : Option Char :=
  if c = 'b' then some '\x08'
  else if c = 't' then some '\t'
  else if c = 'n' then some '\n'
  else if c = 'f' then some '\x0c'
  else if c = 'r' then some '\r'
  else if c = '"' then some '"'
  else if c = '\\' then some '\\'
  else none

/-- The character of an escape sequence after its backslash, and what follows. -/
def escape? : List Char → Option (Char × List Char)
  | 'u' :: a :: b :: c :: d :: rest => (hexChar? [a, b, c, d]).map fun c => (c, rest)
  | 'U' :: a :: b :: c :: d :: e :: f :: g :: h :: rest =>
    (hexChar? [a, b, c, d, e, f, g, h]).map fun c => (c, rest)
  | c :: rest => (shortEscape? c).map fun c => (c, rest)
  | [] => none

/-- Adds a character to a scanned text. -/
def consChar (c : Char) (scanned : Option (List Char × List Char)) :
    Option (List Char × List Char) :=
  scanned.map fun (text, rest) => (c :: text, rest)

/-- A text between quotes, after the opening quote. At most `fuel` characters are read. -/
def scanBasic : Nat → List Char → Option (List Char × List Char)
  | 0, _ => none
  | _, [] => none
  | fuel + 1, c :: rest =>
    if c = '"' then some ([], rest)
    else if c = '\\' then
      match escape? rest with
      | some (c, rest) => consChar c (scanBasic fuel rest)
      | none => none
    else if isPlain c then consChar c (scanBasic fuel rest)
    else none

/-- A text between apostrophes, after the opening one. -/
def scanLiteral : List Char → Option (List Char × List Char)
  | [] => none
  | c :: rest =>
    if c = '\x27' then some ([], rest)
    else if isPlain c then consChar c (scanLiteral rest)
    else none

/-- The end of a text of several lines: three quotes, and up to two more that belong to the text. -/
def closing? (quote : Char) (text : List Char) : Option (List Char × List Char) :=
  let count := min 5 (text.takeWhile (· == quote)).length
  if count < 3 then none else some (List.replicate (count - 3) quote, text.drop count)

/-- Skips blanks and line ends. -/
def skipBlankLines : List Char → List Char
  | '\r' :: '\n' :: rest => skipBlankLines rest
  | c :: rest => if isBlank c || c == '\n' then skipBlankLines rest else c :: rest
  | [] => []

/-- A text of several lines between triple quotes, after the opening ones. -/
def scanLongBasic : Nat → List Char → Option (List Char × List Char)
  | 0, _ => none
  | fuel + 1, text =>
    match closing? '"' text with
    | some closed => some closed
    | none =>
      match text with
      | [] => none
      | '\n' :: rest => consChar '\n' (scanLongBasic fuel rest)
      | '\r' :: '\n' :: rest => consChar '\n' (scanLongBasic fuel rest)
      | '\\' :: rest =>
        match lineEnd? (skipBlanks rest) with
        | some rest => scanLongBasic fuel (skipBlankLines rest)
        | none =>
          match escape? rest with
          | some (c, rest) => consChar c (scanLongBasic fuel rest)
          | none => none
      | c :: rest => if isPlain c then consChar c (scanLongBasic fuel rest) else none

/-- A text of several lines between triple apostrophes, after the opening ones. -/
def scanLongLiteral : Nat → List Char → Option (List Char × List Char)
  | 0, _ => none
  | fuel + 1, text =>
    match closing? '\x27' text with
    | some closed => some closed
    | none =>
      match text with
      | [] => none
      | '\n' :: rest => consChar '\n' (scanLongLiteral fuel rest)
      | '\r' :: '\n' :: rest => consChar '\n' (scanLongLiteral fuel rest)
      | c :: rest => if isPlain c then consChar c (scanLongLiteral fuel rest) else none

/-- A line end right after the opening quotes of a long text does not belong to it. -/
def dropFirstLineEnd (text : List Char) : List Char :=
  (lineEnd? text).getD text

/-- A text of any of the four kinds. -/
def scanText (text : List Char) : Option (List Char × List Char) :=
  match text with
  | '"' :: '"' :: '"' :: rest => scanLongBasic (rest.length + 1) (dropFirstLineEnd rest)
  | '"' :: rest => scanBasic (rest.length + 1) rest
  | '\x27' :: '\x27' :: '\x27' :: rest => scanLongLiteral (rest.length + 1) (dropFirstLineEnd rest)
  | '\x27' :: rest => scanLiteral rest
  | _ => none

def isBareKey (c : Char) : Bool :=
  c.isAlphanum || c == '_' || c == '-'

/-- One part of a key. -/
def scanKeyPart (text : List Char) : Option (String × List Char) :=
  match text with
  | '"' :: rest => (scanBasic (rest.length + 1) rest).map fun (s, rest) => (String.ofList s, rest)
  | '\x27' :: rest => (scanLiteral rest).map fun (s, rest) => (String.ofList s, rest)
  | _ =>
    match text.span isBareKey with
    | ([], _) => none
    | (key, rest) => some (String.ofList key, rest)

/-- The parts of a dotted key, with blanks around each of them; at most `limit` parts. -/
def scanKey : Nat → List Char → Option (List String × List Char)
  | 0, _ => none
  | limit + 1, text =>
    match scanKeyPart (skipBlanks text) with
    | none => none
    | some (part, rest) =>
      match skipBlanks rest with
      | '.' :: rest => (scanKey limit rest).map fun (parts, rest) => (part :: parts, rest)
      | rest => some ([part], rest)

def isDigit (c : Char) : Bool :=
  '0' ≤ c && c ≤ '9'

/-- Digits that may be grouped by single underscores, after the first digit. -/
def scanGrouped (accepts : Char → Bool) : List Char → Option (List Char × List Char)
  | '_' :: c :: rest =>
    if accepts c then consChar c (scanGrouped accepts rest) else none
  | c :: rest =>
    if accepts c then consChar c (scanGrouped accepts rest)
    else if c = '_' then none
    else some ([], c :: rest)
  | [] => some ([], [])

/-- One or more digits. -/
def scanDigits (accepts : Char → Bool) : List Char → Option (List Char × List Char)
  | c :: rest => if accepts c then consChar c (scanGrouped accepts rest) else none
  | [] => none

/-- A sign, if there is one: whether it is a minus, and what follows. -/
def scanSign : List Char → Bool × List Char
  | '-' :: rest => (true, rest)
  | '+' :: rest => (false, rest)
  | rest => (false, rest)

def natOfDigits (digits : List Char) : Nat :=
  digits.foldl (fun n c => n * 10 + (c.toNat - '0'.toNat)) 0

/-- The largest whole number. -/
def integerLimit : Nat := Nat.pow 2 63

/-- A whole number in sixty-four bits. -/
def integer? (negative : Bool) (size : Nat) : Option Value :=
  if negative then if size ≤ integerLimit then some (.integer (-(Int.ofNat size))) else none
  else if size < integerLimit then some (.integer (Int.ofNat size))
  else none

/-- A double; one that is too large is a fault, unless it is negative. -/
def real? (negative : Bool) (digits : Nat) (exponent : Int) : Option Value :=
  match Number.doubleOfDecimal? digits exponent with
  | some x => some (.real (if negative then -x else x))
  | none => if negative then some (.real (-1.0 / 0.0)) else none

/-- The exponent of a number, after its letter. -/
def scanExponent (text : List Char) : Option (Int × List Char) :=
  let (negative, rest) := scanSign text
  (scanDigits isDigit rest).map fun (digits, rest) =>
    let n : Int := natOfDigits digits
    (if negative then -n else n, rest)

def isExponentMark (c : Char) : Bool :=
  c == 'e' || c == 'E'

/-- The exponent at this place, zero if there is none. -/
def scanOptionalExponent (text : List Char) : Option (Int × List Char) :=
  match text with
  | c :: rest => if isExponentMark c then scanExponent rest else some (0, text)
  | [] => some (0, [])

/-- A decimal number after its sign: a leading zero stands alone. -/
def scanDecimal (negative : Bool) (text : List Char) : Option (Value × List Char) :=
  let whole :=
    match text with
    | '0' :: rest => some (['0'], rest)
    | _ => scanDigits isDigit text
  match whole with
  | none => none
  | some (whole, '.' :: rest) =>
    match scanDigits isDigit rest with
    | none => none
    | some (fraction, rest) =>
      match scanOptionalExponent rest with
      | none => none
      | some (exponent, rest) =>
        (real? negative (natOfDigits (whole ++ fraction)) (exponent - fraction.length)).map
          fun v => (v, rest)
  | some (whole, c :: rest) =>
    if isExponentMark c then
      match scanExponent rest with
      | none => none
      | some (exponent, rest) =>
        (real? negative (natOfDigits whole) exponent).map fun v => (v, rest)
    else (integer? negative (natOfDigits whole)).map fun v => (v, c :: rest)
  | some (whole, []) => (integer? negative (natOfDigits whole)).map fun v => (v, [])

def isHexDigit (c : Char) : Bool :=
  (hexDigit? c).isSome

def isOctalDigit (c : Char) : Bool :=
  '0' ≤ c && c ≤ '7'

def isBinaryDigit (c : Char) : Bool :=
  c == '0' || c == '1'

/-- A whole number in another base, after its mark. -/
def scanBased (base : Nat) (accepts : Char → Bool) (text : List Char) :
    Option (Value × List Char) :=
  match scanDigits accepts text with
  | none => none
  | some (digits, rest) =>
    let n := digits.foldl (fun n c => n * base + (hexDigit? c).getD 0) 0
    (integer? false n).map fun v => (v, rest)

def signed (negative : Bool) (x : Float) : Value :=
  .real (if negative then -x else x)

/-- A number. -/
def scanNumber (text : List Char) : Option (Value × List Char) :=
  match text with
  | '0' :: 'x' :: rest => scanBased 16 isHexDigit rest
  | '0' :: 'o' :: rest => scanBased 8 isOctalDigit rest
  | '0' :: 'b' :: rest => scanBased 2 isBinaryDigit rest
  | _ =>
    let (negative, rest) := scanSign text
    match rest with
    | 'i' :: 'n' :: 'f' :: rest => some (signed negative (1.0 / 0.0), rest)
    | 'n' :: 'a' :: 'n' :: rest => some (signed negative (0.0 / 0.0), rest)
    | _ => scanDecimal negative rest

end SoundChange.Toml
