import SoundChange.Json.Value

/-!
Tokens of JSON text. The lexer gives every text a list of tokens; where the text stops making sense
the list ends in `Token.invalid`, so that a reader meets the fault exactly where it stands. Numbers
and texts keep what a reader may still refuse: numbers beyond the doubles, and texts with half of a
surrogate pair.
-/
namespace SoundChange.Json

/-- A number as it is written. -/
structure Numeral where
  negative : Bool
  whole : List Char
  /-- The digits after the decimal point, if there is one. -/
  fraction : Option (List Char)
  exponent : Option Int
  deriving DecidableEq, Repr

inductive Token where
  | openRecord
  | closeRecord
  | openList
  | closeList
  | colon
  | comma
  | null
  | boolean (b : Bool)
  | number (n : Numeral)
  /-- A text; none if it holds half of a surrogate pair. -/
  | text (s : Option String)
  | invalid
  deriving DecidableEq, Repr

def isDigit (c : Char) : Bool :=
  '0' ≤ c && c ≤ '9'

def hexDigit? (c : Char) : Option Nat :=
  if '0' ≤ c ∧ c ≤ '9' then some (c.toNat - '0'.toNat)
  else if 'a' ≤ c ∧ c ≤ 'f' then some (c.toNat - 'a'.toNat + 10)
  else if 'A' ≤ c ∧ c ≤ 'F' then some (c.toNat - 'A'.toNat + 10)
  else none

/-- The value of four hexadecimal digits. -/
def hex4? (a b c d : Char) : Option Nat :=
  match hexDigit? a, hexDigit? b, hexDigit? c, hexDigit? d with
  | some a, some b, some c, some d => some (((a * 16 + b) * 16 + c) * 16 + d)
  | _, _, _, _ => none

/-- One unit of a text: a character, or one half of a surrogate pair. -/
inductive Piece where
  | char (c : Char)
  | half (code : Nat)
  deriving DecidableEq, Repr

def isHighHalf (code : Nat) : Bool :=
  0xD800 ≤ code && code < 0xDC00

def isLowHalf (code : Nat) : Bool :=
  0xDC00 ≤ code && code < 0xE000

/-- The unit with a given sixteen-bit code. -/
def pieceOfCode (code : Nat) : Piece :=
  if isHighHalf code || isLowHalf code then .half code else .char (Char.ofNat code)

/-- The character that a letter after a backslash stands for. -/
def shortEscape? (c : Char) : Option Char :=
  if c = '"' then some '"'
  else if c = '\\' then some '\\'
  else if c = '/' then some '/'
  else if c = 'b' then some '\x08'
  else if c = 'f' then some '\x0c'
  else if c = 'n' then some '\n'
  else if c = 'r' then some '\r'
  else if c = 't' then some '\t'
  else none

/-- Adds a unit to the units of a text and keeps what follows the text. -/
def consPiece (piece : Piece) (scanned : Option (List Piece × List Char)) :
    Option (List Piece × List Char) :=
  scanned.map fun (pieces, rest) => (piece :: pieces, rest)

/-- The units of a text up to its closing quote, and what follows. -/
def scanText : List Char → Option (List Piece × List Char)
  | [] => none
  | '"' :: rest => some ([], rest)
  | '\\' :: 'u' :: a :: b :: c :: d :: rest =>
    match hex4? a b c d with
    | some code => consPiece (pieceOfCode code) (scanText rest)
    | none => none
  | '\\' :: c :: rest =>
    match shortEscape? c with
    | some c => consPiece (.char c) (scanText rest)
    | none => none
  | c :: rest => if c.toNat < 0x20 then none else consPiece (.char c) (scanText rest)

/-- The characters of a list of units; none if a half stands alone. -/
def joinPieces : List Piece → Option (List Char)
  | [] => some []
  | .char c :: rest => (joinPieces rest).map (c :: ·)
  | .half high :: .half low :: rest =>
    if isHighHalf high && isLowHalf low then
      (joinPieces rest).map
        (Char.ofNat (0x10000 + (high - 0xD800) * 0x400 + (low - 0xDC00)) :: ·)
    else none
  | .half _ :: _ => none

/-- The digits at the start of a text, and what follows. -/
def scanDigits (text : List Char) : List Char × List Char :=
  text.span isDigit

/-- The fraction at the start of a text, if there is one; a point without digits is a fault. -/
def scanFraction : List Char → Option (Option (List Char) × List Char)
  | '.' :: rest =>
    match scanDigits rest with
    | ([], _) => none
    | (digits, rest) => some (some digits, rest)
  | rest => some (none, rest)

def natOfDigits (digits : List Char) : Nat :=
  digits.foldl (fun n c => n * 10 + (c.toNat - '0'.toNat)) 0

/-- The digits of an exponent after its sign. -/
def scanExponentDigits (negative : Bool) (text : List Char) : Option (Option Int × List Char) :=
  match scanDigits text with
  | ([], _) => none
  | (digits, rest) =>
    let n : Int := natOfDigits digits
    some (some (if negative then -n else n), rest)

/-- The exponent at the start of a text, if there is one. -/
def scanExponent : List Char → Option (Option Int × List Char)
  | c :: rest =>
    if c = 'e' ∨ c = 'E' then
      match rest with
      | '+' :: rest => scanExponentDigits false rest
      | '-' :: rest => scanExponentDigits true rest
      | rest => scanExponentDigits false rest
    else some (none, c :: rest)
  | [] => some (none, [])

/-- A number after its sign: no further digit may follow a leading zero. -/
def scanNumeral (negative : Bool) (text : List Char) : Option (Numeral × List Char) :=
  match scanDigits text with
  | ([], _) => none
  | (whole, rest) =>
    if whole.head? = some '0' ∧ whole.length > 1 then none
    else
      match scanFraction rest with
      | none => none
      | some (fraction, rest) =>
        match scanExponent rest with
        | none => none
        | some (exponent, rest) => some (⟨negative, whole, fraction, exponent⟩, rest)

/-- The token at the start of a text that does not start with a blank, and what follows. -/
def scanToken : List Char → Option (Token × List Char)
  | '{' :: rest => some (.openRecord, rest)
  | '}' :: rest => some (.closeRecord, rest)
  | '[' :: rest => some (.openList, rest)
  | ']' :: rest => some (.closeList, rest)
  | ':' :: rest => some (.colon, rest)
  | ',' :: rest => some (.comma, rest)
  | 'n' :: 'u' :: 'l' :: 'l' :: rest => some (.null, rest)
  | 't' :: 'r' :: 'u' :: 'e' :: rest => some (.boolean true, rest)
  | 'f' :: 'a' :: 'l' :: 's' :: 'e' :: rest => some (.boolean false, rest)
  | '"' :: rest =>
    (scanText rest).map fun (pieces, rest) => (.text ((joinPieces pieces).map String.ofList), rest)
  | '-' :: rest => (scanNumeral true rest).map fun (n, rest) => (.number n, rest)
  | c :: rest =>
    if isDigit c then (scanNumeral false (c :: rest)).map fun (n, rest) => (.number n, rest)
    else none
  | [] => none

/-- Blanks between tokens. -/
def isSpace (c : Char) : Bool :=
  c == ' ' || c == '\n' || c == '\t' || c == '\r'

/-- The tokens of a text, at most as many as `fuel`. -/
def lexUpTo : Nat → List Char → List Token
  | 0, _ => []
  | fuel + 1, text =>
    match text.dropWhile isSpace with
    | [] => []
    | c :: rest =>
      match scanToken (c :: rest) with
      | none => [.invalid]
      | some (token, rest) => token :: lexUpTo fuel rest

/-- The tokens of a text. A text has no more tokens than characters. -/
def lex (text : List Char) : List Token :=
  lexUpTo (text.length + 1) text

end SoundChange.Json
