import SoundChange.Toml.Scanner

/-!
Dates and times. A date may be followed by a time and that by an offset; a time may stand alone.
Months, days, hours, minutes and seconds must be within their limits, and the day within its month.
The standard form has a capital T and Z, and fractions of a second without final zeros.
-/
namespace SoundChange.Toml

/-- What became of an attempt to read a date. -/
inductive DateScan where
  /-- The text does not start with a date. -/
  | absent
  /-- The text starts with a date that breaks a rule. -/
  | broken
  | found (text : List Char) (rest : List Char)

/-- Exactly `count` digits. -/
def takeDigits : Nat → List Char → Option (List Char × List Char)
  | 0, rest => some ([], rest)
  | count + 1, c :: rest => if isDigit c then consChar c (takeDigits count rest) else none
  | _, [] => none

/-- Two digits for a number from `low` to `high`. -/
def twoDigits (low high : Nat) (text : List Char) : Option (List Char × List Char) :=
  match takeDigits 2 text with
  | some (digits, rest) =>
    if low ≤ natOfDigits digits ∧ natOfDigits digits ≤ high then some (digits, rest) else none
  | none => none

def isLeapYear (year : Nat) : Bool :=
  year % 4 == 0 && (year % 100 != 0 || year % 400 == 0)

def daysInMonth (year month : Nat) : Nat :=
  if month = 2 then if isLeapYear year then 29 else 28
  else if month = 4 ∨ month = 6 ∨ month = 9 ∨ month = 11 then 30
  else 31

/-- A date after its year and the hyphen behind it. -/
def scanMonthDay (year : List Char) (text : List Char) : Option (List Char × List Char) :=
  match twoDigits 1 12 text with
  | some (month, '-' :: rest) =>
    match twoDigits 1 (daysInMonth (natOfDigits year) (natOfDigits month)) rest with
    | some (day, rest) => some (year ++ '-' :: month ++ '-' :: day, rest)
    | none => none
  | _ => none

/-- The digits of a fraction of a second in standard form: at most nine, no final zeros. -/
def fractionText (digits : List Char) : List Char :=
  match ((digits.take 9).reverse.dropWhile (· == '0')).reverse with
  | [] => []
  | kept => '.' :: kept

/-- A time after its hour and the colon behind it. -/
def scanMinuteSecond (hour : List Char) (text : List Char) : Option (List Char × List Char) :=
  match twoDigits 0 59 text with
  | some (minute, ':' :: rest) =>
    match twoDigits 0 60 rest with
    | some (second, rest) =>
      let time := hour ++ ':' :: minute ++ ':' :: second
      match rest with
      | '.' :: more =>
        match more.span isDigit with
        | ([], _) => some (time, rest)
        | (digits, more) => some (time ++ fractionText digits, more)
      | _ => some (time, rest)
    | none => none
  | _ => none

/-- A time. -/
def scanTime (text : List Char) : DateScan :=
  match twoDigits 0 23 text with
  | some (hour, ':' :: rest) =>
    match scanMinuteSecond hour rest with
    | some (time, rest) => .found time rest
    | none => .broken
  | _ => .absent

/-- An offset from universal time. -/
def scanOffset (text : List Char) : DateScan :=
  match text with
  | [] => .absent
  | c :: rest =>
    if c = 'Z' ∨ c = 'z' then .found ['Z'] rest
    else if c = '+' ∨ c = '-' then
      match twoDigits 0 23 rest with
      | some (hour, ':' :: rest) =>
        match twoDigits 0 59 rest with
        | some (minute, rest) => .found (c :: hour ++ ':' :: minute) rest
        | none => .broken
      | _ => .broken
    else .absent

def isTimeMark (c : Char) : Bool :=
  c == 'T' || c == 't' || c == ' '

/-- The time and offset that may follow a date. -/
def scanAfterDate (date : List Char) (text : List Char) : DateScan :=
  match text with
  | [] => .found date []
  | mark :: rest =>
    if isTimeMark mark then
      match scanTime rest with
      | .absent => .found date text
      | .broken => .broken
      | .found time rest =>
        match scanOffset rest with
        | .absent => .found (date ++ 'T' :: time) rest
        | .broken => .broken
        | .found offset rest => .found (date ++ 'T' :: time ++ offset) rest
    else .found date text

/-- A date, a time, or both. -/
def scanDate (text : List Char) : DateScan :=
  match takeDigits 4 text with
  | some (year, '-' :: rest) =>
    match scanMonthDay year rest with
    | some (date, rest) => scanAfterDate date rest
    | none => .broken
  | _ => scanTime text

end SoundChange.Toml
