import SoundChange.Json.Value

/-!
Writing JSON. Containers are broken over lines and indented by two blanks; empty ones stay closed.
In texts only quotes, backslashes and control characters are escaped.
-/
namespace SoundChange.Json

def hexNibble (n : Nat) : Char :=
  if n < 10 then Char.ofNat ('0'.toNat + n) else Char.ofNat ('a'.toNat + (n - 10))

/-- How one character of a text is written. -/
def writeChar (c : Char) : List Char :=
  if c = '"' then ['\\', '"']
  else if c = '\\' then ['\\', '\\']
  else if c = '\x08' then ['\\', 'b']
  else if c = '\x0c' then ['\\', 'f']
  else if c = '\n' then ['\\', 'n']
  else if c = '\r' then ['\\', 'r']
  else if c = '\t' then ['\\', 't']
  else if c.toNat < 0x20 then
    ['\\', 'u', '0', '0', hexNibble (c.toNat / 16), hexNibble (c.toNat % 16)]
  else [c]

def writeText (s : List Char) : List Char :=
  '"' :: (s.flatMap writeChar ++ ['"'])

/-- A new line at a given depth. -/
def newLine (depth : Nat) : List Char :=
  '\n' :: List.replicate (2 * depth) ' '

mutual

/-- A value whose lines stand at a given depth. -/
def write (depth : Nat) : Value → List Char
  | .null => "null".toList
  | .boolean b => (if b then "true" else "false").toList
  | .integer n => (toString n).toList
  | .real x => (realText x).toList
  | .text s => writeText s.toList
  | .list [] => ['[', ']']
  | .list (item :: items) =>
    '[' :: (newLine (depth + 1) ++ write (depth + 1) item ++ writeItems (depth + 1) items ++
      newLine depth ++ [']'])
  | .record [] => ['{', '}']
  | .record ((key, v) :: fields) =>
    '{' :: (newLine (depth + 1) ++ writeText key.toList ++ ':' :: ' ' :: write (depth + 1) v ++
      writeFields (depth + 1) fields ++ newLine depth ++ ['}'])

/-- The items of a list after the first one. -/
def writeItems (depth : Nat) : List Value → List Char
  | [] => []
  | item :: items => ',' :: (newLine depth ++ write depth item ++ writeItems depth items)

/-- The fields of a record after the first one. -/
def writeFields (depth : Nat) : List (String × Value) → List Char
  | [] => []
  | (key, v) :: fields =>
    ',' :: (newLine depth ++ writeText key.toList ++ ':' :: ' ' :: write depth v ++
      writeFields depth fields)

end

/-- A value as indented text. -/
def pretty (v : Value) : String :=
  String.ofList (write 0 v)

end SoundChange.Json
