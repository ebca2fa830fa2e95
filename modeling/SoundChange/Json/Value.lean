import SoundChange.Number.Shortest
import SoundChange.Text.Quoted

/-!
JSON values. Numbers are whole numbers of at most sixty-four bits or doubles. A record keeps its
fields in the order in which they were written; `Value.tidy` sorts the fields of all records by key
and keeps, of fields with the same key, the last one.
-/
namespace SoundChange.Json

inductive Value where
  | null
  | boolean (b : Bool)
  | integer (n : Int)
  | real (x : Float)
  | text (s : String)
  | list (items : List Value)
  | record (fields : List (String × Value))
  deriving Inhabited

/-- The layout of decimal digits: positional for exponents from minus five to fifteen, always with a
decimal point, else with a signed exponent of at least two digits. -/
def layout (digits : List Char) (last : Int) : List Char :=
  let exponent := last + digits.length - 1
  if -5 ≤ exponent ∧ exponent ≤ 15 then
    if last ≥ 0 then digits ++ List.replicate last.toNat '0' ++ ['.', '0']
    else if exponent ≥ 0 then
      let whole := digits.take (exponent.toNat + 1)
      whole ++ '.' :: digits.drop (exponent.toNat + 1)
    else '0' :: '.' :: (List.replicate (-exponent - 1).toNat '0' ++ digits)
  else
    let fraction := if digits.length > 1 then '.' :: digits.drop 1 else []
    let size := (toString exponent.natAbs).toList
    let padded := if size.length < 2 then '0' :: size else size
    digits.take 1 ++ fraction ++ ['e', if exponent < 0 then '-' else '+'] ++ padded

/-- The text of a finite double: the fewest digits that read back. -/
def realText (x : Float) : String :=
  let bits := x.toBits.toNat
  let sign := if bits ≥ Nat.pow 2 63 then "-" else ""
  let magnitude := bits % Nat.pow 2 63
  if magnitude = 0 then sign ++ "0.0"
  else
    let (significand, exponent) := Number.Format.double.unpack magnitude
    let (digits, last) := Number.shortest significand exponent
    sign ++ String.ofList (layout (toString digits).toList last)

namespace Value

/-- What a value is, in the words of a type fault. -/
def describe : Value → String
  | null => "null"
  | boolean b => "boolean `" ++ (if b then "true" else "false") ++ "`"
  | integer n => "integer `" ++ toString n ++ "`"
  | real x => "floating point `" ++ realText x ++ "`"
  | text s => "string " ++ Text.quoted s
  | list _ => "sequence"
  | record _ => "map"

/-- Puts a field into fields sorted by key, over a field with the same key. -/
def insertField (key : String) (value : Value) : List (String × Value) → List (String × Value)
  | [] => [(key, value)]
  | (key', value') :: others =>
    if key < key' then (key, value) :: (key', value') :: others
    else if key = key' then (key, value) :: others
    else (key', value') :: insertField key value others

/-- Fields sorted by key; of fields with the same key the last one is kept. -/
def sortFields (fields : List (String × Value)) : List (String × Value) :=
  fields.foldl (fun sorted field => insertField field.1 field.2 sorted) []

mutual

/-- The value with the fields of every record sorted and without repeated keys. -/
def tidy : Value → Value
  | list items => list (tidyItems items)
  | record fields => record (sortFields (tidyFields fields))
  | value => value

def tidyItems : List Value → List Value
  | [] => []
  | item :: others => item.tidy :: tidyItems others

def tidyFields : List (String × Value) → List (String × Value)
  | [] => []
  | (key, value) :: others => (key, value.tidy) :: tidyFields others

end

/-- The field of a record with a key. -/
def field? (key : String) : List (String × Value) → Option Value
  | [] => none
  | (key', value) :: others => if key' = key then some value else field? key others

end Value

end SoundChange.Json
