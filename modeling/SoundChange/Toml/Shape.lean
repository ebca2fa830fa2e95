import SoundChange.Dictionary
import SoundChange.Toml.Reader

/-!
Taking TOML values apart. A field is found by its name in a table, or by its position in a list that
stands for a table with its fields in a fixed order; a list may leave out the last fields. Whole
numbers are taken where doubles are expected, not the other way round.
-/
namespace SoundChange.Toml

/-- Why a document cannot be used. -/
inductive Fault where
  | malformed
  | mistyped
  deriving DecidableEq, Repr

def Fault.message : Fault → String
  | malformed => "TOML parse error: the document breaks a rule of the format"
  | mistyped => "TOML parse error: a value is missing or has the wrong type"

/-- The key under which a date stands when it is taken for a table. -/
def dateKey : String := "$__toml_private_datetime"

namespace Value

def text? : Value → Option String
  | .text s => some s
  | _ => none

def boolean? : Value → Option Bool
  | .boolean b => some b
  | _ => none

/-- A whole number that is not negative. -/
def natural? : Value → Option Nat
  | .integer n => if 0 ≤ n then some n.toNat else none
  | _ => none

def real? : Value → Option Float
  | .real x => some x
  | .integer n => some (Number.doubleOfInt n)
  | _ => none

/-- A number in thirty-two bits. -/
def single? : Value → Option Float32
  | .real x => some x.toFloat32
  | .integer n => some (Number.singleOfInt n)
  | _ => none

/-- The items of a list, each taken apart. -/
def items? {α : Type} (item? : Value → Option α) : Value → Option (List α)
  | .list items => items.mapM item?
  | _ => none

/-- The entries of a table. -/
def entries? : Value → Option (List (String × Value))
  | .table entries => some entries
  | .date stamp => some [(dateKey, .text stamp)]
  | _ => none

/-- The entries of a table, each value taken apart. -/
def dictionary? {α : Type} (part? : Value → Option α) (v : Value) : Option (Dictionary α) :=
  v.entries?.bind fun entries =>
    (entries.mapM fun entry => (part? entry.2).map fun a => (entry.1, a)).map Dictionary.ofList

/-- The fields of a table, or of a list that gives them in the order of `names`. -/
def fields? (names : List String) : Value → Option (List (String × Value))
  | .list items => some (names.zip items)
  | v => v.entries?

end Value

/-- A field that has a default: a value of the wrong shape is a fault, no value at all is not. -/
def optional? {α : Type} (value? : Value → Option α) (default : α) (key : String)
    (fields : List (String × Value)) : Option α :=
  match Dictionary.lookup key fields with
  | some v => value? v
  | none => some default

/-- A field that must be there. -/
def required? {α : Type} (value? : Value → Option α) (key : String)
    (fields : List (String × Value)) : Option α :=
  (Dictionary.lookup key fields).bind value?

/-- The document of a text, taken apart. -/
def read {α : Type} (shape? : List (String × Value) → Option α) (text : String) :
    Except Fault α :=
  match parse? text with
  | none => .error .malformed
  | some entries =>
    match shape? entries with
    | none => .error .mistyped
    | some a => .ok a

end SoundChange.Toml
