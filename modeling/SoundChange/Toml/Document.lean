/-!
TOML documents as trees. A table knows how it came about: by a header of its own, by the header of a
table below it, or by a dotted key. A table with a header of its own cannot be opened again, and a
dotted key may only add to tables that dotted keys made.
-/
namespace SoundChange.Toml

inductive Value where
  | text (s : String)
  | integer (n : Int)
  | real (x : Float)
  | boolean (b : Bool)
  /-- A date, a time, or both, in its standard form. -/
  | date (text : String)
  | list (items : List Value)
  | table (entries : List (String × Value))
  deriving Inhabited

/-- How a table came about. -/
inductive Origin where
  /-- By a header of its own. -/
  | header
  /-- By the header of a table below it. -/
  | implied
  | dotted
  deriving DecidableEq, Repr

/-- A node of a document. The tables of an array of tables are listed with the latest one first. -/
inductive Node where
  | value (v : Value)
  | table (origin : Origin) (entries : List (String × Node))
  | tables (items : List (List (String × Node)))

/-- The entries of a table. -/
abbrev Entries : Type := List (String × Node)

namespace Entries

def find? (key : String) : Entries → Option Node
  | [] => none
  | (key', node) :: others => if key' = key then some node else find? key others

/-- Puts a node in the place of the node with the same key, or at the end. -/
def put (key : String) (node : Node) : Entries → Entries
  | [] => [(key, node)]
  | (key', node') :: others =>
    if key' = key then (key, node) :: others else (key', node') :: put key node others

/-- Puts a new entry at the end; a key that is taken is a fault. -/
def add? (key : String) (node : Node) (entries : Entries) : Option Entries :=
  match entries.find? key with
  | some _ => none
  | none => some (entries ++ [(key, node)])

/-- Adds a value under a dotted key, given as the tables on the way and the last part. -/
def addDotted? (key : String) (v : Value) : List String → Entries → Option Entries
  | [], entries => entries.add? key (.value v)
  | part :: path, entries =>
    match entries.find? part with
    | none =>
      match addDotted? key v path [] with
      | some below => entries.add? part (.table .dotted below)
      | none => none
    | some (.table origin below) =>
      if origin = .header ∨ (path = [] ∧ origin ≠ .dotted) then none
      else
        match addDotted? key v path below with
        | some below => some (entries.put part (.table origin below))
        | none => none
    | some (.tables (latest :: earlier)) =>
      if path = [] then none
      else
        match addDotted? key v path latest with
        | some latest => some (entries.put part (.tables (latest :: earlier)))
        | none => none
    | some _ => none

/-- Changes the table that a header path leads to; tables on the way are made where missing, and of
an array of tables the latest one is entered. -/
def change? (f : Entries → Option Entries) : List String → Entries → Option Entries
  | [], entries => f entries
  | part :: path, entries =>
    match entries.find? part with
    | none =>
      match change? f path [] with
      | some below => some (entries.put part (.table .implied below))
      | none => none
    | some (.table origin below) =>
      match change? f path below with
      | some below => some (entries.put part (.table origin below))
      | none => none
    | some (.tables (latest :: earlier)) =>
      match change? f path latest with
      | some latest => some (entries.put part (.tables (latest :: earlier)))
      | none => none
    | some _ => none

/-- Opens a table under a header. -/
def openTable? (key : String) (entries : Entries) : Option Entries :=
  match entries.find? key with
  | none => entries.add? key (.table .header [])
  | some (.table .implied below) => some (entries.put key (.table .header below))
  | some _ => none

/-- Opens one more table of an array of tables. -/
def openNext? (key : String) (entries : Entries) : Option Entries :=
  match entries.find? key with
  | none => entries.add? key (.tables [[]])
  | some (.tables items) => some (entries.put key (.tables ([] :: items)))
  | some _ => none

end Entries

mutual

/-- The value that a node stands for. -/
def Node.toValue : Node → Value
  | .value v => v
  | .table _ entries => .table (entriesToValues entries)
  | .tables items => .list (tablesToValues [] items)

def entriesToValues : List (String × Node) → List (String × Value)
  | [] => []
  | (key, node) :: others => (key, node.toValue) :: entriesToValues others

/-- The tables of an array in their order, before the ones that come later. -/
def tablesToValues (later : List Value) : List (List (String × Node)) → List Value
  | [] => later
  | entries :: earlier => tablesToValues (.table (entriesToValues entries) :: later) earlier

end

end SoundChange.Toml
