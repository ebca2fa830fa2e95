import SoundChange.Table
import SoundChange.Text.Lines

/-!
The table as comma-separated values: the headings on the first record, then one record for each row.
A field keeps the lines of its text. A field is quoted when it holds a comma, a quote or a line
break, and a quote inside it is written twice; a record without any character is written as one
quoted empty field. All records have the same number of fields, or nothing is written.
-/
namespace SoundChange

namespace Csv

/-- Texts are kept line by line: a final line break and the returns before line breaks are lost. -/
def field (text : List Char) : List Char :=
  List.intercalate ['\n'] (Text.lines text)

/-- The characters that force quotes around a field. -/
def needsQuotes (c : Char) : Bool :=
  c == ',' || c == '"' || c == '\n' || c == '\r'

def quoteChar (c : Char) : List Char :=
  if c = '"' then ['"', '"'] else [c]

def quoted (text : List Char) : List Char :=
  '"' :: (text.flatMap quoteChar ++ ['"'])

def writeField (text : List Char) : List Char :=
  if text.any needsQuotes then quoted text else text

/-- One record, with its line end. -/
def writeRecord : List (List Char) → List Char
  | [] => ['"', '"', '\n']
  | [[]] => ['"', '"', '\n']
  | fields => List.intercalate [','] (fields.map writeField) ++ ['\n']

end Csv

/-- A table that cannot be written. -/
inductive RenderFault where
  /-- A record has another number of fields than the record before it. -/
  | unequalRecords (expected actual : Nat)
  deriving DecidableEq, Repr

def RenderFault.message : RenderFault → String
  | unequalRecords expected actual =>
    "Failed to write CSV: CSV error: found record with " ++ toString actual ++
      " fields, but the previous record has " ++ toString expected ++ " fields"

namespace Table

/-- The texts of the table, record by record. -/
def records (table : Table) : List (List (List Char)) :=
  table.headings.map String.toList ::
    table.rows.map fun row => row.map fun cell => cell.plain.toList

/-- The records after one of the given width, until one has another width. -/
def writeRecords (width : Nat) : List (List (List Char)) → Except RenderFault (List Char)
  | [] => .ok []
  | record :: others =>
    if record.length = width then
      match writeRecords width others with
      | .error fault => .error fault
      | .ok text => .ok (Csv.writeRecord (record.map Csv.field) ++ text)
    else .error (.unequalRecords width record.length)

/-- `to_csv`: the table as comma-separated values. -/
def csv (table : Table) : Except RenderFault String :=
  (writeRecords table.headings.length table.records).map String.ofList

end Table

end SoundChange
