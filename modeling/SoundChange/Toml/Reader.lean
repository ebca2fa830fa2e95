import SoundChange.Toml.Date

/-!
Reading TOML documents. A document is a list of lines, each a header, a key with its value, or
empty; `parse?` builds the table of the whole document, or nothing when a rule is broken. Lists and
inline tables may be nested in each other less than eighty deep, and a key has less than eighty
parts.
-/
namespace SoundChange.Toml

/-- The deepest nesting of lists and inline tables. -/
def depthLimit : Nat := 79

/-- The most parts that a key may have. -/
def keyLimit : Nat := 79

/-- The value that follows a key. -/
def scanScalar (text : List Char) : Option (Value × List Char) :=
  match text with
  | [] => none
  | c :: _ =>
    if c = '"' ∨ c = '\x27' then
      (scanText text).map fun (s, rest) => (.text (String.ofList s), rest)
    else if isDigit c ∨ c = '+' ∨ c = '-' then
      match scanDate text with
      | .found date rest => some (.date (String.ofList date), rest)
      | .broken => none
      | .absent => scanNumber text
    else
      match text with
      | 't' :: 'r' :: 'u' :: 'e' :: rest => some (.boolean true, rest)
      | 'f' :: 'a' :: 'l' :: 's' :: 'e' :: rest => some (.boolean false, rest)
      | 'i' :: _ => scanNumber text
      | 'n' :: _ => scanNumber text
      | _ => none

/-- A reader of one value. -/
abbrev ValueScanner : Type := List Char → Option (Value × List Char)

/-- The items of a list from the next one, or the closing bracket, on; at most `fuel` items. -/
def scanItems (scanValue : ValueScanner) : Nat → List Char → Option (List Value × List Char)
  | 0, _ => none
  | fuel + 1, text =>
    match skipFiller false text with
    | none => none
    | some (']' :: rest) => some ([], rest)
    | some text =>
      match scanValue text with
      | none => none
      | some (v, rest) =>
        match skipFiller false rest with
        | some (',' :: rest) =>
          (scanItems scanValue fuel rest).map fun (items, rest) => (v :: items, rest)
        | some (']' :: rest) => some ([v], rest)
        | _ => none

/-- A key, the mark behind it, and its value. -/
def scanEntry (scanValue : ValueScanner) (text : List Char) :
    Option (List String × Value × List Char) :=
  match scanKey keyLimit text with
  | some (key, '=' :: rest) =>
    (scanValue (skipBlanks rest)).map fun (v, rest) => (key, v, rest)
  | _ => none

/-- Adds a value under a dotted key. -/
def addValue? (key : List String) (v : Value) (entries : Entries) : Option Entries :=
  match key.getLast? with
  | some last => entries.addDotted? last v key.dropLast
  | none => none

/-- The entries of an inline table from the next one on; at most `fuel` entries. -/
def scanEntries (scanValue : ValueScanner) :
    Nat → Entries → List Char → Option (Entries × List Char)
  | 0, _, _ => none
  | fuel + 1, entries, text =>
    match scanEntry scanValue text with
    | none => none
    | some (key, v, rest) =>
      match addValue? key v entries with
      | none => none
      | some entries =>
        match skipBlanks rest with
        | ',' :: rest => scanEntries scanValue fuel entries rest
        | '}' :: rest => some (entries, rest)
        | _ => none

/-- An inline table after its opening brace. -/
def scanInline (scanValue : ValueScanner) (text : List Char) : Option (Entries × List Char) :=
  match skipBlanks text with
  | '}' :: rest => some ([], rest)
  | _ => scanEntries scanValue (text.length + 1) [] text

/-- A value inside of which lists and inline tables may be nested this deep. -/
def scanValue : Nat → ValueScanner
  | depth, '[' :: rest =>
    match depth with
    | 0 => none
    | depth + 1 =>
      (scanItems (scanValue depth) (rest.length + 1) rest).map fun (items, rest) =>
        (.list items, rest)
  | depth, '{' :: rest =>
    match depth with
    | 0 => none
    | depth + 1 =>
      (scanInline (scanValue depth) rest).map fun (entries, rest) =>
        (.table (entriesToValues entries), rest)
  | _, text => scanScalar text

/-- A document that is being read: its entries so far, and the header that the next keys belong
to. -/
structure Draft where
  entries : Entries
  path : List String

namespace Draft

/-- Adds a value to the table of the last header. -/
def add? (draft : Draft) (key : List String) (v : Value) : Option Draft :=
  (Entries.change? (addValue? key v) draft.path draft.entries).map fun entries =>
    { draft with entries := entries }

/-- Enters the table of a header. -/
def enter? (draft : Draft) (openAt : String → Entries → Option Entries) (key : List String) :
    Option Draft :=
  match key.getLast? with
  | none => none
  | some last =>
    (Entries.change? (openAt last) key.dropLast draft.entries).map fun entries => ⟨entries, key⟩

end Draft

/-- A header after its first bracket, and what follows it on its line. -/
def scanHeader (draft : Draft) : List Char → Option (Draft × List Char)
  | '[' :: rest =>
    match scanKey keyLimit rest with
    | some (key, ']' :: ']' :: rest) =>
      (draft.enter? Entries.openNext? key).map fun draft => (draft, rest)
    | _ => none
  | rest =>
    match scanKey keyLimit rest with
    | some (key, ']' :: rest) =>
      (draft.enter? Entries.openTable? key).map fun draft => (draft, rest)
    | _ => none

/-- One line that is not empty, without its end. -/
def scanLine (draft : Draft) : List Char → Option (Draft × List Char)
  | '[' :: rest => scanHeader draft rest
  | text =>
    match scanEntry (scanValue depthLimit) text with
    | some (key, v, rest) => (draft.add? key v).map fun draft => (draft, rest)
    | none => none

/-- The lines of a document; at most `fuel` lines. -/
def scanLines : Nat → Draft → List Char → Option Draft
  | 0, _, _ => none
  | fuel + 1, draft, text =>
    match skipBlanks text with
    | [] => some draft
    | c :: rest =>
      if c = '\n' ∨ c = '\r' ∨ c = '#' then
        match trailing? (c :: rest) with
        | some rest => scanLines fuel draft rest
        | none => none
      else
        match scanLine draft (c :: rest) with
        | none => none
        | some (draft, rest) =>
          match trailing? rest with
          | some rest => scanLines fuel draft rest
          | none => none

/-- A byte order mark at the start does not belong to the document. -/
def dropMark : List Char → List Char
  | '\ufeff' :: rest => rest
  | text => text

/-- The entries of a document. -/
def parse? (text : String) : Option (List (String × Value)) :=
  let text := dropMark text.toList
  (scanLines (text.length + 1) ⟨[], []⟩ text).map fun draft => entriesToValues draft.entries

end SoundChange.Toml
