import SoundChange.Table.Records
import SoundChange.Proofs.LineBreaks

/-! Reading records back. A reader takes comma-separated values apart as RFC 4180 has them: commas stand
between fields and line ends after records, a field in quotes may hold both, and a quote in it stands
twice. The reader is strict: it refuses quotes inside of a bare field, characters behind a closing quote,
and a text that ends in quotes. Lines without any character are no records. What a table writes is read
back record by record, with the line breaks of each text normalised. -/
namespace SoundChange.RecordReading
open LineBreaks Text

/-- Where in a field a reader is, with what it has read there, the latest character first. -/
inductive Place where
  | bare (read : List Char)
  | quoted (read : List Char)
  | closed (read : List Char)

def endsRecord (c : Char) : Bool :=
  c == '\n' || c == '\r'

/-- The record of the fields read so far, before some records; a line without any character is none. -/
def withRecord (fields : List (List Char)) (read : List Char) (records : List (List (List Char))) :
    List (List (List Char)) :=
  if fields = [] ∧ read = [] then records else (read.reverse :: fields).reverse :: records

/-- The records from some place on, in a record of which some fields have been read, the latest first. -/
def readFrom : List (List Char) → Place → List Char → Option (List (List (List Char)))
  | fields, .bare read, [] => some (withRecord fields read [])
  | fields, .bare read, c :: rest =>
    if c = ',' then readFrom (read.reverse :: fields) (.bare []) rest
    else if endsRecord c then (readFrom [] (.bare []) rest).map (withRecord fields read)
    else if c = '"' then
      if read = [] then readFrom fields (.quoted []) rest else none
    else readFrom fields (.bare (c :: read)) rest
  | _, .quoted _, [] => none
  | fields, .quoted read, c :: rest =>
    if c = '"' then readFrom fields (.closed read) rest
    else readFrom fields (.quoted (c :: read)) rest
  | fields, .closed read, [] => some [(read.reverse :: fields).reverse]
  | fields, .closed read, c :: rest =>
    if c = '"' then readFrom fields (.quoted (c :: read)) rest
    else if c = ',' then readFrom (read.reverse :: fields) (.bare []) rest
    else if endsRecord c then
      (readFrom [] (.bare []) rest).map ((read.reverse :: fields).reverse :: ·)
    else none

/-- The records of a text. -/
def read (text : List Char) : Option (List (List (List Char))) :=
  readFrom [] (.bare []) text

/-- The records of a text, field by field as texts. -/
def recordsOf (text : String) : Option (List (List String)) :=
  (read text.toList).map (List.map (List.map String.ofList))

/-- A text with its line breaks normalised: its lines, joined by newlines. -/
def normalised (text : String) : String :=
  String.intercalate "\n" (textLines text)

/-! Fields as they are written. -/

/-- A field without quotes is taken character by character. -/
theorem readFrom_bare {text : List Char} (plain : text.any Csv.needsQuotes = false)
    (fields : List (List Char)) (read rest : List Char) :
    readFrom fields (.bare read) (text ++ rest) = readFrom fields (.bare (text.reverse ++ read)) rest := by
  induction text generalizing read with
  | nil => rfl
  | cons c text ih =>
    obtain ⟨plain_first, plain_others⟩ := Bool.or_eq_false_iff.mp (List.any_cons.symm.trans plain)
    obtain ⟨⟨⟨comma, quote⟩, newline⟩, carriage⟩ :
        ((c ≠ ',' ∧ c ≠ '"') ∧ c ≠ '\n') ∧ c ≠ '\r' := by
      simpa [Csv.needsQuotes] using plain_first
    simp [readFrom, endsRecord, comma, quote, newline, carriage, ih plain_others]

/-- A quoted field is taken up to the quote that is not written twice. -/
theorem readFrom_quoted (text : List Char) (fields : List (List Char)) (read rest : List Char) :
    readFrom fields (.quoted read) (text.flatMap Csv.quoteChar ++ '"' :: rest) =
      readFrom fields (.closed (text.reverse ++ read)) rest := by
  induction text generalizing read with
  | nil => simp [readFrom]
  | cons c text ih =>
    by_cases quote : c = '"'
    · simp [Csv.quoteChar, readFrom, quote, ih]
    · simp [Csv.quoteChar, readFrom, quote, ih]

/-- Where a reader is behind a written field. -/
def behind (text : List Char) : Place :=
  if text.any Csv.needsQuotes then .closed text.reverse else .bare text.reverse

/-- However a field is written, the reader comes out behind it. -/
theorem readFrom_writeField (text : List Char) (fields : List (List Char)) (rest : List Char) :
    readFrom fields (.bare []) (Csv.writeField text ++ rest) = readFrom fields (behind text) rest := by
  cases needs : text.any Csv.needsQuotes with
  | true => simp [Csv.writeField, behind, needs, Csv.quoted, readFrom, endsRecord, readFrom_quoted]
  | false => simp [Csv.writeField, behind, needs, readFrom_bare needs]

theorem readFrom_behind_comma (text : List Char) (fields : List (List Char)) (rest : List Char) :
    readFrom fields (behind text) (',' :: rest) = readFrom (text :: fields) (.bare []) rest := by
  cases needs : text.any Csv.needsQuotes <;> simp [behind, needs, readFrom]

theorem readFrom_behind_newline {text : List Char} {fields : List (List Char)}
    (inhabited : fields ≠ [] ∨ text ≠ []) (rest : List Char) :
    readFrom fields (behind text) ('\n' :: rest) =
      (read rest).map ((fields.reverse ++ [text]) :: ·) := by
  have given : ¬ (fields = [] ∧ text = []) := fun none => inhabited.elim (· none.1) (· none.2)
  have kept : withRecord fields text.reverse = ((fields.reverse ++ [text]) :: ·) := by
    funext records
    simp [withRecord, given]
  cases needs : text.any Csv.needsQuotes <;> simp [behind, needs, readFrom, endsRecord, read, kept]

/-! Records as they are written. -/

/-- The fields of a record are read in their order, after those that were read before. -/
theorem readFrom_fields {text : List Char} {others before : List (List Char)}
    (inhabited : before ≠ [] ∨ others ≠ [] ∨ text ≠ []) (rest : List Char) :
    readFrom before (.bare [])
        (List.intercalate [','] ((text :: others).map Csv.writeField) ++ '\n' :: rest) =
      (read rest).map ((before.reverse ++ text :: others) :: ·) := by
  induction others generalizing text before with
  | nil =>
    rw [List.map_singleton, List.intercalate_singleton, readFrom_writeField]
    exact readFrom_behind_newline (by simpa using inhabited) rest
  | cons next others ih =>
    rw [List.map_cons, List.map_cons, List.intercalate_cons_cons, List.append_assoc, List.append_assoc,
      readFrom_writeField, List.singleton_append, readFrom_behind_comma]
    have later := @ih next (text :: before) (.inl (List.cons_ne_nil _ _))
    simpa using later

theorem writeRecord_cons {text : List Char} {others : List (List Char)}
    (inhabited : others ≠ [] ∨ text ≠ []) :
    Csv.writeRecord (text :: others) =
      List.intercalate [','] ((text :: others).map Csv.writeField) ++ ['\n'] := by
  cases others with
  | nil =>
    cases text with
    | nil => simp at inhabited
    | cons c text => rfl
  | cons next others => cases text <;> rfl

/-- A written record is read back, whatever comes behind it. -/
theorem read_writeRecord {record : List (List Char)} (inhabited : record ≠ []) (rest : List Char) :
    read (Csv.writeRecord record ++ rest) = (read rest).map (record :: ·) := by
  cases record with
  | nil => exact absurd rfl inhabited
  | cons text others =>
    by_cases given : others ≠ [] ∨ text ≠ []
    · rw [writeRecord_cons given, List.append_assoc, List.singleton_append, read,
        readFrom_fields (.inr given), List.reverse_nil, List.nil_append]
    · -- The only record without characters is written in quotes.
      obtain ⟨rfl, rfl⟩ : others = [] ∧ text = [] := by simpa using given
      simp [Csv.writeRecord, read, readFrom, endsRecord]

/-- Written records are read back in their order. -/
theorem read_records {records : List (List (List Char))} (inhabited : ∀ record ∈ records, record ≠ []) :
    read (records.flatMap Csv.writeRecord) = some records := by
  induction records with
  | nil => rfl
  | cons record records ih =>
    obtain ⟨inhabited_first, inhabited_others⟩ := List.forall_mem_cons.mp inhabited
    rw [List.flatMap_cons, read_writeRecord inhabited_first, ih inhabited_others, Option.map_some]

/-! Tables as they are written. -/

theorem writeRecords_ok_iff {width : Nat} {records : List (List (List Char))} {text : List Char} :
    Table.writeRecords width records = .ok text ↔
      (∀ record ∈ records, record.length = width) ∧
        text = records.flatMap fun record => Csv.writeRecord (record.map Csv.field) := by
  induction records generalizing text with
  | nil => simp [Table.writeRecords, eq_comm]
  | cons record records ih =>
    rw [Table.writeRecords, List.forall_mem_cons, List.flatMap_cons]
    by_cases fits : record.length = width
    · rw [if_pos fits]
      cases written : Table.writeRecords width records with
      | error fault =>
        have refused : ¬ ∀ other ∈ records, other.length = width := fun all => by
          simpa [written] using ih.mpr ⟨all, rfl⟩
        simp [refused]
      | ok rest =>
        obtain ⟨all, rfl⟩ := ih.mp written
        simp only [fits, true_and, and_iff_right all, Except.ok.injEq]
        exact eq_comm
    · simp [fits]

theorem records_wide_iff (table : Table) :
    (∀ record ∈ table.records, record.length = table.headings.length) ↔
      ∀ row ∈ table.rows, row.length = table.headings.length := by
  simp [Table.records]

/-- A table is written exactly if its rows are as wide as its headings, record by record. -/
theorem csv_ok_iff (table : Table) (text : String) :
    table.csv = .ok text ↔
      (∀ row ∈ table.rows, row.length = table.headings.length) ∧
        text.toList = table.records.flatMap fun record => Csv.writeRecord (record.map Csv.field) := by
  rw [← records_wide_iff, ← writeRecords_ok_iff, Table.csv]
  cases written : Table.writeRecords table.headings.length table.records with
  | error fault => simp [Except.map]
  | ok characters => simp [Except.map, ← String.toList_inj, eq_comm]

theorem exists_csv_iff (table : Table) :
    (∃ text, table.csv = .ok text) ↔ ∀ row ∈ table.rows, row.length = table.headings.length := by
  constructor
  · rintro ⟨text, written⟩
    exact ((csv_ok_iff table text).mp written).1
  · intro wide
    exact ⟨_, (csv_ok_iff table (String.ofList _)).mpr ⟨wide, String.toList_ofList⟩⟩

/-! Line breaks. -/

theorem toList_normalised (text : String) : (normalised text).toList = Csv.field text.toList := by
  rw [normalised, String.toList_intercalate, textLines, List.map_map, Csv.field]
  congr 1
  simp [Function.comp_def]

theorem ofList_field (text : String) : String.ofList (Csv.field text.toList) = normalised text := by
  rw [← toList_normalised, String.ofList_toList]

theorem lines_newline (rest : List Char) : lines ('\n' :: rest) = [] :: lines rest := by
  obtain ⟨piece, others, parts⟩ := List.exists_cons_of_ne_nil (pieces_ne_nil rest)
  simp [lines, pieces, parts, linesOfPieces, dropReturn]

/-- A first character is only dropped if it is a carriage return by itself. -/
theorem dropReturn_cons {c : Char} {line : List Char} (inside : line ≠ [] ∨ c ≠ '\r') :
    dropReturn (c :: line) = c :: dropReturn line := by
  cases line with
  | nil => simpa [dropReturn] using inside
  | cons d line =>
    rw [dropReturn, dropReturn, List.getLast?_cons_cons]
    split <;> rfl

/-- An empty piece before others stands before a newline. -/
theorem starts_of_pieces {text next : List Char} {others : List (List Char)}
    (parts : pieces text = [] :: next :: others) : ['\n'] <+: text := by
  cases text with
  | nil => simp [pieces] at parts
  | cons c rest =>
    by_cases newline : c = '\n'
    · exact ⟨rest, by rw [newline]; rfl⟩
    · rw [pieces, if_neg newline] at parts
      cases later : pieces rest <;> simp [later] at parts

/-- A text is its lines again if no line break holds a carriage return and none ends the text. -/
theorem field_eq_self {text : List Char} (no_return : ¬ ['\r', '\n'] <:+: text)
    (no_final : text.getLast? ≠ some '\n') : Csv.field text = text := by
  induction text with
  | nil => rfl
  | cons c rest ih =>
    have no_final_rest : rest.getLast? ≠ some '\n' := by
      cases rest with
      | nil => simp
      | cons d rest => rwa [List.getLast?_cons_cons] at no_final
    have kept := ih (fun inside => no_return (List.infix_cons inside)) no_final_rest
    by_cases newline : c = '\n'
    · subst newline
      have more : lines rest ≠ [] := by
        intro none
        have ended : rest = [] := by rw [← kept, Csv.field, none]; rfl
        exact no_final (by rw [ended]; rfl)
      obtain ⟨line, others, listed⟩ := List.exists_cons_of_ne_nil more
      rw [Csv.field, listed] at kept
      rw [Csv.field, lines_newline, listed, List.intercalate_cons_cons, kept]
      rfl
    · obtain ⟨piece, others, parts⟩ := List.exists_cons_of_ne_nil (pieces_ne_nil rest)
      have parts_cons : pieces (c :: rest) = (c :: piece) :: others := by
        simp [pieces, newline, parts]
      rw [Csv.field, lines, parts] at kept
      rw [Csv.field, lines, parts_cons]
      cases others with
      | nil => by_cases ended : piece = [] <;> simp_all [linesOfPieces]
      | cons next others =>
        have inside : piece ≠ [] ∨ c ≠ '\r' := by
          by_cases empty : piece = []
          · refine .inr fun isReturn => no_return ?_
            obtain ⟨tail, rfl⟩ := starts_of_pieces (empty ▸ parts)
            exact ⟨[], tail, by rw [isReturn]; rfl⟩
          · exact .inl empty
        rw [linesOfPieces, dropReturn_cons inside, List.intercalate_cons_cons_left]
        rw [linesOfPieces] at kept
        rw [kept]

/-! Reading back what a table writes. -/

/-- A table with headings is written exactly when all rows are as wide as the headings, and what is
written is read back as its headings and then the plain texts of its rows, with line breaks normalised.
That leaves a text as it is if it has no carriage return before a newline and no newline at its end. -/
theorem csv_read_back (table : Table) (headed : table.headings ≠ []) :
    ((∃ text, table.csv = .ok text) ↔ ∀ row ∈ table.rows, row.length = table.headings.length) ∧
    (∀ text, table.csv = .ok text → recordsOf text = some
      (table.headings.map normalised ::
        table.rows.map fun row => row.map fun cell => normalised cell.plain)) ∧
    (∀ text : String, ¬ ['\r', '\n'] <:+: text.toList → text.toList.getLast? ≠ some '\n' →
      normalised text = text) := by
  refine ⟨exists_csv_iff table, ?_, ?_⟩
  · intro text written
    obtain ⟨wide, written⟩ := (csv_ok_iff table text).mp written
    have inhabited : ∀ record ∈ table.records.map (List.map Csv.field), record ≠ [] := by
      intro record member
      obtain ⟨texts, listed, rfl⟩ := List.mem_map.mp member
      have as_wide := (records_wide_iff table).mpr wide texts listed
      rw [← List.length_pos_iff, List.length_map, as_wide]
      exact List.length_pos_iff.mpr headed
    rw [recordsOf, written, ← List.flatMap_map, read_records inhabited]
    simp [Table.records, Function.comp_def, ofList_field]
  · intro text no_return no_final
    rw [← String.toList_inj, toList_normalised, field_eq_self no_return no_final]

/-- Headings with a comma and with quotes, rows with line breaks and an empty text. -/
def markedTable : Table where
  headings := ["a,b", "\"q\""]
  rows := [[.word "x\r\ny\n", .unchanged], [.word "", .ipa "i"]]

theorem marked_read_back :
    markedTable.headings ≠ [] ∧ ∃ text, markedTable.csv = .ok text ∧
      recordsOf text = some [["a,b", "\"q\""], ["x\ny", "--"], ["", "/i/"]] := by
  have headed : markedTable.headings ≠ [] := by decide
  obtain ⟨written, read_back, -⟩ := csv_read_back markedTable headed
  obtain ⟨text, written⟩ := written.mpr (by decide)
  exact ⟨headed, text, written, (read_back text written).trans (by decide)⟩

/-- Headings are not read back as they are: they lose their final newline like any text. -/
theorem headings_not_exact :
    ¬ ∀ table : Table, table.headings ≠ [] → ∀ text, table.csv = .ok text → recordsOf text = some
      (table.headings :: table.rows.map fun row => row.map fun cell => normalised cell.plain) := by
  intro claimed
  have kept := claimed ⟨["a\n"], []⟩ (by decide) "a\n" rfl
  exact absurd kept (by decide)

end SoundChange.RecordReading
