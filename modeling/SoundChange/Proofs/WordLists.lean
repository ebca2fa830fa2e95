import SoundChange.Proofs.LineBreaks
import SoundChange.Proofs.Trimming
import SoundChange.Proofs.Utf8Coding
import SoundChange.WordList

/-! Word lists. Lines are cut from bytes and decoded one by one, which gives the lines of the whole text:
no character but the newline has the newline byte in it. The words of a text are the lines of it that are
more than blanks, and exactly the lists of such words come back from the plain form. -/
namespace SoundChange.WordLists
open LineBreaks Trimming Utf8Coding WordList
open Text.Utf8 (decode encode encodeChar)

/-- Lines and the words on them: a line of blanks has no word, and every other line is a word with blanks
around it. -/
inductive Lists : List (List Char) → List Word → Prop
  | nil : Lists [] []
  | blank (stripped : Strips line []) (rest : Lists lines words) : Lists (line :: lines) words
  | word (stripped : Strips line word.toList) (inhabited : word.toList ≠ [])
      (rest : Lists lines words) : Lists (line :: lines) (word :: words)

/-- A word that a line can hold. -/
structure Entry (word : Word) : Prop where
  inhabited : word.toList ≠ []
  bare : Bare word.toList
  single : '\n' ∉ word.toList

/-- Text without a newline in it. -/
def Line : Type := { text : List Char // '\n' ∉ text }

/-- The two ways in which a line ends. -/
inductive LineEnd where
  | newline
  | returnNewline

def LineEnd.returns : LineEnd → List Char
  | .newline => []
  | .returnNewline => ['\r']

/-- The text of lines with their ends, and of a last line that nothing ends. -/
def written (rows : List (Line × LineEnd)) (last : Line) : List Char :=
  rows.flatMap (fun row => row.1.val ++ row.2.returns ++ ['\n']) ++ last.val

/-- The bytes of words in plain form. -/
def plain (words : List Word) : List UInt8 :=
  encode (write words).toList

/-! Bytes and characters have the same line ends. -/

/-- Lines are what stands between line ends. -/
theorem byteLines_eq_splitOn (bytes : List UInt8) : byteLines bytes = bytes.splitOn lineEnd :=
  eq_splitOn_of_steps rfl (fun rest => by simp [byteLines])
    (fun inside rest => by simp [byteLines, inside, rest]) bytes

/-- No other character has the byte of a line end in it, so lines can be cut before they are decoded. -/
theorem lineEnd_not_mem_encodeChar {c : Char} (inside : c ≠ '\n') : lineEnd ∉ encodeChar c := by
  intro member
  by_cases short : c.toNat < 0x80
  · rw [encodeChar_one rfl short, List.mem_singleton] at member
    have code : lineEnd.toNat = c.toNat := by rw [member, toNat_toUInt8 (by omega)]
    exact inside (Char.toNat_inj.mp code.symm)
  · exact absurd (encodeChar_above (by omega) lineEnd member) (by decide)

theorem lineEnd_not_mem_encode {line : List Char} (single : '\n' ∉ line) : lineEnd ∉ encode line := by
  intro member
  obtain ⟨c, within, byte⟩ := List.mem_flatMap.mp member
  exact lineEnd_not_mem_encodeChar (fun newline => single (newline ▸ within)) byte

theorem encode_intercalate (lines : List (List Char)) :
    encode (['\n'].intercalate lines) = [lineEnd].intercalate (lines.map encode) := by
  induction lines with
  | nil => rfl
  | cons line others ih =>
    cases others with
    | nil => rw [List.map_singleton, List.intercalate_singleton, List.intercalate_singleton]
    | cons next rest =>
      have separator : encode ['\n'] = [lineEnd] := rfl
      rw [List.intercalate_cons_cons, encode_append, encode_append, ih, separator]
      exact List.intercalate_cons_cons.symm

/-- Cutting the bytes of a text and encoding its lines come to the same. -/
theorem splitOn_encode (text : List Char) :
    (encode text).splitOn lineEnd = (text.splitOn '\n').map encode := by
  have joined : encode text = [lineEnd].intercalate ((text.splitOn '\n').map encode) := by
    rw [← encode_intercalate, List.intercalate_splitOn]
  rw [joined]
  apply List.splitOn_intercalate
  · intro bytes member
    obtain ⟨line, part, rfl⟩ := List.mem_map.mp member
    exact lineEnd_not_mem_encode (not_mem_of_mem_splitOn part)
  · simp

theorem mapM_decode_encode (lines : List (List Char)) : (lines.map encode).mapM decode = some lines := by
  have inverse : (fun line => decode (encode line)) = fun line => pure line := funext decode_encode
  rw [List.mapM_map, Function.comp_def, inverse, List.mapM_pure, List.map_id']
  rfl

theorem encode_of_mapM_decode {lines : List (List UInt8)} {texts : List (List Char)}
    (read : lines.mapM decode = some texts) : texts.map encode = lines := by
  induction lines generalizing texts with
  | nil =>
    cases read
    rfl
  | cons line others ih =>
    rw [List.mapM_cons] at read
    obtain ⟨text, first, read⟩ := Option.bind_eq_some_iff.mp read
    obtain ⟨rest, others, read⟩ := Option.bind_eq_some_iff.mp read
    cases read
    rw [List.map_cons, encode_of_decode first, ih others]

/-- The lines are decoded one by one, and are the lines of the text that the bytes encode. -/
theorem read_encode (text : List Char) : read (encode text) = .ok (wordsOfLines (text.splitOn '\n')) := by
  rw [WordList.read, byteLines_eq_splitOn, splitOn_encode, mapM_decode_encode]

example : read (encode "kato\r\n\n  pira ".toList) = .ok ["kato", "pira"] :=
  (read_encode _).trans (congrArg Except.ok (by decide))

/-- Whatever is read was a text. -/
theorem encode_of_read {bytes : List UInt8} {words : List Word} (result : read bytes = .ok words) :
    ∃ text, encode text = bytes := by
  rw [WordList.read, byteLines_eq_splitOn] at result
  cases decoded : (bytes.splitOn lineEnd).mapM decode with
  | none =>
    rw [decoded] at result
    cases result
  | some texts =>
    -- The lines were decoded apart; what they make with newlines between them has all of the bytes.
    refine ⟨['\n'].intercalate texts, ?_⟩
    rw [encode_intercalate, encode_of_mapM_decode decoded, List.intercalate_splitOn]

/-- Words are read exactly from the bytes of a text with lines that list them. -/
theorem read_eq_ok_iff {bytes : List UInt8} {words : List Word} :
    read bytes = .ok words ↔
      ∃ text, encode text = bytes ∧ wordsOfLines (text.splitOn '\n') = words := by
  constructor
  · intro result
    obtain ⟨text, rfl⟩ := encode_of_read result
    rw [read_encode] at result
    exact ⟨text, rfl, Except.ok.inj result⟩
  · rintro ⟨text, rfl, rfl⟩
    exact read_encode text

/-! The words of lines. -/

theorem wordsOfLines_cons (line : List Char) (lines : List (List Char)) :
    wordsOfLines (line :: lines) =
      (if Text.trim line = [] then [] else [String.ofList (Text.trim line)]) ++ wordsOfLines lines := by
  by_cases empty : Text.trim line = [] <;> simp [wordsOfLines, empty]

/-- The words of lines are those that the lines list, and no others. -/
theorem lists_wordsOfLines (lines : List (List Char)) : Lists lines (wordsOfLines lines) := by
  induction lines with
  | nil => exact .nil
  | cons line others ih =>
    have stripped := strips_trim line
    rw [wordsOfLines_cons]
    by_cases empty : Text.trim line = []
    · rw [if_pos empty]
      exact .blank (empty ▸ stripped) ih
    · rw [if_neg empty]
      refine .word ?_ ?_ ih <;> rwa [String.toList_ofList]

theorem wordsOfLines_of_lists {lines : List (List Char)} {words : List Word}
    (lists : Lists lines words) : wordsOfLines lines = words := by
  induction lists with
  | nil => rfl
  | blank stripped _ ih =>
    rw [wordsOfLines_cons, if_pos (trim_of_strips stripped), ih]
    rfl
  | word stripped inhabited _ ih =>
    rw [wordsOfLines_cons, trim_of_strips stripped, if_neg inhabited, ih, String.ofList_toList]
    rfl

theorem wordsOfLines_eq_iff {lines : List (List Char)} {words : List Word} :
    wordsOfLines lines = words ↔ Lists lines words :=
  ⟨fun same => same ▸ lists_wordsOfLines lines, wordsOfLines_of_lists⟩

/-- A word of a line is not empty, has no blanks around it and no line end in it. -/
theorem entries_of_lists {lines : List (List Char)} {words : List Word} (lists : Lists lines words)
    (single : ∀ line ∈ lines, '\n' ∉ line) : ∀ word ∈ words, Entry word := by
  induction lists with
  | nil => exact fun _ inside => nomatch inside
  | blank _ _ ih => exact ih (List.forall_mem_cons.mp single).2
  | word stripped inhabited _ ih =>
    obtain ⟨first, others⟩ := List.forall_mem_cons.mp single
    refine List.forall_mem_cons.mpr ⟨⟨inhabited, stripped.bare, fun newline => first ?_⟩, ih others⟩
    obtain ⟨before, after, rfl, -, -⟩ := stripped.around
    exact List.mem_append_right before (List.mem_append_left after newline)

/-- Words that can stand on lines are listed by lines that hold just them. -/
theorem lists_entries {words : List Word} (entries : ∀ word ∈ words, Entry word) (rest : List (List Char))
    (blank : Lists rest []) : Lists (words.map String.toList ++ rest) words := by
  induction words with
  | nil => exact blank
  | cons word others ih =>
    obtain ⟨first, others⟩ := List.forall_mem_cons.mp entries
    exact .word first.bare.strips first.inhabited (ih others)

theorem lists_empty : Lists [[]] [] :=
  .blank (strips_iff.mpr rfl) .nil

/-- The plain form of words lists these words; that of no words is one empty line, which lists none. -/
theorem lists_write {words : List Word} (entries : ∀ word ∈ words, Entry word) :
    Lists ((write words).toList.splitOn '\n') words := by
  have text : (write words).toList = ['\n'].intercalate (words.map String.toList) ++ '\n' :: [] := by
    rw [write, String.toList_append, String.toList_intercalate]
    rfl
  rw [text, List.splitOn_append_cons_self]
  cases words with
  | nil => exact .blank (strips_iff.mpr rfl) lists_empty
  | cons word others =>
    rw [List.splitOn_intercalate '\n' ?_ (by simp)]
    · exact lists_entries entries _ lists_empty
    · intro line member
      obtain ⟨entry, inside, rfl⟩ := List.mem_map.mp member
      exact (entries entry inside).single

/-! The ends of lines. -/

/-- The lines of a file, with the returns that stand before its line ends. -/
theorem splitOn_written (rows : List (Line × LineEnd)) (last : Line) :
    (written rows last).splitOn '\n' =
      rows.map (fun row => row.1.val ++ row.2.returns) ++ [last.val] := by
  induction rows with
  | nil => exact List.splitOn_eq_singleton last.property
  | cons row others ih =>
    have single : '\n' ∉ row.1.val ++ row.2.returns := by
      rw [List.mem_append]
      rintro (inside | inside)
      · exact row.1.property inside
      · cases ends : row.2 <;> simp [ends, LineEnd.returns] at inside
    have text : written (row :: others) last =
        (row.1.val ++ row.2.returns) ++ '\n' :: written others last := by
      simp [written]
    rw [text, List.splitOn_append_cons_self_of_not_mem single, ih]
    rfl

/-- A return before a line end is trimmed away. -/
theorem trim_row (row : Line × LineEnd) :
    Text.trim (row.1.val ++ row.2.returns) = Text.trim row.1.val := by
  apply trim_append
  cases row.2 with
  | newline => exact .nil
  | returnNewline => exact List.forall_mem_singleton.mpr (by decide)

theorem wordsOfLines_written (rows : List (Line × LineEnd)) (last : Line) :
    wordsOfLines ((written rows last).splitOn '\n') =
      wordsOfLines (rows.map (·.1.val) ++ [last.val]) := by
  rw [splitOn_written]
  simp only [wordsOfLines, List.map_append, List.map_map, Function.comp_def, trim_row]

/-! Reading and writing. -/

theorem fromUTF8?_eq_some_iff {bytes : List UInt8} {text : String} :
    String.fromUTF8? bytes.toByteArray = some text ↔ encode text.toList = bytes := by
  rw [← text?_eq_fromUTF8?, Text.Utf8.text?, ← decode_eq_some_iff, Option.map_eq_some_iff]
  constructor
  · rintro ⟨characters, decoded, rfl⟩
    rwa [String.toList_ofList]
  · exact fun decoded => ⟨text.toList, decoded, String.ofList_toList⟩

theorem read_eq_ok_iff_lists {bytes : List UInt8} {words : List Word} :
    read bytes = .ok words ↔
      ∃ text, String.fromUTF8? bytes.toByteArray = some text ∧
        Lists (text.toList.splitOn '\n') words := by
  rw [read_eq_ok_iff]
  constructor
  · rintro ⟨text, encoded, listed⟩
    refine ⟨String.ofList text, fromUTF8?_eq_some_iff.mpr ?_, ?_⟩ <;> rw [String.toList_ofList]
    · exact encoded
    · exact wordsOfLines_eq_iff.mp listed
  · rintro ⟨text, encoded, listed⟩
    exact ⟨text.toList, fromUTF8?_eq_some_iff.mp encoded, wordsOfLines_eq_iff.mpr listed⟩

/-- Nothing but broken UTF-8 keeps words from being read. -/
theorem readable_iff {bytes : List UInt8} :
    (∃ words, read bytes = .ok words) ↔ bytes.toByteArray.IsValidUTF8 := by
  constructor
  · rintro ⟨words, result⟩
    obtain ⟨text, rfl⟩ := encode_of_read result
    rw [encode_toByteArray]
    exact ByteArray.isValidUTF8_utf8Encode
  · rintro ⟨text, encoded⟩
    rw [← encode_toByteArray, List.toByteArray_inj] at encoded
    exact ⟨_, encoded ▸ read_encode text⟩

theorem entries_of_read {bytes : List UInt8} {words : List Word} (result : read bytes = .ok words) :
    ∀ word ∈ words, Entry word := by
  obtain ⟨text, -, listed⟩ := read_eq_ok_iff_lists.mp result
  exact entries_of_lists listed fun _ part => not_mem_of_mem_splitOn part

/-- A plain list of words that can stand on lines is read back. -/
theorem read_plain {words : List Word} (entries : ∀ word ∈ words, Entry word) :
    read (plain words) = .ok words := by
  rw [plain, read_encode, wordsOfLines_of_lists (lists_write entries)]

/-- A word list is read exactly if its bytes are well-formed UTF-8. The words are then those on the lines
of the text, in their order, whatever ends the lines. The lists that can be read are those of words that a
line can hold, the plain form of exactly these reads back to them, and so to write what was read and to
read it again changes nothing. -/
theorem word_lists_read_and_written (bytes : List UInt8) (words : List Word) :
    ((∃ found, read bytes = .ok found) ↔ bytes.toByteArray.IsValidUTF8) ∧
    (read bytes = .ok words ↔
      ∃ text, String.fromUTF8? bytes.toByteArray = some text ∧
        Lists (text.toList.splitOn '\n') words) ∧
    (∀ rows last, read (encode (written rows last)) = .ok words ↔
      Lists (rows.map (·.1.val) ++ [last.val]) words) ∧
    ((∃ source, read source = .ok words) ↔ ∀ word ∈ words, Entry word) ∧
    (read (plain words) = .ok words ↔ ∀ word ∈ words, Entry word) ∧
    (read bytes).bind (fun found => read (plain found)) = read bytes := by
  refine ⟨readable_iff, read_eq_ok_iff_lists, fun rows last => ?_, ⟨?_, ?_⟩, ⟨?_, ?_⟩, ?_⟩
  · rw [read_encode, wordsOfLines_written, ← wordsOfLines_eq_iff]
    exact ⟨Except.ok.inj, congrArg Except.ok⟩
  · exact fun ⟨_, result⟩ => entries_of_read result
  · exact fun entries => ⟨plain words, read_plain entries⟩
  · exact entries_of_read
  · exact read_plain
  · cases result : read bytes with
    | error fault => rfl
    | ok found => exact read_plain (entries_of_read result)

end SoundChange.WordLists
