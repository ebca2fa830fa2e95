import SoundChange.Text.Markup

/-! Reading markup. A reader takes an HTML text apart: what stands between angle brackets is a tag, what
stands between an ampersand and a semicolon names an entity, which is one character, and every other
character is itself. The reader is strict. Outside of tags it refuses brackets and quotes that stand
alone, and it refuses entities that it does not know. An escaped text is read as its own characters. -/
namespace SoundChange.MarkupReading
open Text.Markup

/-- A piece of an HTML text: a tag, without its brackets, or a character between tags. -/
inductive Piece where
  | tag (content : String)
  | char (c : Char)
  deriving DecidableEq

namespace Piece

def tag? : Piece → Option String
  | tag content => some content
  | char _ => none

def char? : Piece → Option Char
  | tag _ => none
  | char c => some c

end Piece

/-- The character that an entity stands for. -/
def entity? (name : String) : Option Char :=
  if name = "amp" then some '&'
  else if name = "lt" then some '<'
  else if name = "gt" then some '>'
  else if name = "quot" then some '"'
  else none

/-- Where in a text a reader is, with what it has read there, the latest character first. -/
inductive Place where
  | outside
  | tag (read : List Char)
  | entity (read : List Char)

/-- The pieces from some place on. -/
def readFrom : Place → List Char → Option (List Piece)
  | .outside, [] => some []
  | .outside, c :: rest =>
    if c = '<' then readFrom (.tag []) rest
    else if c = '&' then readFrom (.entity []) rest
    else if c = '>' ∨ c = '"' then none
    else (readFrom .outside rest).map (.char c :: ·)
  | .tag _, [] => none
  | .tag read, c :: rest =>
    if c = '>' then (readFrom .outside rest).map (.tag (String.ofList read.reverse) :: ·)
    else if c = '<' then none
    else readFrom (.tag (c :: read)) rest
  | .entity _, [] => none
  | .entity read, c :: rest =>
    if c = ';' then
      (entity? (String.ofList read.reverse)).bind fun c =>
        (readFrom .outside rest).map (.char c :: ·)
    else readFrom (.entity (c :: read)) rest

/-- The pieces of a text. -/
def read (text : List Char) : Option (List Piece) :=
  readFrom .outside text

/-- The text that was escaped, if nothing but characters is read. -/
def unescape? (text : List Char) : Option (List Char) :=
  (read text).bind fun pieces => pieces.mapM Piece.char?

/-- The characters of a text as pieces. -/
def chars (text : String) : List Piece :=
  text.toList.map .char

/-! Texts in a row. -/

/-- A text that is read whole from some place on ends outside of tags: what follows is read as if alone. -/
theorem readFrom_append {place : Place} {text : List Char} {pieces : List Piece}
    (alone : readFrom place text = some pieces) (rest : List Char) :
    readFrom place (text ++ rest) = (read rest).map (pieces ++ ·) := by
  fun_induction readFrom place text generalizing pieces with
  | case1 =>
    cases alone
    simp [read]
  | case2 text ih => simpa [readFrom] using ih alone
  | case3 text _ ih => simpa [readFrom] using ih alone
  | case4 => cases alone
  | case5 c text no_tag no_entity no_stray ih =>
    obtain ⟨others, reads, rfl⟩ := Option.map_eq_some_iff.mp alone
    simp [readFrom, no_tag, no_entity, no_stray, ih reads, Function.comp_def]
  | case6 => cases alone
  | case7 inside text ih =>
    obtain ⟨others, reads, rfl⟩ := Option.map_eq_some_iff.mp alone
    simp [readFrom, ih reads, Function.comp_def]
  | case8 => cases alone
  | case9 inside c text no_end no_start ih =>
    simpa [readFrom, no_end, no_start] using ih alone
  | case10 => cases alone
  | case11 inside text ih =>
    obtain ⟨c, named, unnamed⟩ := Option.bind_eq_some_iff.mp alone
    obtain ⟨others, reads, rfl⟩ := Option.map_eq_some_iff.mp unnamed
    simp [readFrom, named, ih reads, Function.comp_def]
  | case12 inside c text no_end ih =>
    simpa [readFrom, no_end] using ih alone

/-- Two texts that can be read are read one after the other. -/
theorem read_append {first second : List Char} {before after : List Piece}
    (reads_first : read first = some before) (reads_second : read second = some after) :
    read (first ++ second) = some (before ++ after) := by
  rw [read, readFrom_append reads_first, reads_second, Option.map_some]

theorem read_flatMap {item : Type} {write : item → List Char} {pieces : item → List Piece}
    (reads : ∀ a, read (write a) = some (pieces a)) (items : List item) :
    read (items.flatMap write) = some (items.flatMap pieces) := by
  induction items with
  | nil => rfl
  | cons a others ih => exact read_append (reads a) ih

/-! Escaped texts. -/

theorem read_escapeChar (c : Char) : read (escapeChar c) = some [.char c] := by
  by_cases special : c = '&' ∨ c = '<' ∨ c = '>' ∨ c = '"'
  · rcases special with rfl | rfl | rfl | rfl <;> rfl
  · obtain ⟨amp, lt, gt, quot⟩ : c ≠ '&' ∧ c ≠ '<' ∧ c ≠ '>' ∧ c ≠ '"' := by simpa using special
    simp [escapeChar, read, readFrom, amp, lt, gt, quot]

/-- An escaped text is read as its characters, and as nothing else. -/
theorem read_escape (text : List Char) : read (escape text) = some (text.map .char) := by
  rw [escape, read_flatMap read_escapeChar, List.map_eq_flatMap]

theorem read_escaped (text : String) : read (Text.Markup.escaped text).toList = some (chars text) := by
  rw [escaped, String.toList_ofList, read_escape, chars]

theorem mapM_char? (text : List Char) :
    (text.map Piece.char).mapM Piece.char? = some text := by
  have inverse : (fun c => Piece.char? (.char c)) = fun c => pure c := rfl
  rw [List.mapM_map, Function.comp_def, inverse, List.mapM_pure, List.map_id']
  rfl

/-- Whatever a text imitates, unescaping it once gives it back. -/
theorem unescape?_escape (text : List Char) : unescape? (escape text) = some text := by
  rw [unescape?, read_escape, Option.bind_some, mapM_char?]

theorem no_delimiter_of_mem_escapeChar {c written : Char} (among : written ∈ escapeChar c) :
    written ≠ '<' ∧ written ≠ '>' ∧ written ≠ '"' := by
  by_cases special : c = '&' ∨ c = '<' ∨ c = '>' ∨ c = '"'
  · rcases special with rfl | rfl | rfl | rfl <;> revert written <;> simp [escapeChar]
  · obtain ⟨amp, lt, gt, quot⟩ : c ≠ '&' ∧ c ≠ '<' ∧ c ≠ '>' ∧ c ≠ '"' := by simpa using special
    obtain rfl : written = c := by simpa [escapeChar, amp, lt, gt, quot] using among
    exact ⟨lt, gt, quot⟩

/-- An escaped text has nothing that could open or close a tag or an attribute. -/
theorem no_delimiter_of_mem_escape {text : List Char} {written : Char}
    (among : written ∈ escape text) : written ≠ '<' ∧ written ≠ '>' ∧ written ≠ '"' := by
  obtain ⟨c, -, among_c⟩ := List.mem_flatMap.mp among
  exact no_delimiter_of_mem_escapeChar among_c

end SoundChange.MarkupReading
