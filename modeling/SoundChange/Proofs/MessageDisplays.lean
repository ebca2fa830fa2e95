import SoundChange.View
import SoundChange.Proofs.LineBreaks
import SoundChange.Proofs.MarkupReading

/-! The two displays of a message. A view shows a message as a list of lines and as markup. Both come from
the same pieces: cutting the markup at its line breaks and unescaping what stands between them gives the
pieces of the message, whatever the message holds, and the lines are these pieces without what belongs
to the ends of lines. Nothing in a message is read as markup. -/
namespace SoundChange.MessageDisplays
open LineBreaks MarkupReading Text Text.Markup

/-- The parts of a text where some characters are passed over first. -/
def cutFrom (separator : List Char) : Nat → List Char → List (List Char)
  | _, [] => [[]]
  | passed + 1, _ :: rest => cutFrom separator passed rest
  | 0, c :: rest =>
    if separator <+: c :: rest then [] :: cutFrom separator (separator.length - 1) rest
    else (cutFrom separator 0 rest).modifyHead (c :: ·)

/-- The parts of a text between the places where a separator stands, found from left to right. -/
def cutAt (separator text : List Char) : List (List Char) :=
  cutFrom separator 0 text

/-- The tag that breaks a line. -/
def lineBreak : List Char :=
  "<br/>".toList

/-- The pieces of the message that a markup displays: its parts between line breaks, unescaped. -/
def piecesOfMarkup (markup : String) : Option (List (List Char)) :=
  (cutAt lineBreak markup.toList).mapM unescape?

/-- How a reader of markup sees one character of a message. -/
def shown (c : Char) : Piece :=
  if c = '\n' then .tag "br/" else .char c

/-! Cutting. -/

theorem cutFrom_append (separator passed rest : List Char) :
    cutFrom separator passed.length (passed ++ rest) = cutAt separator rest := by
  induction passed with
  | nil => rfl
  | cons c passed ih => rwa [List.length_cons, List.cons_append, cutFrom]

/-- A separator at the start of a text ends an empty part. -/
theorem cutAt_separator (first : Char) (others rest : List Char) :
    cutAt (first :: others) (first :: others ++ rest) = [] :: cutAt (first :: others) rest := by
  have start : first :: others <+: first :: (others ++ rest) :=
    List.prefix_append (first :: others) rest
  rw [cutAt, List.cons_append, cutFrom, if_pos start, List.length_cons, Nat.add_sub_cancel,
    cutFrom_append]

/-- A text in which no separator can start goes to the part behind it. -/
theorem cutAt_append {first : Char} {others text : List Char} (absent : first ∉ text)
    (rest : List Char) :
    cutAt (first :: others) (text ++ rest) =
      (cutAt (first :: others) rest).modifyHead (text ++ ·) := by
  induction text with
  | nil =>
    rw [List.nil_append]
    cases cutAt (first :: others) rest <;> rfl
  | cons c text ih =>
    obtain ⟨other, absent⟩ : first ≠ c ∧ first ∉ text := by simpa using absent
    have no_start : ¬ first :: others <+: c :: (text ++ rest) := fun start =>
      other (List.cons_prefix_cons.mp start).1
    rw [List.cons_append, cutAt, cutFrom, if_neg no_start]
    change List.modifyHead _ (cutAt _ _) = _
    rw [ih absent, List.modifyHead_modifyHead]
    rfl

/-! Markup of messages. -/

theorem newline_notMem_escapeChar {c : Char} (inside : c ≠ '\n') : '\n' ∉ escapeChar c := by
  by_cases special : c = '&' ∨ c = '<' ∨ c = '>' ∨ c = '"'
  · rcases special with rfl | rfl | rfl | rfl <;> decide
  · obtain ⟨amp, lt, gt, quot⟩ : c ≠ '&' ∧ c ≠ '<' ∧ c ≠ '>' ∧ c ≠ '"' := by simpa using special
    simpa [escapeChar, amp, lt, gt, quot] using inside.symm

/-- How one character of a message is written in its markup. -/
def writtenChar (c : Char) : List Char :=
  if c = '\n' then lineBreak else escapeChar c

theorem toList_brokenLines (message : String) :
    (brokenLines message).toList = message.toList.flatMap writtenChar := by
  rw [brokenLines, String.toList_ofList, escape, List.flatMap_assoc]
  congr 1
  funext c
  by_cases newline : c = '\n'
  · subst newline
    rfl
  · have unbroken : ∀ written ∈ escapeChar c,
        (if written = '\n' then lineBreak else [written]) = [written] := by
      intro written among
      have other : written ≠ '\n' := fun same => newline_notMem_escapeChar newline (same ▸ among)
      exact if_neg other
    rw [writtenChar, if_neg newline, List.flatMap_def]
    exact (congrArg List.flatten (List.map_congr_left unbroken)).trans (List.flatMap_singleton' _)

/-- The parts of a markup between its line breaks are the pieces of the message, escaped. -/
theorem cutAt_written (message : List Char) :
    cutAt lineBreak (message.flatMap writtenChar) = (pieces message).map escape := by
  induction message with
  | nil => rfl
  | cons c rest ih =>
    rw [List.flatMap_cons, writtenChar]
    by_cases newline : c = '\n'
    · rw [if_pos newline, pieces, if_pos newline, List.map_cons, ← ih]
      exact cutAt_separator '<' _ _
    · have absent : '<' ∉ escapeChar c := fun among => (no_delimiter_of_mem_escapeChar among).1 rfl
      have head : cutAt lineBreak (escapeChar c ++ rest.flatMap writtenChar) =
          (cutAt lineBreak (rest.flatMap writtenChar)).modifyHead (escapeChar c ++ ·) :=
        cutAt_append absent _
      obtain ⟨piece, others, parts⟩ := List.exists_cons_of_ne_nil (pieces_ne_nil rest)
      rw [if_neg newline, head, ih, pieces_cons newline, parts]
      rfl

theorem mapM_unescape? (parts : List (List Char)) :
    (parts.map escape).mapM unescape? = some parts := by
  have inverse : (fun part => unescape? (escape part)) = fun part => pure part :=
    funext unescape?_escape
  rw [List.mapM_map, Function.comp_def, inverse, List.mapM_pure, List.map_id']
  rfl

/-- The pieces of a message are found in its markup again. -/
theorem piecesOfMarkup_brokenLines (message : String) :
    piecesOfMarkup (brokenLines message) = some (pieces message.toList) := by
  rw [piecesOfMarkup, toList_brokenLines, cutAt_written, mapM_unescape?]

example : brokenLines "a\r\n<br/>" = "a\r<br/>&lt;br/&gt;" := by decide
example : piecesOfMarkup "a\r<br/>&lt;br/&gt;" = some ["a\r".toList, "<br/>".toList] := by decide

/-- Each character is written as what is read back as this character, or as a line break. -/
theorem read_writtenChar (c : Char) : read (writtenChar c) = some [shown c] := by
  rw [writtenChar, shown]
  split
  · rfl
  · exact read_escapeChar c

theorem read_brokenLines (message : String) :
    read (brokenLines message).toList = some (message.toList.map shown) := by
  rw [toList_brokenLines, read_flatMap read_writtenChar, List.map_eq_flatMap]

/-! Both displays. -/

/-- The two displays of any message show the same pieces: those of its markup, unescaped, make the message
again when joined with newlines, and make the lines that are listed. A reader finds nothing in the markup
but the characters of the message, and a line break for each of its newlines. -/
theorem displays_show_same_lines (table : Option Table) (message : String) :
    let view : View := ⟨table, some message⟩
    ∃ markup parts, view.faultMarkup = some markup ∧
      piecesOfMarkup markup = some parts ∧
      String.ofList (List.intercalate ['\n'] parts) = message ∧
      view.faultLines = (linesOf parts).map String.ofList ∧
      read markup.toList = some (message.toList.map shown) := by
  refine ⟨brokenLines message, pieces message.toList, rfl, piecesOfMarkup_brokenLines message, ?_, ?_,
    read_brokenLines message⟩
  · rw [pieces_eq_splitOn, List.intercalate_splitOn, String.ofList_toList]
  · rw [← linesOfPieces_eq]
    rfl

end SoundChange.MessageDisplays
