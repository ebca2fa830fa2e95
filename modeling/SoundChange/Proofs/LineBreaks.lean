import SoundChange.Text.Lines

/-! Pieces and lines. The pieces of a text are what stands between its newlines. Its lines are the
pieces, less what belongs to the ends of lines: the carriage return before a newline, and the empty piece
behind the last newline. -/
namespace SoundChange.LineBreaks
open Text

/-- Parts that are built from the end of a text, a new one at each separator, are those that the separator
splits the text into. -/
theorem eq_splitOn_of_steps {α : Type} [BEq α] [LawfulBEq α] {separator : α}
    {parts : List α → List (List α)} (empty : parts [] = [[]])
    (ends : ∀ rest, parts (separator :: rest) = [] :: parts rest)
    (inside : ∀ {c rest part others}, c ≠ separator → parts rest = part :: others →
      parts (c :: rest) = (c :: part) :: others)
    (text : List α) : parts text = text.splitOn separator := by
  induction text with
  | nil => exact empty
  | cons c rest ih =>
    rw [List.splitOn_cons_eq_if_modifyHead]
    by_cases separates : c = separator
    · rw [separates, ends, ih, if_pos BEq.rfl]
    · obtain ⟨part, others, split⟩ := List.exists_cons_of_ne_nil (List.splitOn_ne_nil separator rest)
      rw [inside separates (ih.trans split), split, if_neg (by simpa using separates)]
      rfl

/-- No part of a split text has the separator in it. -/
theorem not_mem_of_mem_splitOn {α : Type} [BEq α] [LawfulBEq α] {separator : α} {text part : List α}
    (split : part ∈ text.splitOn separator) : separator ∉ part := by
  induction text generalizing part with
  | nil =>
    rw [List.mem_singleton.mp split]
    exact List.not_mem_nil
  | cons c rest ih =>
    rw [List.splitOn_cons_eq_if_modifyHead] at split
    by_cases separates : c = separator
    · rw [separates, if_pos BEq.rfl] at split
      rcases List.mem_cons.mp split with rfl | later
      · exact List.not_mem_nil
      · exact ih later
    · rw [if_neg (by simpa using separates)] at split
      obtain ⟨first, others, parts⟩ := List.exists_cons_of_ne_nil (List.splitOn_ne_nil separator rest)
      rw [parts] at split ih
      rcases List.mem_cons.mp split with rfl | later
      · exact List.not_mem_cons_of_ne_of_not_mem (Ne.symm separates) (ih List.mem_cons_self)
      · exact ih (List.mem_cons_of_mem first later)

theorem pieces_eq_splitOn (text : List Char) : pieces text = text.splitOn '\n' :=
  eq_splitOn_of_steps rfl (fun rest => by simp [pieces])
    (fun inside rest => by simp [pieces, inside, rest]) text

theorem pieces_ne_nil (text : List Char) : pieces text ≠ [] := by
  rw [pieces_eq_splitOn]
  exact List.splitOn_ne_nil '\n' text

/-- A character that is no newline belongs to the first piece. -/
theorem pieces_cons {c : Char} (inside : c ≠ '\n') (rest : List Char) :
    pieces (c :: rest) = (pieces rest).modifyHead (c :: ·) := by
  simp [pieces_eq_splitOn, List.splitOn_cons_eq_if_modifyHead, inside]

/-- A piece without one carriage return at its end. -/
def withoutReturn (piece : List Char) : List Char :=
  if ['\r'] <:+ piece then piece.dropLast else piece

/-- The lines that pieces make: all but the last were ended by a newline, and the last one is a line only
if it is not empty. -/
def linesOf (parts : List (List Char)) : List (List Char) :=
  parts.dropLast.map withoutReturn ++ parts.getLast?.toList.filter (· ≠ [])

theorem dropReturn_eq (line : List Char) : dropReturn line = withoutReturn line := by
  have ended : line.getLast? = some '\r' ↔ ['\r'] <:+ line := by
    rw [List.getLast?_eq_some_iff]
    exact exists_congr fun _ => eq_comm
  simp only [dropReturn, withoutReturn, ended]

theorem linesOfPieces_eq (parts : List (List Char)) : linesOfPieces parts = linesOf parts := by
  induction parts using linesOfPieces.induct with
  | case1 => rfl
  | case2 => rfl
  | case3 last inhabited => simp [linesOfPieces, linesOf, inhabited]
  | case4 piece next others ih =>
    rw [linesOfPieces, ih, dropReturn_eq]
    rfl

end SoundChange.LineBreaks
