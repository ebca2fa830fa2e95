/-!
Lines of a text. A newline ends a line, one carriage return before that newline belongs to the line
end, and a text that ends in a newline has no further empty line. A carriage return elsewhere is an
ordinary character.
-/
namespace SoundChange.Text

/-- The parts of a text between its newlines; there is always one more part than newlines. -/
def pieces : List Char → List (List Char)
  | [] => [[]]
  | c :: rest =>
    if c = '\n' then [] :: pieces rest
    else
      match pieces rest with
      | [] => [[c]]
      | piece :: others => (c :: piece) :: others

/-- A line without one carriage return at its end. -/
def dropReturn (line : List Char) : List Char :=
  if line.getLast? = some '\r' then line.dropLast else line

/-- The lines that a list of pieces stands for: every piece but the last was ended by a newline. -/
def linesOfPieces : List (List Char) → List (List Char)
  | [] => []
  | [last] => if last = [] then [] else [last]
  | piece :: next :: others => dropReturn piece :: linesOfPieces (next :: others)

def lines (text : List Char) : List (List Char) :=
  linesOfPieces (pieces text)

/-- The lines of a text, as texts. -/
def textLines (text : String) : List String :=
  (lines text.toList).map String.ofList

end SoundChange.Text
