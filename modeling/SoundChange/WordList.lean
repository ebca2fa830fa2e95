import SoundChange.Host
import SoundChange.Text.Blank
import SoundChange.Transformation

/-!
Word lists: one word on each line, without the blanks around it; lines without a word are passed
over. Every line is decoded by itself, and a line that is not well-formed text spoils the list.
`WordList.write` is the plain form of a list, which reads back to it.
-/
namespace SoundChange.WordList

/-- The byte that ends a line. -/
def lineEnd : UInt8 := 10

/-- The parts of a byte sequence between its line ends. -/
def byteLines : List UInt8 → List (List UInt8)
  | [] => [[]]
  | byte :: rest =>
    if byte = lineEnd then [] :: byteLines rest
    else
      match byteLines rest with
      | [] => [[byte]]
      | line :: others => (byte :: line) :: others

/-- The words on lines that were decoded. -/
def wordsOfLines (lines : List (List Char)) : List Word :=
  ((lines.map Text.trim).filter fun word => !word.isEmpty).map String.ofList

/-- `read_words`: the words of a byte sequence. -/
def read (bytes : List UInt8) : Except IoFault (List Word) :=
  match (byteLines bytes).mapM Text.Utf8.decode with
  | some lines => .ok (wordsOfLines lines)
  | none => .error .invalidText

/-- `to_plain`: the words, each with a line end after it; no words at all make one empty line. -/
def write (words : List Word) : String :=
  String.intercalate "\n" words ++ "\n"

end SoundChange.WordList
