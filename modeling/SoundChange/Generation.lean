import SoundChange.Engine
import SoundChange.History.Transcript

/-!
Whole generations. There are four ways to a table: words are invented and changed, words are
invented only, words are given and changed, or words and changes are both read from a transcript.
Each way is one session with an engine, and each step of it is taken only after the one before.
-/
namespace SoundChange

/-- Everything that a finished run leaves behind. -/
structure Generation where
  words : List Word
  result : Transformation
  table : Table
  deriving DecidableEq, Repr

/-- The words and their changes, without the table. -/
def Generation.transcript (generation : Generation) : Transcript :=
  ⟨generation.words, generation.result⟩

namespace Engine

variable {system : Type}

/-- The generation of words whose transformation is known. -/
def finish (engine : Engine system) (words : List Word) (result : Transformation) :
    Session system Generation := do
  let table ← engine.tabulate words result
  return ⟨words, result, table⟩

/-- The generation of given words. -/
def follow (engine : Engine system) (words : List Word) : Session system Generation := do
  let result ← engine.applyRules words
  engine.finish words result

/-- `run_request`: invents words and runs the rules over them. -/
def runRequest (engine : Engine system) (request : Request) : Run Generation :=
  engine.withSystem request.rules do
    let words ← engine.generateWords request.wordCount request.repartition
    engine.follow words

/-- `run_words` without transformations: invents words and leaves them as they are. -/
def runUntouched (engine : Engine system) (request : Request) : Run Generation :=
  engine.withSystem request.rules do
    let words ← engine.generateWords request.wordCount request.repartition
    engine.finish words (.untouched words)

/-- `run_on_words`: runs the rules over words that are already there. -/
def runOnWords (engine : Engine system) (source : String) (words : List Word) : Run Generation :=
  engine.withSystem source (engine.follow words)

/-- `run_render`, from its system on: builds the table of a transcript anew. The rules are only used
for pronunciations. -/
def runOnTranscript (engine : Engine system) (source : String) (transcript : Transcript) :
    Run Generation :=
  engine.withSystem source (engine.finish transcript.words transcript.result)

end Engine

end SoundChange
