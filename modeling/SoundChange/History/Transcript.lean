import SoundChange.History.Encoding
import SoundChange.Json.Printer

/-!
Transcripts: the words of a generation together with what the rules did to them. A transcript is
saved as one JSON record with the words beside the steps and the final forms, and reads back to
itself; steps may also have any of their other encodings.
-/
namespace SoundChange

structure Transcript where
  words : List Word
  result : Transformation
  deriving DecidableEq, Repr

/-- Why a text is no transcript. -/
inductive TranscriptFault where
  | json (fault : EncodingFault)
  | missingWords
  | engine (fault : EngineFault)
  deriving DecidableEq, Repr

/-- What introduces the report of a text. -/
def TranscriptFault.reading : String := "Failed to read transcript JSON: "

def TranscriptFault.message : TranscriptFault → Option String
  | json fault => some (reading ++ fault.message)
  | missingWords => some "Transcript has no 'words' list"
  | engine fault => fault.message

/-- A list of texts as a value. -/
def textsToValue (texts : List String) : Json.Value :=
  .list (texts.map .text)

def Step.toValue (step : Step) : Json.Value :=
  .record [("rule", .text step.rule), ("words", textsToValue step.words)]

namespace Transcript

def toValue (transcript : Transcript) : Json.Value :=
  .record [("words", textsToValue transcript.words),
    ("history", .list (transcript.result.history.map Step.toValue)),
    ("output", textsToValue transcript.result.output)]

/-- `to_json`: the transcript as it is saved. -/
def toText (transcript : Transcript) : String :=
  Json.pretty transcript.toValue

/-- The transcript of a record with a `words` field; the other fields are its transformation. -/
def ofFields (fields : List (String × Json.Value)) : Except TranscriptFault Transcript :=
  match Json.Value.field? "words" fields with
  | none => .error .missingWords
  | some words =>
    match textsOfValue words with
    | .error fault => .error (.json fault)
    | .ok words =>
      match Transformation.ofFields (fields.filter fun field => field.1 != "words") with
      | .error fault => .error (.engine fault.asEngineFault)
      | .ok result => .ok ⟨words, result⟩

/-- `parse_value`: the transcript that a value encodes. -/
def ofValue : Json.Value → Except TranscriptFault Transcript
  | .record fields => ofFields fields
  | _ => .error .missingWords

/-- `from_json`: the transcript that a text holds. -/
def ofText (text : String) : Except TranscriptFault Transcript :=
  match Json.parse? text.toList with
  | none => .error (.json .malformed)
  | some value => ofValue value

end Transcript

end SoundChange
