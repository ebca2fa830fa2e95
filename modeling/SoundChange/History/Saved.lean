import SoundChange.History.Transcript
import SoundChange.Host
import SoundChange.Text.Quoted

/-!
Transcripts in files. A file that can be opened but holds no readable text, such as a directory, is
a transcript that breaks the format; only a file that cannot be opened is an access fault. A file that
can be opened but not be filled is reported in the same words.
-/
namespace SoundChange

/-- Why a transcript could not be saved or loaded. -/
inductive SavedFault where
  | access (path : String) (fault : IoFault)
  | content (fault : TranscriptFault)
  /-- The file was made, but not all of the transcript could be written into it. -/
  | unwritten (fault : IoFault)
  deriving DecidableEq, Repr

def SavedFault.message : SavedFault → Option String
  | access path fault =>
    some ("Failed to access transcript " ++ Text.quoted path ++ ": " ++ fault.message)
  | content fault => fault.message
  | unwritten fault => some (TranscriptFault.reading ++ fault.message)

namespace Transcript

/-- The transcript that some bytes hold. -/
def ofBytes (bytes : List UInt8) : Except TranscriptFault Transcript :=
  match textOfBytes bytes with
  | .error _ => .error (.json .malformed)
  | .ok text => ofText text

variable {m : Type → Type} [Monad m]

/-- `save_transcript`: writes a transcript into a file, which is made before anything is written. -/
def save (host : Host m) (path : String) (transcript : Transcript) :
    m (Except SavedFault Unit) := do
  match ← host.create path with
  | .error fault => return .error (.access path fault)
  | .ok _ => return (← host.fill path transcript.toText).mapError .unwritten

/-- `load_transcript`: reads the transcript of a file. -/
def load (host : Host m) (path : String) : m (Except SavedFault Transcript) := do
  match ← host.read path with
  | .error .isDirectory => return .error (.content (.json .malformed))
  | .error fault => return .error (.access path fault)
  | .ok bytes => return (ofBytes bytes).mapError .content

end Transcript

end SoundChange
