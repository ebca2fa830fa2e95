import SoundChange.Arguments
import SoundChange.Files
import SoundChange.SoundSystem.Engine

/-!
What a command line does. Its settings are loaded first, and if that fails no job is started; the
settings have no other effect on a job. A failed run reports one message and ends with code one; a
run in which the program stops reports nothing and has a code of its own.
-/
namespace SoundChange

/-- How a run ends: its exit code, and the message for the user if it failed. -/
structure Exit where
  code : Nat
  report : Option String
  deriving DecidableEq, Repr

def Exit.success : Exit := ⟨0, none⟩

def Exit.failure (report : String) : Exit := ⟨1, some report⟩

def Exit.stopped : Exit := ⟨101, none⟩

/-- How a run ends with a fault. -/
def Exit.ofFault (fault : BatchFault) : Exit :=
  match fault.message with
  | some report => .failure report
  | none => .stopped

namespace CommandLine

variable {m : Type → Type} [Monad m]

/-- Runs a job under the settings of a file. -/
def runJob {system : Type} (host : Host m) (engine : Engine system) (settingsFile : String)
    (job : Job) : m Exit := do
  match ← Settings.load host settingsFile with
  | .error fault => return .failure fault.message
  | .ok _ =>
    match ← Batch.run host engine job with
    | .error fault => return .ofFault fault
    | .ok _ => return .success

/-- Runs a job with fresh random draws. -/
def runFreshly (host : Host m) (settingsFile : String) (job : Job) : m Exit := do
  let seed ← host.seed
  runJob host (SoundSystem.seededEngine seed) settingsFile job

end CommandLine

end SoundChange
