import SoundChange.Generation
import SoundChange.History.Saved
import SoundChange.Table.Aligned
import SoundChange.Table.Page
import SoundChange.Table.Records
import SoundChange.WordList

/-!
Batch runs. A job names a file of rules, where its words come from, and how and where the result is
written. A run reads what it needs, makes its generation in one session with an engine, and writes
the result last; a run that fails before that writes nothing.
-/
namespace SoundChange

/-- How a generation is written. -/
inductive OutputFormat where
  /-- The table in aligned columns. -/
  | text
  /-- Final forms only, one on each line. -/
  | plain
  | csv
  | html
  /-- A transcript, which can be read again. -/
  | json
  deriving DecidableEq, Repr

namespace OutputFormat

def all : List OutputFormat := [text, plain, csv, html, json]

def name : OutputFormat → String
  | text => "text"
  | plain => "plain"
  | csv => "csv"
  | html => "html"
  | json => "json"

def ofName? (text : String) : Option OutputFormat :=
  all.find? fun format => format.name == text

end OutputFormat

/-- `format_generation`: a generation in a format. -/
def Generation.format (generation : Generation) : OutputFormat → Except RenderFault String
  | .text => .ok generation.table.aligned
  | .plain => .ok (WordList.write generation.result.output)
  | .csv => generation.table.csv
  | .html => .ok generation.table.page
  | .json => .ok (generation.transcript.toText ++ "\n")

/-- Where the words of a job come from. -/
inductive Task where
  /-- Words are invented; the rules may be left unused. -/
  | words (count : Nat) (repartition : Repartition) (untouched : Bool)
  /-- Words are read from a file, or from the input. -/
  | sounds (source : Option String)
  /-- Words and changes are read from a transcript. -/
  | render (transcript : String)
  deriving DecidableEq, Repr

structure Job where
  rules : String
  task : Task
  format : OutputFormat
  /-- The file to write; without one, the result is printed. -/
  output : Option String
  deriving DecidableEq, Repr

/-- Everything that can end a batch run. -/
inductive BatchFault where
  | access (path : String) (fault : IoFault)
  | print (fault : IoFault)
  | request (fault : RequestFault)
  | saved (fault : SavedFault)
  | render (fault : RenderFault)
  deriving DecidableEq, Repr

def BatchFault.message : BatchFault → Option String
  | access path fault => some ("Failed to access " ++ Text.quoted path ++ ": " ++ fault.message)
  | print fault => some ("Failed to write output: " ++ fault.message)
  | request fault => fault.message
  | saved fault => fault.message
  | render fault => some fault.message

namespace Batch

/-- What stands for the input in faults. -/
def inputName : String := "<stdin>"

/-- What a job works on, once everything has been read. -/
inductive Material where
  | words (count : Nat) (repartition : Repartition) (untouched : Bool)
  | list (words : List Word)
  | transcript (transcript : Transcript)

/-- The run that makes the generation of a job. -/
def generation {system : Type} (engine : Engine system) (rules : String) :
    Material → Run Generation
  | .words count repartition untouched =>
    let request : Request := ⟨rules, count, repartition⟩
    if untouched then engine.runUntouched request else engine.runRequest request
  | .list words => engine.runOnWords rules words
  | .transcript transcript => engine.runOnTranscript rules transcript

variable {m : Type → Type} [Monad m]

/-- Reads the words of a file, or of the input. -/
def readWords (host : Host m) (source : Option String) : m (Except BatchFault (List Word)) := do
  let bytes ← match source with
    | some path => host.read path
    | none => host.input
  return (bytes.bind WordList.read).mapError (.access (source.getD inputName))

/-- Reads what a task needs beside the rules. -/
def readMaterial (host : Host m) : Task → m (Except BatchFault Material)
  | .words count repartition untouched => return .ok (.words count repartition untouched)
  | .sounds source => do return (← readWords host source).map .list
  | .render path => do
    return ((← Transcript.load host path).mapError .saved).map .transcript

/-- Delivers a text into a file, or prints it. -/
def deliver (host : Host m) (output : Option String) (text : String) :
    m (Except BatchFault Unit) := do
  match output with
  | some path => return (← host.write path text).mapError (.access path)
  | none => return (← host.print text).mapError .print

/-- Makes the generation of a job: its run with the engine, unless something cannot be read. -/
def make {system : Type} (host : Host m) (engine : Engine system) (job : Job) :
    m (Except BatchFault (Run Generation)) := do
  match ← host.readText job.rules with
  | .error fault => return .error (.access job.rules fault)
  | .ok rules =>
    return (← readMaterial host job.task).map (generation engine rules)

/-- Prints texts in turn, up to the first one that cannot be printed. -/
def printAll (host : Host m) : List String → m (Except IoFault Unit)
  | [] => return .ok ()
  | text :: others => do
    match ← host.print text with
    | .error fault => return .error fault
    | .ok _ => printAll host others

/-- `emit`: delivers a generation in a format. An aligned table without a file is printed piece by
piece; everything else is formatted as a whole before anything is written. -/
def emit (host : Host m) (format : OutputFormat) (output : Option String)
    (generation : Generation) : m (Except BatchFault Unit) := do
  if format = .text ∧ output = none then
    return (← printAll host generation.table.alignedPieces).mapError .print
  else
    match generation.format format with
    | .error fault => return .error (.render fault)
    | .ok text => deliver host output text

/-- `run_words`, `run_sounds` and `run_render`: runs a job. -/
def run {system : Type} (host : Host m) (engine : Engine system) (job : Job) :
    m (Except BatchFault Unit) := do
  match ← make host engine job with
  | .error fault => return .error fault
  | .ok made =>
    match made.answer with
    | .error fault => return .error (.request fault)
    | .ok generation => emit host job.format job.output generation

end Batch

end SoundChange
