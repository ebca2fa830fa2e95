import SoundChange.Fault
import SoundChange.Number.Whole

/-!
From a filled-in form to a request. A form holds what the user typed and picked; `Form.validate`
turns it into a request or names the first fault, looking at the word count before the repartition.
-/
namespace SoundChange

/-- The largest number of words that one request may ask for. -/
def wordLimit : Nat := 10000

/-- Word counts are read as whole numbers of 128 bits; anything else is not a number. -/
def countLow : Int := -(Int.ofNat (Nat.pow 2 127))

def countHigh : Int := Int.ofNat (Nat.pow 2 127)

/-- `parse_word_count`: the number of words that a text asks for, surrounding blanks ignored. -/
def readWordCount (raw : String) : Except InputFault Nat :=
  match Number.wholeWithin? countLow countHigh (Text.trim raw.toList) with
  | none => .error (.invalidWordCount raw)
  | some count =>
    if count ≤ 0 then .error .nonPositiveWordCount
    else if count ≤ wordLimit then .ok count.toNat
    else .error (.tooManyWords wordLimit)

/-- Raw values as the user typed or picked them. -/
structure Form where
  rules : String
  wordCount : String
  repartition : Option String
  deriving DecidableEq, Repr

/-- A form that passed validation. -/
structure Request where
  rules : String
  wordCount : Nat
  repartition : Repartition
  deriving DecidableEq, Repr

/-- The repartition that a form picks. -/
def Form.chosenRepartition (form : Form) : Except InputFault Repartition :=
  match form.repartition with
  | none => .error .missingRepartition
  | some label =>
    match Repartition.ofLabel? label with
    | some repartition => .ok repartition
    | none => .error (.unknownRepartition label)

/-- `validate`: the request of a form, or the first fault in it. -/
def Form.validate (form : Form) : Except InputFault Request :=
  match readWordCount form.wordCount with
  | .error fault => .error fault
  | .ok count =>
    match form.chosenRepartition with
    | .error fault => .error fault
    | .ok repartition => .ok ⟨form.rules, count, repartition⟩

/-- `parse_repartition`: the repartition that a command-line spelling stands for. The fault shows it
as it was typed. -/
def readRepartition (spelling : String) : Except InputFault Repartition :=
  match Repartition.ofSpelling? spelling with
  | some repartition => .ok repartition
  | none => .error (.unknownRepartition spelling)

end SoundChange
