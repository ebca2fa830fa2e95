import SoundChange.Repartition

/-!
What can go wrong on the way from a form to a table. Faults are causes; each has one message, the
sentence shown to the user. Input faults are found before any engine is asked, engine faults are
reported by an engine in its own words, and contract faults say that an engine answered but broke
the alignment of its lists. A call to an engine may also stop the whole program. Nothing is reported
then, so a stop has no message.
-/
namespace SoundChange

/-- A form that cannot be turned into a request. -/
inductive InputFault where
  | invalidWordCount (raw : String)
  | nonPositiveWordCount
  | tooManyWords (limit : Nat)
  | missingRepartition
  | unknownRepartition (label : String)
  deriving DecidableEq, Repr

def InputFault.message : InputFault → String
  | invalidWordCount raw => "Number of words must be a whole number, got '" ++ raw ++ "'"
  | nonPositiveWordCount => "Number of words must be greater than zero"
  | tooManyWords limit => "Number of words must be at most " ++ toString limit
  | missingRepartition => "Select a monosyllable repartition"
  | unknownRepartition label => "Unknown monosyllable repartition '" ++ label ++ "'"

/-- Why a call never comes back. -/
inductive Stop where
  /-- Something happened that nothing in the program is prepared for. -/
  | breakdown
  /-- More random draws were needed than there are. -/
  | exhausted
  deriving DecidableEq, Repr

/-- How a call to an engine ends without an answer: with a report of the engine, or not at all,
because the program stopped in it. -/
inductive EngineFault where
  | parse (report : String)
  | generation (report : String)
  | transformation (report : String)
  | transcription (report : String)
  | stopped (stop : Stop)
  deriving DecidableEq, Repr

/-- The message of a report; a stop has none. -/
def EngineFault.message : EngineFault → Option String
  | parse report => some report
  | generation report => some report
  | transformation report => some report
  | transcription report => some report
  | stopped _ => none

/-- An answer of an engine, or of a transcript, whose lists do not line up. -/
inductive ContractFault where
  | stepLength (step : Nat) (rule : String) (expected actual : Nat)
  | outputLength (expected actual : Nat)
  | finalMismatch (index : Nat) (output last : String)
  | rowWidth (row expected actual : Nat)
  | rowCount (expected actual : Nat)
  deriving DecidableEq, Repr

def ContractFault.message : ContractFault → String
  | stepLength step rule expected actual =>
    "Rule step " ++ toString step ++ " ('" ++ rule ++ "') holds " ++ toString actual ++
      " words, expected " ++ toString expected
  | outputLength expected actual =>
    "Transformation output holds " ++ toString actual ++ " words, expected " ++ toString expected
  | finalMismatch index output last =>
    "Final form '" ++ output ++ "' of word " ++ toString index ++
      " differs from last rule result '" ++ last ++ "'"
  | rowWidth row expected actual =>
    "Row " ++ toString row ++ " holds " ++ toString actual ++ " cells, expected " ++
      toString expected
  | rowCount expected actual =>
    "Reconciled history holds " ++ toString actual ++ " rows, expected " ++ toString expected

/-- Everything that can end a request. -/
inductive RequestFault where
  | input (fault : InputFault)
  | contract (fault : ContractFault)
  | engine (fault : EngineFault)
  deriving DecidableEq, Repr

def RequestFault.message : RequestFault → Option String
  | input fault => some fault.message
  | contract fault => some fault.message
  | engine fault => fault.message

/-- Whether the program stopped, instead of going on with a fault. -/
def RequestFault.stops : RequestFault → Bool
  | engine (.stopped _) => true
  | _ => false

end SoundChange
