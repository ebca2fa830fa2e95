import SoundChange.Request
import SoundChange.Table

/-!
Engines. An engine parses rules into a system, and the system generates words, applies its rules,
and transcribes words until it is released. `Engine.withSystem` brackets a session: whatever happens
in it, the system is released once, after everything else. A run lists its calls to the engine.
-/
namespace SoundChange

/-- What an engine can do; its systems are passed on from call to call. -/
structure Engine (system : Type) where
  parse : String → Except EngineFault system
  generate : Nat → Repartition → system → Except EngineFault (List Word) × system
  apply : List Word → system → Except EngineFault Transformation × system
  transcribe : Table.Lookup system
  release : system → system

/-- A call to an engine. -/
inductive Call where
  | parse
  | generate (count : Nat) (repartition : Repartition)
  | apply (words : List Word)
  | transcribe (word : Word)
  | release
  deriving DecidableEq, Repr

/-- Calls made to one system, and what comes of them. -/
abbrev Session (system value : Type) : Type :=
  Traced Call system RequestFault value

/-- What comes of a whole run, and all calls it made. -/
structure Run (value : Type) where
  answer : Except RequestFault value
  calls : List Call

/-- Whether the program stopped in a run. -/
def Run.stops {value : Type} (run : Run value) : Bool :=
  match run.answer with
  | .ok _ => false
  | .error fault => fault.stops

namespace Engine

variable {system value : Type}

/-- One call of a session. -/
def calling (call : Call) (act : system → Except EngineFault value × system) :
    Session system value :=
  Traced.rename id .engine (Traced.perform call act)

def generateWords (engine : Engine system) (count : Nat) (repartition : Repartition) :
    Session system (List Word) :=
  calling (.generate count repartition) (engine.generate count repartition)

def applyRules (engine : Engine system) (words : List Word) : Session system Transformation :=
  calling (.apply words) (engine.apply words)

/-- `tabulate`: the table of a finished transformation; it is aligned before any word is
transcribed. -/
def tabulate (engine : Engine system) (words : List Word) (result : Transformation) :
    Session system Table :=
  match reconcile words result with
  | .error fault => Traced.fail (.contract fault)
  | .ok matrix => Traced.rename .transcribe id (Table.build words result matrix engine.transcribe)

/-- `acquire`, and the release of a handle that is dropped: runs a session on the system of some
rules. The release is the last call, and does nothing to the answer. -/
def withSystem (engine : Engine system) (source : String) (session : Session system value) :
    Run value :=
  match engine.parse source with
  | .error fault => ⟨.error (.engine fault), [.parse]⟩
  | .ok system =>
    let r := session system
    ⟨r.answer, .parse :: (r.events ++ [.release])⟩

end Engine

end SoundChange
