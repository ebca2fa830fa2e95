/-!
Computations that act on a system, may fail, and leave a trace of what they did. A `Traced`
computation answers or fails, hands on the state of the system in both cases, and lists the events
that happened, the earliest first. A failure stops the computation, so nothing happens after it.
-/
namespace SoundChange

/-- What a traced computation leaves behind. -/
structure Traced.Result (event state fault value : Type) where
  answer : Except fault value
  state : state
  events : List event

/-- A computation over `state` that lists its events and may stop with a fault. -/
def Traced (event state fault value : Type) : Type :=
  state → Traced.Result event state fault value

namespace Traced

variable {event state fault value other : Type}

/-- Answers without doing anything. -/
def answer (v : value) : Traced event state fault value :=
  fun s => ⟨.ok v, s, []⟩

/-- Stops without doing anything. -/
def fail (f : fault) : Traced event state fault value :=
  fun s => ⟨.error f, s, []⟩

/-- Runs a second computation on the answer of the first; the events of both happen in turn. -/
def andThen (first : Traced event state fault value)
    (second : value → Traced event state fault other) : Traced event state fault other :=
  fun s =>
    let r := first s
    match r.answer with
    | .error f => ⟨.error f, r.state, r.events⟩
    | .ok v =>
      let r' := second v r.state
      ⟨r'.answer, r'.state, r.events ++ r'.events⟩

instance : Monad (Traced event state fault) where
  pure := answer
  bind := andThen

/-- One event: what it does to the state, and whether it succeeds. -/
def perform (e : event) (act : state → Except fault value × state) :
    Traced event state fault value :=
  fun s =>
    let (outcome, s') := act s
    ⟨outcome, s', [e]⟩

/-- The same computation with its events and faults renamed. -/
def rename {event' fault' : Type} (onEvent : event → event') (onFault : fault → fault')
    (computation : Traced event state fault value) : Traced event' state fault' value :=
  fun s =>
    let r := computation s
    ⟨r.answer.mapError onFault, r.state, r.events.map onEvent⟩

end Traced

end SoundChange
