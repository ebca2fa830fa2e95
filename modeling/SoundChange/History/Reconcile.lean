import SoundChange.Fault
import SoundChange.Transformation

/-!
Reconciling a history. For every word and every rule the matrix holds the form right after the rule
and whether this rule, not an earlier one, changed the word. `reconcile` first checks that the lists
line up, and reports the first fault in the order output length, step lengths, final forms.
-/
namespace SoundChange

/-- The state of one word right after one rule. -/
structure StepState where
  current : Word
  changed : Bool
  deriving DecidableEq, Repr

structure ReconciledRow where
  steps : List StepState
  final : Word
  deriving DecidableEq, Repr

/-- One row for each word, one state for each rule. -/
structure Matrix where
  rows : List ReconciledRow
  deriving DecidableEq, Repr

namespace Matrix

/-- Whether a step changed a word, if the matrix has such a word and step. -/
def changed? (matrix : Matrix) (word step : Nat) : Option Bool :=
  match matrix.rows[word]? with
  | none => none
  | some row => row.steps[step]?.map StepState.changed

end Matrix

/-- The states of one word, given the form before the first step and the form after each step. -/
def wordStates (previous : Word) : List Word → List StepState
  | [] => []
  | current :: later => ⟨current, previous != current⟩ :: wordStates current later

/-- The first step whose word list has not the expected length. -/
def firstMisalignedStep (expected index : Nat) : List Step → Option ContractFault
  | [] => none
  | step :: later =>
    if step.words.length = expected then firstMisalignedStep expected (index + 1) later
    else some (.stepLength index step.rule expected step.words.length)

/-- The first word whose form after the last step is not its final form. -/
def firstFinalMismatch (index : Nat) : List Word → List Word → Option ContractFault
  | last :: lasts, output :: outputs =>
    if last = output then firstFinalMismatch (index + 1) lasts outputs
    else some (.finalMismatch index output last)
  | _, _ => none

/-- `check_alignment`: the first reason why a transformation does not fit a list of words. -/
def alignmentFault? (words : List Word) (result : Transformation) : Option ContractFault :=
  if result.output.length ≠ words.length then
    some (.outputLength words.length result.output.length)
  else
    match firstMisalignedStep words.length 0 result.history with
    | some fault => some fault
    | none =>
      match result.history.getLast? with
      | none => none
      | some last => firstFinalMismatch 0 last.words result.output

/-- The rows of a list of words beside their final forms; `columns` holds, for each step, the forms
of exactly these words. -/
def reconciledRows (columns : List (List Word)) : List Word → List Word → List ReconciledRow
  | word :: words, final :: finals =>
    ⟨wordStates word (columns.filterMap List.head?), final⟩ ::
      reconciledRows (columns.map List.tail) words finals
  | _, _ => []

/-- `reconcile`: the matrix of a transformation that fits its words. -/
def reconcile (words : List Word) (result : Transformation) : Except ContractFault Matrix :=
  match alignmentFault? words result with
  | some fault => .error fault
  | none => .ok ⟨reconciledRows (result.history.map Step.words) words result.output⟩

end SoundChange
