/-!
Transformations: what a list of rules did to a list of words. A step holds the label of a rule and
the form of every word right after it, in the order of the words; a transformation holds the steps
in the order in which the rules ran, and the final forms.
-/
namespace SoundChange

/-- A generated word; words are only ever compared for equality. -/
abbrev Word := String

/-- One rule applied to the whole word list. -/
structure Step where
  rule : String
  words : List Word
  deriving DecidableEq, Repr, Inhabited

structure Transformation where
  history : List Step
  output : List Word
  deriving DecidableEq, Repr, Inhabited

namespace Transformation

/-- What running no rules at all does: every word is its own final form. -/
def untouched (words : List Word) : Transformation :=
  ⟨[], words⟩

def rules (transformation : Transformation) : List String :=
  transformation.history.map Step.rule

end Transformation

end SoundChange
