import SoundChange.SoundSystem

/-!
Running rules. Each rule is run over all words before the next one, and its step keeps the form of
every word. A rule must not erase a word: the first rule that does, and the first word that it
erases, are reported with the form that the word had just before.
-/
namespace SoundChange

/-- Why rules could not be run. -/
inductive TransformationFault where
  | released
  | erased (rule : String) (word : Word)
  deriving DecidableEq, Repr

def TransformationFault.message : TransformationFault → String
  | released => "Sound system was already released"
  | erased rule word => "Rule '" ++ rule ++ "' erased the word '" ++ word ++ "'"

/-- The first word whose new form is empty. -/
def firstErased? : List Word → List Word → Option Word
  | word :: words, form :: forms =>
    if form.isEmpty then some word else firstErased? words forms
  | _, _ => none

/-- What a list of rules does to a list of words. -/
def applyRules : List Rule → List Word → Except TransformationFault Transformation
  | [], words => .ok (.untouched words)
  | rule :: rules, words =>
    let forms := words.map rule.apply
    match firstErased? words forms with
    | some word => .error (.erased rule.name word)
    | none =>
      match applyRules rules forms with
      | .error fault => .error fault
      | .ok rest => .ok ⟨⟨rule.name, forms⟩ :: rest.history, rest.output⟩

/-- `apply_transformations`: what the rules of a system do, unless it was released. -/
def SoundSystem.apply (system : SoundSystem) (words : List Word) :
    Except TransformationFault Transformation :=
  if system.released then .error .released else applyRules system.rules words

end SoundChange
