import SoundChange.Pattern.Substitution
import SoundChange.Random.Draws
import SoundChange.Transformation

/-!
Sound systems: what a rule file says, ready to run. A system invents words from its syllables, runs
its rules over words, and pronounces words with its spellings. It holds the random draws that are
still to be made, and it can be released, after which it has neither syllables nor rules.
-/
namespace SoundChange

/-- One letter of a class, with its weight among the letters of the class. -/
structure Letter where
  text : String
  weight : Float

/-- A place in a syllable that is filled with a letter of a class, or left out if it may be. -/
structure Slot where
  letterClass : Char
  optional : Bool
  deriving DecidableEq, Repr

/-- How some letters of a word are pronounced together. -/
structure Spelling where
  letters : List Char
  sound : String
  deriving DecidableEq, Repr

/-- A rule that changes words. -/
structure Rule where
  name : String
  substitution : Pattern.Substitution

def Rule.apply (rule : Rule) (word : Word) : Word :=
  rule.substitution.run word

structure SoundSystem where
  classes : List (Char × List Letter)
  syllables : List (List Slot)
  /-- Longer spellings come first. -/
  spellings : List Spelling
  /-- Whether every character of a word must be pronounced by some spelling. -/
  strict : Bool
  rules : List Rule
  draws : Random.Draws
  released : Bool

namespace SoundSystem

/-- `rule_names`, in the order in which the rules run. -/
def ruleNames (system : SoundSystem) : List String :=
  system.rules.map Rule.name

/-- `release`: frees what the system holds; the second time there is nothing left to do. -/
def release (system : SoundSystem) : SoundSystem :=
  { system with released := true, rules := [], syllables := [] }

theorem release_release (system : SoundSystem) : system.release.release = system.release := rfl

end SoundSystem

end SoundChange
