import SoundChange.Text.Blank

/-!
Repartitions: how often a generated word is a single syllable. A repartition has a label, which
selectors show and configuration files hold, and a share, the part of words that are monosyllables.
`Repartition.ofLabel?` accepts exact labels only; `Repartition.ofSpelling?` also accepts other
cases, underscores and surrounding blanks.
-/
namespace SoundChange

inductive Repartition where
  | always
  | mostly
  | frequent
  | lessFrequent
  | rare
  | never
  deriving DecidableEq, Repr

namespace Repartition

/-- Every repartition, in the order in which selectors list them. -/
def all : List Repartition :=
  [always, mostly, frequent, lessFrequent, rare, never]

def label : Repartition → String
  | always => "Always"
  | mostly => "Mostly"
  | frequent => "Frequent"
  | lessFrequent => "LessFrequent"
  | rare => "Rare"
  | never => "Never"

/-- `mono_syllable_share`: the share of generated words that are monosyllables. -/
def share : Repartition → Float32
  | always => 1.0
  | mostly => 0.85
  | frequent => 0.5
  | lessFrequent => 0.20
  | rare => 0.07
  | never => 0.0

/-- `from_label`: the repartition with exactly this label. -/
def ofLabel? (text : String) : Option Repartition :=
  all.find? fun repartition => repartition.label == text

/-- The form in which spellings are compared: no underscores, ASCII letters in lower case. -/
def folded (text : List Char) : List Char :=
  (text.filter (· != '_')).map Char.toLower

/-- `from_str`: the repartition that a spelling on the command line stands for. -/
def ofSpelling? (text : String) : Option Repartition :=
  all.find? fun repartition =>
    repartition.label.toList.map Char.toLower == folded (Text.trim text.toList)

end Repartition

end SoundChange
