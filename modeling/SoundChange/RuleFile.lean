import SoundChange.Toml.Shape

/-!
Rule files. A rule file lists syllable patterns, classes of letters, weights of letters, spellings
with their pronunciation, and rules. All of it may be left out, and other entries are ignored. The
classes, weights and spellings are dictionaries, so no name in them is given twice.
-/
namespace SoundChange

/-- A rule as it is written: a pattern, and what replaces its matches. -/
structure RuleEntry where
  name : String
  pattern : String
  replacement : String
  deriving DecidableEq, Repr

structure RuleFile where
  syllables : List String
  /-- Whether every character of a word must be pronounced by some spelling. -/
  strictIpa : Bool
  classes : Dictionary (List String)
  weights : Dictionary Float
  ipa : Dictionary String
  rules : List RuleEntry
  deriving DecidableEq

namespace RuleEntry

def fieldNames : List String := ["name", "pattern", "replacement"]

def ofValue? (v : Toml.Value) : Option RuleEntry := do
  let fields ← v.fields? fieldNames
  let name ← Toml.required? Toml.Value.text? "name" fields
  let pattern ← Toml.required? Toml.Value.text? "pattern" fields
  let replacement ← Toml.optional? Toml.Value.text? "" "replacement" fields
  return ⟨name, pattern, replacement⟩

end RuleEntry

namespace RuleFile

/-- The rule file of the entries of a document. -/
def ofEntries? (entries : List (String × Toml.Value)) : Option RuleFile := do
  let texts? := Toml.Value.items? Toml.Value.text?
  let syllables ← Toml.optional? texts? [] "syllables" entries
  let strictIpa ← Toml.optional? Toml.Value.boolean? false "strict_ipa" entries
  let classes ← Toml.optional? (Toml.Value.dictionary? texts?) .empty "classes" entries
  let weights ← Toml.optional? (Toml.Value.dictionary? Toml.Value.real?) .empty "weights" entries
  let ipa ← Toml.optional? (Toml.Value.dictionary? Toml.Value.text?) .empty "ipa" entries
  let rules ← Toml.optional? (Toml.Value.items? RuleEntry.ofValue?) [] "rules" entries
  return ⟨syllables, strictIpa, classes, weights, ipa, rules⟩

def ofText (text : String) : Except Toml.Fault RuleFile :=
  Toml.read ofEntries? text

end RuleFile

end SoundChange
