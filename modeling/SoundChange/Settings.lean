import SoundChange.Host
import SoundChange.Repartition
import SoundChange.Toml.Shape

/-!
Settings. A settings file may give defaults for the form and the size of the window; what it does
not give keeps its built-in value, whatever else it gives, and a missing file gives nothing. The
label of the repartition must be one of the six labels, or empty, which picks none.
-/
namespace SoundChange

structure Settings where
  wordCount : Nat
  /-- The label of the repartition that is picked at first. -/
  repartition : Option String
  rulesFile : Option String
  width : Float32
  height : Float32

/-- Why settings could not be loaded. -/
inductive SettingsFault where
  | read (path : String) (fault : IoFault)
  | parse (path : String) (fault : Toml.Fault)
  | unknownRepartition (path label : String)
  deriving DecidableEq, Repr

def SettingsFault.message : SettingsFault → String
  | read path fault => "Failed to read " ++ path ++ ": " ++ fault.message
  | parse path fault => "Failed to parse " ++ path ++ ": " ++ fault.message
  | unknownRepartition path label => "Unknown repartition '" ++ label ++ "' in " ++ path

namespace Settings

/-- The built-in settings. -/
def builtIn : Settings :=
  ⟨10, some Repartition.lessFrequent.label, none, 1400, 860⟩

/-- The file that holds the settings unless another one is named. -/
def usualFile : String := "config.toml"

/-- `default_policy`: the repartition that is picked at first. -/
def chosenRepartition (settings : Settings) : Option Repartition :=
  settings.repartition.bind Repartition.ofLabel?

def defaultFields : List String := ["word_count", "repartition", "rules_file"]

def windowFields : List String := ["width", "height"]

/-- The fields of a part of the settings; a part that is left out has none. -/
def part? (names : List String) (key : String) (entries : List (String × Toml.Value)) :
    Option (List (String × Toml.Value)) :=
  Toml.optional? (Toml.Value.fields? names) [] key entries

/-- The settings that the entries of a document give. -/
def ofEntries? (entries : List (String × Toml.Value)) : Option Settings := do
  let given ← part? defaultFields "defaults" entries
  let wordCount ← Toml.optional? Toml.Value.natural? builtIn.wordCount "word_count" given
  let someText? (v : Toml.Value) : Option (Option String) := v.text?.map some
  let repartition ← Toml.optional? someText? builtIn.repartition "repartition" given
  let rulesFile ← Toml.optional? someText? builtIn.rulesFile "rules_file" given
  let window ← part? windowFields "window" entries
  let width ← Toml.optional? Toml.Value.single? builtIn.width "width" window
  let height ← Toml.optional? Toml.Value.single? builtIn.height "height" window
  return ⟨wordCount, repartition, rulesFile, width, height⟩

/-- The label of the settings, if it is neither empty nor a known one. -/
def unknownLabel? (settings : Settings) : Option String :=
  settings.repartition.filter fun label =>
    !label.isEmpty && (Repartition.ofLabel? label).isNone

/-- `parse_config`: the settings of a text; faults name the file that it came from. -/
def ofText (path text : String) : Except SettingsFault Settings :=
  match Toml.read ofEntries? text with
  | .error fault => .error (.parse path fault)
  | .ok settings =>
    match settings.unknownLabel? with
    | some label => .error (.unknownRepartition path label)
    | none => .ok settings

/-- `load_config_from_file`: the settings in a file; a missing file gives the built-in ones. -/
def load {m : Type → Type} [Monad m] (host : Host m) (path : String) :
    m (Except SettingsFault Settings) := do
  match ← host.readText path with
  | .error .notFound => return .ok builtIn
  | .error fault => return .error (.read path fault)
  | .ok text => return ofText path text

end Settings

end SoundChange
