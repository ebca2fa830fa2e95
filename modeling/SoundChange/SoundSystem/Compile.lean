import SoundChange.RuleFile
import SoundChange.SoundSystem

/-!
From a rule file to a sound system. The classes are looked at first, then the syllables in their
order, then the spellings, then the rules in their order; the first fault found is reported. A
syllable is one or more class letters, each followed by any number of question marks, which make
its slot optional.
-/
namespace SoundChange

/-- Why a rule file makes no sound system. -/
inductive CompileFault where
  | document (fault : Toml.Fault)
  | className (name : String)
  | emptyClass (name : String)
  | leadingMark (syllable : String)
  | undefinedClass (syllable : String) (letterClass : Char)
  | emptySyllable
  | emptySpelling
  | pattern (rule : String)
  deriving DecidableEq, Repr

def CompileFault.message : CompileFault → String
  | document fault => fault.message
  | className name => "Class name '" ++ name ++ "' must be a single uppercase letter"
  | emptyClass name => "Class " ++ name ++ " has no letters"
  | leadingMark syllable => "Syllable '" ++ syllable ++ "' starts with '?'"
  | undefinedClass syllable letterClass =>
    "Syllable '" ++ syllable ++ "' uses undefined class '" ++ letterClass.toString ++ "'"
  | emptySyllable => "Empty syllable pattern"
  | emptySpelling => "IPA table has an empty spelling"
  | pattern rule =>
    "Rule '" ++ rule ++ "': regex parse error: the pattern is malformed or too large"

/-- Whether a text does not come after another one, in the order of code points. -/
def precedes : List Char → List Char → Bool
  | [], _ => true
  | _ :: _, [] => false
  | a :: text, b :: other => if a = b then precedes text other else a.toNat < b.toNat

/-- Whether one spelling is tried before another: longer ones first, then in the order of texts. -/
def Spelling.before (a b : Spelling) : Bool :=
  b.letters.length < a.letters.length ||
    (a.letters.length == b.letters.length && precedes a.letters b.letters)

namespace SoundSystem

/-- `gusein_zade`: the weight of the letter at a position when the file gives none. Weights fall off
with the logarithm of the position. -/
def rankWeight (position size : Nat) : Float :=
  (Float.log (Float.ofNat (size + 1)) - Float.log (Float.ofNat (position + 1))) / Float.ofNat size

/-- `weigh`: the letters of a class, weighted as the file says, or else by their ranks. -/
def lettersOf (weights : Dictionary Float) (texts : List String) : List Letter :=
  texts.zipIdx.map fun (text, position) =>
    ⟨text, (weights.find? text).getD (rankWeight position texts.length)⟩

/-- `class_letter`: the letter that names a class, one uppercase character. -/
def classLetter? (name : String) : Option Char :=
  match name.toList with
  | [c] => if Unicode.Property.isUppercase c then some c else none
  | _ => none

def compileClass (weights : Dictionary Float) (entry : String × List String) :
    Except CompileFault (Char × List Letter) :=
  match classLetter? entry.1 with
  | none => .error (.className entry.1)
  | some letter =>
    if entry.2.isEmpty then .error (.emptyClass entry.1)
    else .ok (letter, lettersOf weights entry.2)

/-- The slots of a syllable whose first slots are given, the latest one first. -/
def slotsFrom (defined : Char → Bool) (syllable : String) :
    List Slot → List Char → Except CompileFault (List Slot)
  | [], [] => .error .emptySyllable
  | slots, [] => .ok slots.reverse
  | slots, c :: rest =>
    if c = '?' then
      match slots with
      | [] => .error (.leadingMark syllable)
      | slot :: earlier =>
        slotsFrom defined syllable ({ slot with optional := true } :: earlier) rest
    else if defined c then slotsFrom defined syllable (⟨c, false⟩ :: slots) rest
    else .error (.undefinedClass syllable c)

/-- `compile_syllable`: the slots of a syllable over some classes. -/
def compileSyllable (classes : List (Char × List Letter)) (syllable : String) :
    Except CompileFault (List Slot) :=
  slotsFrom (fun c => classes.any (·.1 == c)) syllable [] syllable.toList

def compileSpellings (ipa : List (String × String)) : Except CompileFault (List Spelling) :=
  if ipa.any fun entry => entry.1.isEmpty then .error .emptySpelling
  else
    .ok ((ipa.map fun entry => ⟨entry.1.toList, entry.2⟩).mergeSort Spelling.before)

def compileRule (entry : RuleEntry) : Except CompileFault Rule :=
  match Pattern.Substitution.ofTexts? entry.pattern entry.replacement with
  | some substitution => .ok ⟨entry.name, substitution⟩
  | none => .error (.pattern entry.name)

/-- `compile`: the system of a rule file, with the draws that its words will be made from. -/
def ofFile (file : RuleFile) (draws : Random.Draws) : Except CompileFault SoundSystem := do
  let classes ← file.classes.entries.mapM (compileClass file.weights)
  let syllables ← file.syllables.mapM (compileSyllable classes)
  let spellings ← compileSpellings file.ipa.entries
  let rules ← file.rules.mapM compileRule
  return ⟨classes, syllables, spellings, file.strictIpa, rules, draws, false⟩

/-- The system of the text of a rule file. -/
def ofText (source : String) (draws : Random.Draws) : Except CompileFault SoundSystem :=
  match RuleFile.ofText source with
  | .error fault => .error (.document fault)
  | .ok file => ofFile file draws

end SoundSystem

end SoundChange
