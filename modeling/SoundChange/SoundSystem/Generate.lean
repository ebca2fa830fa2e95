import Std.Data.HashSet
import SoundChange.Random.Choice
import SoundChange.Repartition
import SoundChange.SoundSystem
import SoundChange.Trace

/-!
Inventing words. A word is one syllable or, as often as the repartition leaves room for it, two to
five. Each syllable follows one of the patterns of the system, earlier patterns being more likely,
and each slot takes a letter of its class by weight. Words that are empty or came before are
dropped. The draws that were made stay made, also when the generation fails, and every draw is noted
down with the words that it takes its own from.
-/
namespace SoundChange

/-- Why no words could be generated. -/
inductive GenerationFault where
  | released
  | noSyllables
  | unknownClass (letterClass : Char)
  | weights (letterClass : Char) (fault : Random.WeightFault)
  | onlyEmptyWords
  /-- The draws came to an end before the words did. -/
  | exhausted
  /-- An index led outside of its list. -/
  | outOfRange
  deriving DecidableEq, Repr

/-- The message of a fault; the program stops at those that have none. -/
def GenerationFault.message : GenerationFault → Option String
  | released => some "Sound system was already released"
  | noSyllables => some "No syllable patterns defined"
  | unknownClass letterClass => some ("Unknown class " ++ letterClass.toString)
  | weights letterClass fault =>
    fault.message.map fun reason => "Class " ++ letterClass.toString ++ ": " ++ reason
  | onlyEmptyWords => some "Every generated word was empty"
  | exhausted => none
  | outOfRange => none

/-- What is counted. -/
inductive Purpose where
  /-- The place of the pattern that a syllable follows. -/
  | pattern
  /-- The syllables of a word beyond the second one. -/
  | extra
  deriving DecidableEq, Repr

/-- The kinds of draws. A count goes around the numbers below `max`, up to a draw below the
percentage. -/
inductive DrawKind where
  | coin
  | fraction
  | pair
  | count (purpose : Purpose) (max : Nat) (percentage : Float32)

/-- A draw that is made, from the words still to come. -/
structure Draw where
  kind : DrawKind
  draws : Random.Draws

/-- A computation that makes draws, which are noted down, and may fail. -/
abbrev Drawing : Type → Type := Traced Draw Random.Draws GenerationFault

namespace Drawing

/-- A single draw. -/
def ofDraw {α : Type} (kind : DrawKind) (draw : Random.Draws → Option (α × Random.Draws)) :
    Drawing α :=
  fun draws =>
    match draw draws with
    | some (a, rest) => ⟨.ok a, rest, [⟨kind, draws⟩]⟩
    | none => ⟨.error .exhausted, draws, [⟨kind, draws⟩]⟩

def coin : Drawing Bool :=
  ofDraw .coin fun draws => draws.next?.map fun (word, rest) => (Random.coin word, rest)

def fraction : Drawing Nat :=
  ofDraw .fraction fun draws => draws.next?.map fun (word, rest) => (Random.fraction word, rest)

def pair : Drawing UInt64 := ofDraw .pair Random.Draws.nextPair?

def powerLaw (purpose : Purpose) (max : Nat) (percentage : Float32) : Drawing Nat :=
  ofDraw (.count purpose max percentage) (Random.powerLaw max (Random.threshold percentage))

end Drawing

namespace SoundSystem

/-- `syllable_drop`: the share of draws with which a choice between syllables stops at the current
one. -/
def syllableDrop (count : Nat) : Float32 :=
  if count < 9 then 0.6 - Number.singleOfNat count * 0.05 else 0.12

/-- One letter of some weighted letters; the class is named in faults. -/
def drawLetter (letterClass : Char) (letters : List Letter) : Drawing String :=
  match Random.Weights.ofList (letters.map Letter.weight) with
  | .error fault => Traced.fail (.weights letterClass fault)
  | .ok weights => do
    let draw ← Drawing.pair
    match letters[weights.index draw]? with
    | some letter => return letter.text
    | none => Traced.fail .outOfRange

/-- What fills a slot; an optional slot stays empty half of the time. -/
def drawSlot (classes : List (Char × List Letter)) (slot : Slot) : Drawing String := do
  let filled ← if slot.optional then Drawing.coin else pure true
  if filled then
    match classes.find? (·.1 == slot.letterClass) with
    | some (_, letters) => drawLetter slot.letterClass letters
    | none => Traced.fail (.unknownClass slot.letterClass)
  else return ""

def drawSlots (classes : List (Char × List Letter)) : List Slot → Drawing String
  | [] => return ""
  | slot :: slots => do
    let first ← drawSlot classes slot
    let others ← drawSlots classes slots
    return first ++ others

/-- `syllable`: one syllable, of a pattern that is chosen by its place. -/
def drawSyllable (classes : List (Char × List Letter)) (syllables : List (List Slot)) :
    Drawing String := do
  let index ← Drawing.powerLaw .pattern syllables.length (syllableDrop syllables.length)
  match syllables[index]? with
  | some slots => drawSlots classes slots
  | none => Traced.fail .outOfRange

/-- The largest number of syllables beyond the second one is one less than this. -/
def extraSyllables : Nat := 4

/-- The number of syllables of a word. A draw below the share makes a monosyllable. -/
def drawSyllableCount (share : Float32) : Drawing Nat := do
  let low := Random.threshold share
  if low < Random.fractions then
    let fraction ← Drawing.fraction
    if low ≤ fraction then
      let extra ← Drawing.powerLaw .extra extraSyllables 0.5
      return 2 + extra
    else return 1
  else return 1

/-- A number of syllables in a row. -/
def drawSyllables (classes : List (Char × List Letter)) (syllables : List (List Slot)) :
    Nat → Drawing String
  | 0 => return ""
  | count + 1 => do
    let first ← drawSyllable classes syllables
    let others ← drawSyllables classes syllables count
    return first ++ others

def drawWord (classes : List (Char × List Letter)) (syllables : List (List Slot))
    (share : Float32) : Drawing Word := do
  let count ← drawSyllableCount share
  drawSyllables classes syllables count

def drawWords (classes : List (Char × List Letter)) (syllables : List (List Slot))
    (share : Float32) : Nat → Drawing (List Word)
  | 0 => return []
  | count + 1 => do
    let first ← drawWord classes syllables share
    let others ← drawWords classes syllables share count
    return first :: others

/-- The words of a list that are not empty and not among those seen before. -/
def distinctFrom (seen : Std.HashSet Word) : List Word → List Word
  | [] => []
  | word :: words =>
    if word.isEmpty || seen.contains word then distinctFrom seen words
    else word :: distinctFrom (seen.insert word) words

/-- The words of a list without empty ones, each where it first occurs. -/
def distinct (words : List Word) : List Word :=
  distinctFrom ∅ words

/-- Up to `count` words, by way of the draws that are made for them. -/
def invent (system : SoundSystem) (count : Nat) (repartition : Repartition) :
    Drawing (List Word) := do
  if system.released then Traced.fail .released
  else if system.syllables.isEmpty then Traced.fail .noSyllables
  else
    let drawn ← drawWords system.classes system.syllables repartition.share count
    let words := distinct drawn
    if words.isEmpty then Traced.fail .onlyEmptyWords else return words

/-- `generate_words`: up to `count` words, and the system after its draws. -/
def generate (system : SoundSystem) (count : Nat) (repartition : Repartition) :
    Except GenerationFault (List Word) × SoundSystem :=
  let made := system.invent count repartition system.draws
  (made.answer, { system with draws := made.state })

end SoundSystem

end SoundChange
