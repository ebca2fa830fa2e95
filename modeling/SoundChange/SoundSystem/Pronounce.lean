import SoundChange.SoundSystem

/-!
Pronouncing words. A word is cut into segments from left to right: where spellings match, the first
one of the list is taken, which is the longest; where none does, one character is. A character
without a spelling stands for itself, unless the system is strict.
-/
namespace SoundChange

/-- A segment of a word. -/
inductive Segment where
  | spelled (spelling : Spelling)
  | plain (c : Char)
  deriving DecidableEq, Repr

namespace Segment

def sound : Segment → String
  | spelled spelling => spelling.sound
  | plain c => c.toString

/-- The character of a segment that no spelling pronounces. -/
def unspelled? : Segment → Option Char
  | spelled _ => none
  | plain c => some c

end Segment

/-- The segments of a word. -/
def segments (spellings : List Spelling) : List Char → List Segment
  | [] => []
  | c :: rest =>
    match spellings.find? fun spelling => spelling.letters.isPrefixOf (c :: rest) with
    | some spelling =>
      .spelled spelling :: segments spellings (rest.drop (spelling.letters.length - 1))
    | none => .plain c :: segments spellings rest
termination_by word => word.length
decreasing_by all_goals simp only [List.length_drop, List.length_cons]; omega

/-- A character that a strict system cannot pronounce, and the word it is in. -/
structure TranscriptionFault where
  character : Char
  word : Word
  deriving DecidableEq, Repr

def TranscriptionFault.message (fault : TranscriptionFault) : String :=
  "No IPA for '" ++ fault.character.toString ++ "' in '" ++ fault.word ++ "'"

/-- The sounds of a word, one after the other. -/
def pronounce (spellings : List Spelling) (strict : Bool) (word : Word) :
    Except TranscriptionFault String :=
  let parts := segments spellings word.toList
  match if strict then parts.findSome? Segment.unspelled? else none with
  | some c => .error ⟨c, word⟩
  | none => .ok (String.join (parts.map Segment.sound))

/-- `to_ipa`: the sounds of a word; a system that was released still knows them. -/
def SoundSystem.pronounce (system : SoundSystem) (word : Word) :
    Except TranscriptionFault String :=
  SoundChange.pronounce system.spellings system.strict word

end SoundChange
