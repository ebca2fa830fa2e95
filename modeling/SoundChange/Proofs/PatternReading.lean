import SoundChange.Proofs.WellFormedSystems

/-! Reading syllable patterns. Over the classes of a rule file, exactly those texts are patterns that
consist of class letters with any number of marks behind each, and their slots are told letter by
letter. Every other text is reported for the first of its characters that cannot be read. -/
namespace SoundChange.PatternReading
open Sequencing SyllablePatterns WellFormedSystems

/-- What is reported of a text that is no pattern over classes with these names. Before a character
that is named, there is nothing but class letters and their marks. -/
inductive Offends (names : List Char) (pattern : String) : EngineFault → Prop
  | nothing (text : pattern.toList = []) : Offends names pattern (.parse "Empty syllable pattern")
  | leadingMark {rest : List Char} (text : pattern.toList = '?' :: rest) :
      Offends names pattern (.parse ("Syllable '" ++ pattern ++ "' starts with '?'"))
  | undefined {letters : List (Char × Nat)} {c : Char} {rest : List Char}
      (known : ∀ letter ∈ letters, letter.1 ∈ names) (other : c ≠ '?') (unknown : c ∉ names)
      (text : pattern.toList = spelled letters ++ c :: rest) :
      Offends names pattern
        (.parse ("Syllable '" ++ pattern ++ "' uses undefined class '" ++ c.toString ++ "'"))

variable {weights : Dictionary Float} {entries : List (String × List String)}
  {classes : List (Char × List Letter)}

/-- The mark names no class, since it is not uppercase. -/
theorem mark_notMem_names (accepted : entries.mapM (SoundSystem.compileClass weights) = .ok classes) :
    '?' ∉ classes.map Prod.fst := by
  intro named
  obtain ⟨⟨_, letters⟩, listed, rfl⟩ := List.mem_map.mp named
  obtain ⟨entry, -, made⟩ := exists_value_of_image (mapM_ok_iff.mp accepted) listed
  have above : 0x41 ≤ '?'.toNat := CodeSets.le_of_isUppercase (compileClass_ok_iff.mp made).2.1
  exact absurd above (by decide)

/-- A text is accepted as a pattern exactly if it is made of one or more letters of classes, each with
any number of marks behind it; its slots are those of the letters, in order, and a slot is optional
exactly if its letter has a mark. All other texts are refused with a fault of the parser: an empty text
as such, a mark that has no letter before it as such, and any other character that is no letter of a
class by its name, whichever of these comes first. -/
theorem pattern_texts_read_exactly
    (accepted : entries.mapM (SoundSystem.compileClass weights) = .ok classes) (pattern : String) :
    let names := classes.map Prod.fst
    let outcome := (SoundSystem.compileSyllable classes pattern).mapError
      fun fault => EngineFault.parse fault.message
    (∀ slots, outcome = .ok slots ↔
      ∃ letters : List (Char × Nat), letters ≠ [] ∧ (∀ letter ∈ letters, letter.1 ∈ names) ∧
        pattern.toList = spelled letters ∧
        slots = letters.map fun letter => ⟨letter.1, decide (0 < letter.2)⟩) ∧
    ∀ fault, outcome = .error fault ↔ Offends names pattern fault := by
  intro names outcome
  have mark : '?' ∉ names := mark_notMem_names accepted
  have readable {letters : List (Char × Nat)} (known : ∀ letter ∈ letters, letter.1 ∈ names) :
      ∀ letter ∈ letters, letter.1 ≠ '?' ∧ letter.1 ∈ names := fun letter member =>
    ⟨fun same => mark (same ▸ known letter member), known letter member⟩
  constructor
  · intro slots
    rw [mapError_ok_iff, compileSyllable_eq_iff]
    constructor
    · rintro (⟨some_, known, text⟩)
      exact ⟨_, some_, fun letter member => (known letter member).2, text, rfl⟩
    · rintro ⟨letters, some_, known, text, rfl⟩
      exact .slots some_ (readable known) text
  · intro fault
    rw [mapError_error_iff]
    constructor
    · rintro ⟨found, failed, rfl⟩
      cases compileSyllable_eq_iff.mp failed with
      | nothing text => exact .nothing text
      | leadingMark text => exact .leadingMark text
      | undefined known other unknown text =>
        exact .undefined (fun letter member => (known letter member).2) other unknown text
    · intro offends
      cases offends with
      | nothing text => exact ⟨_, compileSyllable_of_reads (.nothing text), rfl⟩
      | leadingMark text => exact ⟨_, compileSyllable_of_reads (.leadingMark text), rfl⟩
      | undefined known other unknown text =>
        exact ⟨_, compileSyllable_of_reads (.undefined (readable known) other unknown text), rfl⟩

/-- Two marks behind a letter, and a character that is no letter of the small file. -/
theorem marked_and_undefined_letters_read :
    RuleFiles.voicedFile.classes.entries.mapM
        (SoundSystem.compileClass RuleFiles.voicedFile.weights) = .ok RuleFiles.voicedClasses ∧
      (SoundSystem.compileSyllable RuleFiles.voicedClasses "CV??").mapError
          (fun fault => EngineFault.parse fault.message) = .ok [⟨'C', false⟩, ⟨'V', true⟩] ∧
      (SoundSystem.compileSyllable RuleFiles.voicedClasses "C?ÉX").mapError
          (fun fault => EngineFault.parse fault.message) =
        .error (.parse "Syllable 'C?ÉX' uses undefined class 'É'") := by
  obtain ⟨rule, compiled⟩ := RuleFiles.voicedFile_compiled
  have accepted : RuleFiles.voicedFile.classes.entries.mapM
      (SoundSystem.compileClass RuleFiles.voicedFile.weights) = .ok RuleFiles.voicedClasses :=
    (RuleFiles.ofFile_ok_iff.mp (compiled (.ofList []))).classes
  have names : RuleFiles.voicedClasses.map Prod.fst = ['C', 'V'] := rfl
  refine ⟨accepted, ?_, ?_⟩
  · refine ((pattern_texts_read_exactly accepted "CV??").1 _).mpr
      ⟨[('C', 0), ('V', 2)], by simp, ?_, by decide, by decide⟩
    rw [names]
    simp
  · have text : "C?ÉX".toList = spelled [('C', 1)] ++ 'É' :: ['X'] := by decide
    refine ((pattern_texts_read_exactly accepted "C?ÉX").2 _).mpr
      (.undefined ?_ (by decide) ?_ text) <;> rw [names] <;> simp

end SoundChange.PatternReading
