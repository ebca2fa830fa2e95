import SoundChange.Proofs.DrawnWords

/-! What systems report. A system that was made from a rule file and is still well-formed can only
fail to invent words because it was released, has no syllables, drew nothing but empty words, or uses
a class whose weights are refused. All of that is reported in words. The one thing that is not
reported is a class whose weights are all in order but add up to no finite number: drawing from it
breaks the engine down, and stops the program. -/
namespace SoundChange.EngineReports
open Drawings DrawnWords Footprints Operations RuleFiles WellFormedSystems

/-- Why a system invents no words, given the draws that are left. -/
def Explained (system : SoundSystem) : GenerationFault → Random.Draws → Prop
  | .released, _ => system.released = true
  | .noSyllables, _ => system.released = false ∧ system.syllables = []
  | .onlyEmptyWords, _ => system.released = false ∧ system.syllables ≠ []
  | fault, left => Refused system.classes system.syllables.flatten fault left

section Generations
variable {file : RuleFile} {draws : Random.Draws} {system : SoundSystem} {count : Nat}
  {repartition : Repartition}

theorem explained_of_refused {fault : GenerationFault} {left : Random.Draws}
    (refused : Refused system.classes system.syllables.flatten fault left) :
    Explained system fault left := by
  cases fault with
  | weights letterClass fault => exact refused
  | exhausted => exact refused
  | _ => exact refused.elim

/-- No class is unknown, no class is without letters, and no index leads outside of its list. -/
theorem explained_of_generate (ready : WellFormed system) {fault : GenerationFault}
    (failed : (system.generate count repartition).1 = .error fault) :
    Explained system fault (system.generate count repartition).2.draws := by
  rw [SoundSystem.generate] at failed ⊢
  cases live : system.released with
  | true =>
    rw [invent_of_released live] at failed
    cases failed
    exact live
  | false =>
    by_cases inhabited : system.syllables = []
    · rw [invent_of_bare live inhabited] at failed
      cases failed
      exact ⟨live, inhabited⟩
    · rw [invent_of_live live inhabited, drawing] at failed ⊢
      have ended :=
        ends_drawWords ready.lettered ready.defined inhabited repartition count system.draws
      cases drawn : (SoundSystem.drawWords system.classes system.syllables repartition.share count
          system.draws).answer with
      | error fault' =>
        rw [drawn] at ended failed
        cases failed
        exact explained_of_refused ended
      | ok words =>
        rw [drawn] at failed
        cases fault_of_kept failed
        exact ⟨live, inhabited⟩

/-- A system that was made from a rule file stays well-formed whatever is done to it. Its spellings
are those of the file, the longest first; its rules are those of the file in their order, or none
after the release; and when it invents no words, it was released, has no syllables, drew only empty
words, uses a class whose weights are refused, or the draws did not suffice. -/
theorem compiled_systems_stay_well_formed {fresh : SoundSystem}
    (compiled : SoundSystem.ofFile file draws = .ok fresh) (operations : List Operation) :
    let system := stateAfter draws fresh operations
    WellFormed system ∧
      system.spellings.Perm (file.ipa.entries.map fun entry => ⟨entry.1.toList, entry.2⟩) ∧
      (.release ∉ operations → List.Forall₂
        (fun entry rule => SoundSystem.compileRule entry = .ok rule) file.rules system.rules) ∧
      (.release ∈ operations → system.rules = []) ∧
      ∀ count repartition fault, (system.generate count repartition).1 = .error fault →
        Explained system fault (system.generate count repartition).2.draws := by
  have parts := ofFile_ok_iff.mp compiled
  have ready : WellFormed (stateAfter draws fresh operations) :=
    (wellFormed_of_compiled parts).stateAfter operations
  have rules := rules_stateAfter draws fresh operations
  refine ⟨ready, ?_, ?_, ?_, fun _ _ _ => explained_of_generate ready⟩
  · rw [(stateAfter_keeps draws fresh operations).2]
    exact (spellings_of_compiled file.ipa.distinct parts.spellings).1
  · intro live
    rw [rules, if_neg live]
    exact (ofFile_ok compiled).1
  · intro released
    rw [rules, if_pos released]

/-- The small file, after its rule was run and it was released. -/
theorem released_system_stays_well_formed :
    ∃ fresh, SoundSystem.ofFile voicedFile lowDraws = .ok fresh ∧
      WellFormed (stateAfter lowDraws fresh [.apply ["ta"], .release]) ∧
      (stateAfter lowDraws fresh [.apply ["ta"], .release]).rules = [] ∧
      Explained (stateAfter lowDraws fresh [.apply ["ta"], .release]) .released lowDraws := by
  obtain ⟨rule, compiled⟩ := voicedFile_compiled
  obtain ⟨ready, -, -, rules, faults⟩ :=
    compiled_systems_stay_well_formed (compiled lowDraws) [.apply ["ta"], .release]
  exact ⟨_, compiled lowDraws, ready, rules (by decide), faults 1 .always .released rfl⟩

/-- What a system reports when it invents no words. -/
def Reported (system : SoundSystem) (report : String) : Prop :=
  system.released = true ∧ report = "Sound system was already released" ∨
  system.syllables = [] ∧ report = "No syllable patterns defined" ∨
  report = "Every generated word was empty" ∨
  ∃ slot ∈ system.syllables.flatten, ∃ letters fault reason,
    (slot.letterClass, letters) ∈ system.classes ∧
      Random.Weights.ofList (letters.map Letter.weight) = .error fault ∧
      fault.message = some reason ∧
      report = "Class " ++ slot.letterClass.toString ++ ": " ++ reason

/-- A class of a rule file that some pattern uses, and whose weights have no finite sum. -/
def Overflows (file : RuleFile) (system : SoundSystem) : Prop :=
  ∃ slot ∈ system.syllables.flatten, ∃ letters,
    file.classes.find? (String.singleton slot.letterClass) = some letters ∧
      Unbounded ((SoundSystem.lettersOf file.weights letters).map Letter.weight)

theorem engineFault_of_explained (compiled : Compiled file draws system) {after : SoundSystem}
    (same : after.classes = system.classes) {fault : GenerationFault} {left : Random.Draws}
    (explained : Explained after fault left) :
    (∃ report, fault.asEngineFault = .generation report ∧ Reported after report) ∨
      fault.asEngineFault = .stopped .breakdown ∧ Overflows file after ∨
      fault.asEngineFault = .stopped .exhausted ∧ Dry left := by
  cases fault with
  | released => exact .inl ⟨_, rfl, .inl ⟨explained, rfl⟩⟩
  | noSyllables => exact .inl ⟨_, rfl, .inr (.inl ⟨explained.2, rfl⟩)⟩
  | onlyEmptyWords => exact .inl ⟨_, rfl, .inr (.inr (.inl rfl))⟩
  | exhausted => exact .inr (.inr ⟨rfl, explained⟩)
  | unknownClass letterClass => exact explained.elim
  | outOfRange => exact explained.elim
  | weights letterClass fault =>
    obtain ⟨slot, used, rfl, letters, listed, -, refused⟩ := explained
    cases fault with
    | unbounded =>
      rw [same] at listed
      obtain ⟨texts, found, -, rfl⟩ := class_of_compiled compiled listed
      exact .inr (.inl ⟨rfl, slot, used, texts, found, ofList_eq_unbounded_iff.mp refused⟩)
    | invalid | allZero =>
      exact .inl ⟨_, rfl, .inr (.inr (.inr ⟨slot, used, letters, _, _, listed, refused, rfl, rfl⟩))⟩

/-- Of a system that was made from a rule file, whatever is done to it, everything that fails is
reported, but for two ends of a generation, at which the program stops. It breaks down only if some
class that it uses has weights in order one by one that have no finite sum, and it has no end only if
the draws have one before. Other weights that are refused are reported with the class, and no letter is
ever drawn from such a class. -/
theorem only_overflowing_weights_break_down {source : String} {fresh : SoundSystem}
    (accepted : (SoundSystem.engine draws).parse source = .ok fresh)
    (read : RuleFile.ofText source = .ok file) (operations : List Operation) :
    let engine := SoundSystem.engine draws
    let system := stateAfter draws fresh operations
    (∀ words fault, (engine.apply words system).1 = .error fault →
      ∃ report, fault = .transformation report) ∧
    (∀ word fault, (engine.transcribe word system).1 = .error fault →
      ∃ report, fault = .transcription report) ∧
    ∀ count repartition,
      (∀ words, (engine.generate count repartition system).1 = .ok words → ∀ word ∈ words,
        MadeOf (Follows system.classes system.syllables) repartition word) ∧
      ∀ fault, (engine.generate count repartition system).1 = .error fault →
        (∃ report, fault = .generation report ∧ Reported system report) ∨
          fault = .stopped .breakdown ∧ Overflows file system ∨
          fault = .stopped .exhausted ∧ Dry (engine.generate count repartition system).2.draws := by
  obtain ⟨file', read', compiled⟩ := parse_ok accepted
  cases read.symm.trans read'
  have parts := ofFile_ok_iff.mp compiled
  have ready : WellFormed (stateAfter draws fresh operations) :=
    (wellFormed_of_compiled parts).stateAfter operations
  have classes := (stateAfter_keeps draws fresh operations).1
  intro engine system
  refine ⟨?_, ?_, fun count repartition => ⟨?_, ?_⟩⟩
  · intro words fault failed
    obtain ⟨_, -, rfl⟩ := Sequencing.mapError_error_iff.mp failed
    exact ⟨_, rfl⟩
  · intro word fault failed
    obtain ⟨_, -, rfl⟩ := Sequencing.mapError_error_iff.mp failed
    exact ⟨_, rfl⟩
  · intro words answered
    have answered := Sequencing.mapError_ok_iff.mp answered
    exact (of_generate_ok ready answered).2.2.2.2
  · intro fault failed
    obtain ⟨cause, stopped, rfl⟩ := Sequencing.mapError_error_iff.mp failed
    exact engineFault_of_explained parts classes (explained_of_generate ready stopped)

end Generations

/-! A weight without bounds. -/

/-- A pattern over a class of one letter, whose weight is infinite. -/
def infiniteText : String :=
  "syllables = [\"V\"]\n[classes]\nV = [\"a\"]\n[weights]\na = inf\n"

def infiniteFile : RuleFile where
  syllables := ["V"]
  strictIpa := false
  classes := .ofList [("V", ["a"])]
  weights := .ofList [("a", Float.ofBits 0x7FF0000000000000)]
  ipa := .empty
  rules := []

theorem ofText_infiniteText : RuleFile.ofText infiniteText = .ok infiniteFile := by
  decide +kernel

def infiniteClasses : List (Char × List Letter) :=
  [('V', SoundSystem.lettersOf infiniteFile.weights ["a"])]

def infiniteSystem (draws : Random.Draws) : SoundSystem where
  classes := infiniteClasses
  syllables := [[⟨'V', false⟩]]
  spellings := []
  strict := false
  rules := []
  draws := draws
  released := false

theorem parse_infiniteText (draws : Random.Draws) :
    (SoundSystem.engine draws).parse infiniteText = .ok (infiniteSystem draws) := by
  refine parse_of_file ofText_infiniteText (ofFile_ok_iff.mpr ?_)
  have vowels : SoundSystem.compileClass infiniteFile.weights ("V", ["a"]) = .ok _ :=
    compileClass_of_basic infiniteFile.weights (c := 'V') (by decide) (by decide)
      (List.cons_ne_nil _ _)
  have entries : infiniteFile.classes.entries = [("V", ["a"])] := by decide
  have classes : infiniteFile.classes.entries.mapM
      (SoundSystem.compileClass infiniteFile.weights) = .ok infiniteClasses := by
    rw [entries, Sequencing.mapM_ok_iff]
    exact .cons vowels .nil
  exact ⟨classes, rfl, compileSpellings_nil, rfl, rfl, rfl, rfl⟩

/-- The first word of this seed is low enough for the only pattern. -/
theorem next?_ofSeed : ∃ word left, (Random.Draws.ofSeed 2).next? = some (word, left) ∧
    Random.fraction word < Random.threshold (SoundSystem.syllableDrop 1) := by
  have low : ((Random.keyBlock (Random.keyOfSeed 2) 0).head?.any fun word =>
      decide (Random.fraction word < Random.threshold (SoundSystem.syllableDrop 1))) = true := by
    decide +kernel
  cases block : Random.keyBlock (Random.keyOfSeed 2) 0 with
  | nil => rw [block] at low; cases low
  | cons word words =>
    rw [block] at low
    exact ⟨word, _, next?_of_block rfl (by decide) block, by simpa using low⟩

theorem generate_infiniteSystem {draws left : Random.Draws} {word : UInt32}
    (drawn : draws.next? = some (word, left))
    (low : Random.fraction word < Random.threshold (SoundSystem.syllableDrop 1)) :
    ((infiniteSystem draws).generate 1 .always).1 = .error (.weights 'V' .unbounded) := by
  have refused : Random.Weights.ofList
      ((SoundSystem.lettersOf infiniteFile.weights ["a"]).map Letter.weight) =
        .error .unbounded :=
    ofList_eq_unbounded_iff.mpr ⟨by decide +kernel, by decide +kernel⟩
  have letter : SoundSystem.drawLetter 'V' (SoundSystem.lettersOf infiniteFile.weights ["a"]) =
      Traced.fail (.weights 'V' .unbounded) := by
    rw [SoundSystem.drawLetter, refused]
  have slot : SoundSystem.drawSlot infiniteClasses ⟨'V', false⟩ =
      Traced.fail (.weights 'V' .unbounded) := letter
  have chosen : (Drawing.powerLaw .pattern 1 (SoundSystem.syllableDrop 1) draws).answer = .ok 0 := by
    rw [Drawing.powerLaw, Drawing.ofDraw, powerLaw_of_low drawn low]
  have syllable : (SoundSystem.drawSyllable infiniteClasses [[⟨'V', false⟩]] draws).answer =
      .error (.weights 'V' .unbounded) := by
    simp only [SoundSystem.drawSyllable, List.length_singleton]
    rw [Sequencing.run_bind_ok chosen]
    simp only [List.getElem?_cons_zero, SoundSystem.drawSlots, slot]
    rfl
  have whole : (SoundSystem.drawWord infiniteClasses [[⟨'V', false⟩]] Repartition.always.share
      draws).answer = .error (.weights 'V' .unbounded) := by
    rw [SoundSystem.drawWord, drawSyllableCount_always]
    exact fault_of_bind syllable _
  have words : (drawing (infiniteSystem draws) .always 1).answer =
      .error (.weights 'V' .unbounded) := fault_of_bind whole _
  rw [SoundSystem.generate, invent_of_live rfl (List.cons_ne_nil _ _), words]
  rfl

theorem breakdown_of_infiniteSystem (draws : Random.Draws)
    (failed : ((infiniteSystem draws).generate 1 .always).1 = .error (.weights 'V' .unbounded)) :
    ((SoundSystem.engine draws).generate 1 .always (infiniteSystem draws)).1 =
      .error (.stopped .breakdown) :=
  Sequencing.mapError_error_iff.mpr ⟨_, failed, rfl⟩

/-- A file that is accepted can break the engine down, and so stop the program. -/
theorem infinite_weight_breaks_down :
    ∃ fresh, (SoundSystem.seededEngine 2).parse infiniteText = .ok fresh ∧
      ((SoundSystem.seededEngine 2).generate 1 .always fresh).1 =
        .error (.stopped .breakdown) := by
  obtain ⟨word, left, drawn, low⟩ := next?_ofSeed
  exact ⟨_, parse_infiniteText _,
    breakdown_of_infiniteSystem _ (generate_infiniteSystem drawn low)⟩

/-- The class of that file is the one to blame. -/
theorem infinite_weight_overflows :
    ∃ fresh, (SoundSystem.seededEngine 2).parse infiniteText = .ok fresh ∧
      RuleFile.ofText infiniteText = .ok infiniteFile ∧
      ((SoundSystem.seededEngine 2).generate 1 .always fresh).1 =
        .error (.stopped .breakdown) ∧
      Overflows infiniteFile fresh := by
  have blamed : ∀ draws, ((SoundSystem.engine draws).generate 1 .always
      (infiniteSystem draws)).1 = .error (.stopped .breakdown) →
        Overflows infiniteFile (infiniteSystem draws) := by
    intro draws failed
    obtain ⟨-, -, generations⟩ := only_overflowing_weights_break_down
      (parse_infiniteText draws) ofText_infiniteText []
    rcases (generations 1 .always).2 _ failed with ⟨_, other, -⟩ | ⟨-, overflows⟩ | ⟨other, -⟩
    · cases other
    · exact overflows
    · cases other
  obtain ⟨word, left, drawn, low⟩ := next?_ofSeed
  have failed := breakdown_of_infiniteSystem _ (generate_infiniteSystem drawn low)
  exact ⟨_, parse_infiniteText _, ofText_infiniteText, failed, blamed _ failed⟩

end SoundChange.EngineReports
