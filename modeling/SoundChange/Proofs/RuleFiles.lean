import SoundChange.SoundSystem.Engine
import SoundChange.Proofs.CodeSets
import SoundChange.Proofs.Sequencing

/-! What rule files make. A file is accepted exactly when each of its parts is, and the parts make the
system one by one: its rules do not matter for anything but the rules of the system, and the draws go
through it untouched. -/
namespace SoundChange.RuleFiles
open Sequencing

/-- A system that was made from a rule file, part by part. -/
structure Compiled (file : RuleFile) (draws : Random.Draws) (system : SoundSystem) : Prop where
  classes : file.classes.entries.mapM (SoundSystem.compileClass file.weights) = .ok system.classes
  syllables :
    file.syllables.mapM (SoundSystem.compileSyllable system.classes) = .ok system.syllables
  spellings : SoundSystem.compileSpellings file.ipa.entries = .ok system.spellings
  rules : file.rules.mapM SoundSystem.compileRule = .ok system.rules
  strict : system.strict = file.strictIpa
  draws : system.draws = draws
  live : system.released = false

/-- A file makes exactly the system that its parts make. -/
theorem ofFile_ok_iff {file : RuleFile} {draws : Random.Draws} {system : SoundSystem} :
    SoundSystem.ofFile file draws = .ok system ↔ Compiled file draws system := by
  constructor
  · intro compiled
    obtain ⟨classes, classesCompiled, compiled⟩ := bind_ok_iff.mp compiled
    obtain ⟨syllables, syllablesCompiled, compiled⟩ := bind_ok_iff.mp compiled
    obtain ⟨spellings, spellingsCompiled, compiled⟩ := bind_ok_iff.mp compiled
    obtain ⟨rules, rulesCompiled, compiled⟩ := bind_ok_iff.mp compiled
    cases compiled
    exact ⟨classesCompiled, syllablesCompiled, spellingsCompiled, rulesCompiled, rfl, rfl, rfl⟩
  · intro compiled
    refine bind_ok_iff.mpr ⟨_, compiled.classes, ?_⟩
    refine bind_ok_iff.mpr ⟨_, compiled.syllables, ?_⟩
    refine bind_ok_iff.mpr ⟨_, compiled.spellings, ?_⟩
    refine bind_ok_iff.mpr ⟨_, compiled.rules, ?_⟩
    obtain ⟨_, _, _, _, _, _, _⟩ := system
    cases compiled.strict
    cases compiled.draws
    cases compiled.live
    rfl

/-- The rules of an accepted file are its entries in their order, and its system is live. -/
theorem ofFile_ok {file : RuleFile} {draws : Random.Draws} {system : SoundSystem}
    (compiled : SoundSystem.ofFile file draws = .ok system) :
    List.Forall₂ (fun entry rule => SoundSystem.compileRule entry = .ok rule) file.rules
      system.rules ∧ system.released = false :=
  ⟨mapM_ok_iff.mp (ofFile_ok_iff.mp compiled).rules, (ofFile_ok_iff.mp compiled).live⟩

theorem parse_ok {source : String} {draws : Random.Draws} {system : SoundSystem}
    (accepted : (SoundSystem.engine draws).parse source = .ok system) :
    ∃ file, RuleFile.ofText source = .ok file ∧ SoundSystem.ofFile file draws = .ok system := by
  have compiled := mapError_ok_iff.mp accepted
  rw [SoundSystem.ofText] at compiled
  cases read : RuleFile.ofText source with
  | error fault => rw [read] at compiled; cases compiled
  | ok file =>
    rw [read] at compiled
    exact ⟨file, rfl, compiled⟩

theorem parse_of_file {source : String} {file : RuleFile} {draws : Random.Draws}
    {system : SoundSystem} (read : RuleFile.ofText source = .ok file)
    (compiled : SoundSystem.ofFile file draws = .ok system) :
    (SoundSystem.engine draws).parse source = .ok system := by
  simp only [SoundSystem.engine, SoundSystem.ofText, read, compiled]
  rfl

/-- A file without its rules makes the same system, without rules. -/
theorem ofFile_withoutRules {file : RuleFile} {draws : Random.Draws}
    {system : SoundSystem} (compiled : SoundSystem.ofFile file draws = .ok system) :
    SoundSystem.ofFile { file with rules := [] } draws = .ok { system with rules := [] } := by
  have parts := ofFile_ok_iff.mp compiled
  exact ofFile_ok_iff.mpr { parts with rules := rfl }

/-- The draws go through a rule file untouched. -/
theorem ofFile_draws (file : RuleFile) (draws draws' : Random.Draws) :
    SoundSystem.ofFile file draws' =
      (SoundSystem.ofFile file draws).map fun system => { system with draws := draws' } := by
  simp only [SoundSystem.ofFile, map_bind]
  rfl

theorem parse_draws (draws draws' : Random.Draws) (source : String) :
    (SoundSystem.engine draws').parse source =
      ((SoundSystem.engine draws).parse source).map fun system => { system with draws := draws' } := by
  simp only [SoundSystem.engine, SoundSystem.ofText]
  cases RuleFile.ofText source with
  | error fault => rfl
  | ok file =>
    simp only [ofFile_draws file draws draws']
    cases SoundSystem.ofFile file draws <;> rfl

/-! Classes. -/

/-- A class is named by a capital letter of the basic alphabet, and has letters. -/
theorem compileClass_of_basic (weights : Dictionary Float) {c : Char} {letters : List String}
    (lower : 0x41 ≤ c.toNat) (upper : c.toNat ≤ 0x5A) (some_ : letters ≠ []) :
    SoundSystem.compileClass weights (String.ofList [c], letters) =
      .ok (c, SoundSystem.lettersOf weights letters) := by
  have named : SoundSystem.classLetter? (String.ofList [c]) = some c := by
    rw [SoundSystem.classLetter?, String.toList_ofList]
    exact if_pos (CodeSets.isUppercase_of_basic lower upper)
  simp only [SoundSystem.compileClass, named, List.isEmpty_iff, some_, ↓reduceIte]

/-- Without spellings there is nothing to compile. -/
theorem compileSpellings_nil : SoundSystem.compileSpellings [] = .ok [] := by
  simp [SoundSystem.compileSpellings]

/-! A small file. The weights are given, so that drawing letters needs no logarithm. -/

/-- One pattern of syllables, over classes of one letter each. -/
def bareText : String :=
  "syllables = [\"CV\"]\n[classes]\nC = [\"t\"]\nV = [\"a\"]\n[weights]\nt = 1.0\na = 1.0\n"

/-- A rule beside the pattern and the classes of `bareText`. -/
def voicedText : String :=
  bareText ++ "[[rules]]\nname = \"voicing\"\npattern = \"t\"\nreplacement = \"d\"\n"

def voicedFile : RuleFile where
  syllables := ["CV"]
  strictIpa := false
  classes := .ofList [("C", ["t"]), ("V", ["a"])]
  weights := .ofList [("t", 1.0), ("a", 1.0)]
  ipa := .empty
  rules := [⟨"voicing", "t", "d"⟩]

theorem ofText_voicedText : RuleFile.ofText voicedText = .ok voicedFile := by
  decide +kernel

theorem ofText_bareText : RuleFile.ofText bareText = .ok { voicedFile with rules := [] } := by
  decide +kernel

def voicedClasses : List (Char × List Letter) :=
  [('C', SoundSystem.lettersOf voicedFile.weights ["t"]),
    ('V', SoundSystem.lettersOf voicedFile.weights ["a"])]

/-- The system of the small file, with its rule compiled. -/
def voicedSystem (rule : Rule) (draws : Random.Draws) : SoundSystem where
  classes := voicedClasses
  syllables := [[⟨'C', false⟩, ⟨'V', false⟩]]
  spellings := []
  strict := false
  rules := [rule]
  draws := draws
  released := false

theorem voicedFile_compiled :
    ∃ rule, ∀ draws, SoundSystem.ofFile voicedFile draws = .ok (voicedSystem rule draws) := by
  have compiles : (SoundSystem.compileRule ⟨"voicing", "t", "d"⟩).toOption.isSome = true := by
    decide +kernel
  cases compiled : SoundSystem.compileRule ⟨"voicing", "t", "d"⟩ with
  | error fault => rw [compiled] at compiles; cases compiles
  | ok rule =>
    have entries : voicedFile.classes.entries = [("C", ["t"]), ("V", ["a"])] := by decide
    have consonants : SoundSystem.compileClass voicedFile.weights ("C", ["t"]) = .ok _ :=
      compileClass_of_basic voicedFile.weights (c := 'C') (by decide) (by decide)
        (List.cons_ne_nil _ _)
    have vowels : SoundSystem.compileClass voicedFile.weights ("V", ["a"]) = .ok _ :=
      compileClass_of_basic voicedFile.weights (c := 'V') (by decide) (by decide)
        (List.cons_ne_nil _ _)
    have classes : voicedFile.classes.entries.mapM (SoundSystem.compileClass voicedFile.weights) =
        .ok voicedClasses := by
      rw [entries, mapM_ok_iff]
      exact .cons consonants (.cons vowels .nil)
    have rules : voicedFile.rules.mapM SoundSystem.compileRule = .ok [rule] :=
      mapM_ok_iff.mpr (.cons compiled .nil)
    exact ⟨rule, fun draws =>
      ofFile_ok_iff.mpr ⟨classes, rfl, compileSpellings_nil, rules, rfl, rfl, rfl⟩⟩

end SoundChange.RuleFiles
