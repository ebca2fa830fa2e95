import Mathlib.Data.List.Perm.Basic
import SoundChange.Proofs.WellFormedSystems

/-! The order in which the tables of a rule file are listed is never seen. A letter is looked up in its
class, a class by its name, and spellings are put into an order of their own, so two listings of one
file make systems that answer every operation alike. A file that is refused is refused at the same
place; only of several faulty classes it depends on the listing which one is named. -/
namespace SoundChange.EnumerationOrder
open Footprints Operations RuleFiles Sequencing WellFormedSystems

/-- Two listings of one rule file: what is a table in it has the same entries, in any order. -/
structure Reordered (file other : RuleFile) : Prop where
  classes : file.classes.entries.Perm other.classes.entries
  weights : file.weights.entries.Perm other.weights.entries
  ipa : file.ipa.entries.Perm other.ipa.entries
  syllables : file.syllables = other.syllables
  strictIpa : file.strictIpa = other.strictIpa
  rules : file.rules = other.rules

/-- Two systems that only list their classes in different orders, each class with the same letters and
weights. -/
structure Alike (a b : SoundSystem) : Prop where
  classes : a.classes.Perm b.classes
  letters : ∀ c, a.classes.find? (·.1 == c) = b.classes.find? (·.1 == c)
  syllables : a.syllables = b.syllables
  spellings : a.spellings = b.spellings
  strict : a.strict = b.strict
  rules : a.rules = b.rules
  draws : a.draws = b.draws
  released : a.released = b.released

/-- Where compiling a file comes to an end. -/
inductive Stage where
  | classes
  | syllable (place : Nat)
  | spellings
  | rule (place : Nat)

/-- A reason to refuse a file: some faulty class or, when all classes are in order, the first faulty
syllable, then an empty spelling, then the first faulty rule. -/
inductive Refuses (file : RuleFile) : Stage → CompileFault → Prop
  | atClass {entry : String × List String} {fault : CompileFault}
      (listed : entry ∈ file.classes.entries)
      (faulty : SoundSystem.compileClass file.weights entry = .error fault) :
    Refuses file .classes fault
  | atSyllable {classes : List (Char × List Letter)} {place : Nat} {fault : CompileFault}
      (lettered : file.classes.entries.mapM (SoundSystem.compileClass file.weights) = .ok classes)
      (faulty : FirstRefused (SoundSystem.compileSyllable classes) file.syllables place fault) :
    Refuses file (.syllable place) fault
  | atSpelling {classes : List (Char × List Letter)} {syllables : List (List Slot)}
      (lettered : file.classes.entries.mapM (SoundSystem.compileClass file.weights) = .ok classes)
      (patterned : file.syllables.mapM (SoundSystem.compileSyllable classes) = .ok syllables)
      (empty : "" ∈ file.ipa.entries.map Prod.fst) :
    Refuses file .spellings .emptySpelling
  | atRule {classes : List (Char × List Letter)} {syllables : List (List Slot)}
      {spellings : List Spelling} {place : Nat} {fault : CompileFault}
      (lettered : file.classes.entries.mapM (SoundSystem.compileClass file.weights) = .ok classes)
      (patterned : file.syllables.mapM (SoundSystem.compileSyllable classes) = .ok syllables)
      (spelled : SoundSystem.compileSpellings file.ipa.entries = .ok spellings)
      (faulty : FirstRefused SoundSystem.compileRule file.rules place fault) :
    Refuses file (.rule place) fault

/-! Tables. -/

variable {file other : RuleFile} {draws : Random.Draws}

theorem Reordered.symm (same : Reordered file other) : Reordered other file where
  classes := same.classes.symm
  weights := same.weights.symm
  ipa := same.ipa.symm
  syllables := same.syllables.symm
  strictIpa := same.strictIpa.symm
  rules := same.rules.symm

/-- The order of the entries is all that dictionaries can differ in when they find the same. -/
theorem perm_iff_find? {α : Type} {a b : Dictionary α} :
    a.entries.Perm b.entries ↔ ∀ key, a.find? key = b.find? key := by
  have once (d : Dictionary α) : d.entries.Nodup := .of_map Prod.fst d.distinct
  rw [List.perm_ext_iff_of_nodup (once a) (once b)]
  constructor
  · intro same key
    ext value
    rw [a.find?_eq_some_iff, b.find?_eq_some_iff, same]
  · rintro alike ⟨key, value⟩
    rw [← a.find?_eq_some_iff, ← b.find?_eq_some_iff, alike]

/-- A class is found by its name wherever it stands. -/
theorem find?_class_eq_some_iff {classes : List (Char × List Letter)}
    (named : (classes.map Prod.fst).Nodup) {c : Char} {entry : Char × List Letter} :
    classes.find? (·.1 == c) = some entry ↔ entry ∈ classes ∧ entry.1 = c := by
  constructor
  · intro found
    exact ⟨List.mem_of_find?_eq_some found, by simpa using List.find?_some found⟩
  · rintro ⟨member, rfl⟩
    cases found : classes.find? (·.1 == entry.1) with
    | none => exact absurd (List.find?_eq_none.mp found entry member) (by simp)
    | some entry' =>
      have same : entry'.1 = entry.1 := by simpa using List.find?_some found
      rw [List.inj_on_of_nodup_map named (List.mem_of_find?_eq_some found) member same]

/-- Running over a list in another order answers the same, in this order. -/
theorem mapM_perm {α β : Type} {each : α → Except CompileFault β} {values others : List α}
    {images : List β} (moved : values.Perm others) (answered : values.mapM each = .ok images) :
    ∃ images', others.mapM each = .ok images' ∧ images.Perm images' := by
  obtain ⟨images', all, same⟩ := List.perm_comp_forall₂ moved.symm (mapM_ok_iff.mp answered)
  exact ⟨images', mapM_ok_iff.mpr all, same.symm⟩

/-! Parts of a file. -/

theorem compileClass_eq (same : Reordered file other) :
    SoundSystem.compileClass file.weights = SoundSystem.compileClass other.weights := by
  funext entry
  simp only [SoundSystem.compileClass, SoundSystem.lettersOf, perm_iff_find?.mp same.weights]

theorem compileSyllable_eq {classes classes' : List (Char × List Letter)}
    (moved : classes.Perm classes') :
    SoundSystem.compileSyllable classes = SoundSystem.compileSyllable classes' := by
  have defined : (fun c => classes.any (·.1 == c)) = fun c => classes'.any (·.1 == c) := by
    funext c
    exact moved.any_eq
  funext pattern
  rw [SoundSystem.compileSyllable, SoundSystem.compileSyllable, defined]

theorem not_listed_both {a b : Spelling} (first : Listed a b) : ¬ Listed b a := by
  intro second
  rcases first with longer | ⟨level, first⟩ <;> rcases second with longer' | ⟨level', second⟩
  · omega
  · omega
  · omega
  · exact List.lt_asymm first second

theorem any_empty_iff (entries : List (String × String)) :
    (entries.any fun entry => entry.1.isEmpty) = true ↔ "" ∈ entries.map Prod.fst := by
  simp [List.any_eq_true]

/-- Spellings that are put in order come out the same from every listing. -/
theorem compileSpellings_perm {entries others : List (String × String)}
    (distinct : (entries.map Prod.fst).Nodup) (moved : entries.Perm others) :
    SoundSystem.compileSpellings entries = SoundSystem.compileSpellings others := by
  have distinct' : (others.map Prod.fst).Nodup := (moved.map Prod.fst).nodup_iff.mp distinct
  have empty : (entries.any fun entry => entry.1.isEmpty) =
      others.any fun entry => entry.1.isEmpty := moved.any_eq
  by_cases void : (others.any fun entry => entry.1.isEmpty) = true
  · simp only [SoundSystem.compileSpellings, empty, if_pos void]
  · obtain ⟨spellings, compiled⟩ : ∃ s, SoundSystem.compileSpellings entries = .ok s := by
      rw [SoundSystem.compileSpellings, empty, if_neg void]
      exact ⟨_, rfl⟩
    obtain ⟨spellings', compiled'⟩ : ∃ s, SoundSystem.compileSpellings others = .ok s := by
      rw [SoundSystem.compileSpellings, if_neg void]
      exact ⟨_, rfl⟩
    obtain ⟨same, -, -, sorted⟩ := spellings_of_compiled distinct compiled
    obtain ⟨same', -, -, sorted'⟩ := spellings_of_compiled distinct' compiled'
    -- Distinct spellings have no ties, so both listings are sorted into one and the same list.
    have both : spellings.Perm spellings' := (same.trans (moved.map _)).trans same'.symm
    have equal : spellings = spellings' := both.eq_of_pairwise
      (fun a b _ _ first second => absurd second (not_listed_both first)) sorted sorted'
    rw [compiled, compiled', equal]

/-! Accepted files. -/

/-- Every other listing of an accepted file is accepted, and makes a system like it. -/
theorem exists_alike (same : Reordered file other) {a : SoundSystem}
    (compiled : SoundSystem.ofFile file draws = .ok a) :
    ∃ b, SoundSystem.ofFile other draws = .ok b ∧ Alike a b := by
  have parts := ofFile_ok_iff.mp compiled
  obtain ⟨classes, lettered, moved⟩ := mapM_perm same.classes parts.classes
  have parts' : Compiled other draws { a with classes := classes } := by
    refine ⟨?_, ?_, ?_, ?_, ?_, parts.draws, parts.live⟩
    · rw [← compileClass_eq same]
      exact lettered
    · rw [← same.syllables, ← compileSyllable_eq moved]
      exact parts.syllables
    · rw [← compileSpellings_perm file.ipa.distinct same.ipa]
      exact parts.spellings
    · rw [← same.rules]
      exact parts.rules
    · rw [← same.strictIpa]
      exact parts.strict
  refine ⟨_, ofFile_ok_iff.mpr parts', ⟨moved, ?_, rfl, rfl, rfl, rfl, rfl, rfl⟩⟩
  intro c
  ext entry
  rw [find?_class_eq_some_iff (nodup_of_compiled parts),
    find?_class_eq_some_iff (nodup_of_compiled parts'), moved.mem_iff]

/-! Refused files. -/

/-- A file that is not accepted is refused for one of the reasons. -/
theorem exists_refuses {fault : CompileFault}
    (failed : SoundSystem.ofFile file draws = .error fault) : ∃ stage, Refuses file stage fault := by
  rw [SoundSystem.ofFile] at failed
  rcases bind_error_iff.mp failed with failed | ⟨classes, lettered, failed⟩
  · obtain ⟨place, entry, found, faulty, -⟩ := mapM_error_iff.mp failed
    exact ⟨_, .atClass (List.mem_of_getElem? found) faulty⟩
  rcases bind_error_iff.mp failed with failed | ⟨syllables, patterned, failed⟩
  · obtain ⟨place, faulty⟩ := mapM_error_iff.mp failed
    exact ⟨_, .atSyllable lettered faulty⟩
  rcases bind_error_iff.mp failed with failed | ⟨spellings, spelled, failed⟩
  · rw [SoundSystem.compileSpellings] at failed
    split at failed
    · rename_i empty
      cases failed
      exact ⟨_, .atSpelling lettered patterned ((any_empty_iff _).mp empty)⟩
    · cases failed
  rcases bind_error_iff.mp failed with failed | ⟨rules, -, ended⟩
  · obtain ⟨place, faulty⟩ := mapM_error_iff.mp failed
    exact ⟨_, .atRule lettered patterned spelled faulty⟩
  · cases ended

/-- Every reason but a faulty class decides what is reported. -/
theorem Refuses.error {stage : Stage} {fault : CompileFault} (refused : Refuses file stage fault)
    (later : stage ≠ .classes) (draws : Random.Draws) :
    SoundSystem.ofFile file draws = .error fault := by
  rw [SoundSystem.ofFile]
  cases refused with
  | atClass => exact absurd rfl later
  | @atSyllable classes place fault lettered faulty =>
    have failed := mapM_error_iff.mpr ⟨place, faulty⟩
    exact bind_error_iff.mpr (.inr ⟨classes, lettered, bind_error_iff.mpr (.inl failed)⟩)
  | @atSpelling classes syllables lettered patterned empty =>
    have failed : SoundSystem.compileSpellings file.ipa.entries = .error .emptySpelling := by
      rw [SoundSystem.compileSpellings, if_pos ((any_empty_iff _).mpr empty)]
    refine bind_error_iff.mpr (.inr ⟨classes, lettered, ?_⟩)
    refine bind_error_iff.mpr (.inr ⟨syllables, patterned, ?_⟩)
    exact bind_error_iff.mpr (.inl failed)
  | @atRule classes syllables spellings place fault lettered patterned spelled faulty =>
    have failed := mapM_error_iff.mpr ⟨place, faulty⟩
    refine bind_error_iff.mpr (.inr ⟨classes, lettered, ?_⟩)
    refine bind_error_iff.mpr (.inr ⟨syllables, patterned, ?_⟩)
    refine bind_error_iff.mpr (.inr ⟨spellings, spelled, ?_⟩)
    exact bind_error_iff.mpr (.inl failed)

/-- A reason to refuse one listing is a reason to refuse every other one. -/
theorem Refuses.reordered {stage : Stage} {fault : CompileFault}
    (refused : Refuses file stage fault) (same : Reordered file other) :
    Refuses other stage fault := by
  have lettered_other {classes : List (Char × List Letter)}
      (lettered : file.classes.entries.mapM (SoundSystem.compileClass file.weights) =
        .ok classes) :
      ∃ classes', other.classes.entries.mapM (SoundSystem.compileClass other.weights) =
        .ok classes' ∧
        SoundSystem.compileSyllable classes = SoundSystem.compileSyllable classes' := by
    obtain ⟨classes', lettered', moved⟩ := mapM_perm same.classes lettered
    rw [compileClass_eq same] at lettered'
    exact ⟨classes', lettered', compileSyllable_eq moved⟩
  cases refused with
  | atClass listed faulty =>
    rw [compileClass_eq same] at faulty
    exact .atClass (same.classes.mem_iff.mp listed) faulty
  | atSyllable lettered faulty =>
    obtain ⟨classes', lettered', alike⟩ := lettered_other lettered
    rw [alike, same.syllables] at faulty
    exact .atSyllable lettered' faulty
  | atSpelling lettered patterned empty =>
    obtain ⟨classes', lettered', alike⟩ := lettered_other lettered
    rw [alike, same.syllables] at patterned
    exact .atSpelling lettered' patterned ((same.ipa.map Prod.fst).mem_iff.mp empty)
  | atRule lettered patterned spelled faulty =>
    obtain ⟨classes', lettered', alike⟩ := lettered_other lettered
    rw [alike, same.syllables] at patterned
    rw [compileSpellings_perm file.ipa.distinct same.ipa] at spelled
    rw [same.rules] at faulty
    exact .atRule lettered' patterned spelled faulty

/-- A file with a faulty class is refused for its classes. -/
theorem Refuses.classes_of_faulty {stage : Stage} {fault reported : CompileFault}
    (refused : Refuses file stage fault) {entry : String × List String}
    (listed : entry ∈ file.classes.entries)
    (faulty : SoundSystem.compileClass file.weights entry = .error reported) :
    stage = .classes := by
  have unlettered (classes : List (Char × List Letter)) :
      file.classes.entries.mapM (SoundSystem.compileClass file.weights) ≠ .ok classes := by
    intro lettered
    obtain ⟨compiled, answered⟩ := exists_images_iff.mp ⟨_, mapM_ok_iff.mp lettered⟩ entry listed
    rw [faulty] at answered
    cases answered
  cases refused with
  | atClass => rfl
  | atSyllable lettered => exact absurd lettered (unlettered _)
  | atSpelling lettered => exact absurd lettered (unlettered _)
  | atRule lettered => exact absurd lettered (unlettered _)

/-- Two listings of a refused file are refused for the same reason, or each for a faulty class. -/
theorem refused_alike (same : Reordered file other) {fault : CompileFault}
    (failed : SoundSystem.ofFile file draws = .error fault) :
    ∃ stage fault', SoundSystem.ofFile other draws = .error fault' ∧
      Refuses file stage fault ∧ Refuses other stage fault' ∧
      (fault = fault' ∨ ∃ first second, first ≠ second ∧
        first ∈ file.classes.entries ∧ second ∈ file.classes.entries ∧
        SoundSystem.compileClass file.weights first = .error fault ∧
        SoundSystem.compileClass file.weights second = .error fault') := by
  obtain ⟨stage, refused⟩ := exists_refuses failed
  have refused' := refused.reordered same
  cases refused with
  | @atClass first _ listed faulty =>
    -- The other listing may come to another faulty class first, but it does come to one.
    cases compiled : SoundSystem.ofFile other draws with
    | ok b =>
      obtain ⟨a, accepted, -⟩ := exists_alike same.symm compiled
      rw [failed] at accepted
      cases accepted
    | error fault' =>
      obtain ⟨stage', reason'⟩ := exists_refuses compiled
      have reason := reason'.reordered same.symm
      obtain rfl := reason.classes_of_faulty listed faulty
      refine ⟨_, fault', rfl, .atClass listed faulty, reason', ?_⟩
      cases reason with
      | @atClass second _ listed' faulty' =>
        by_cases one : first = second
        · subst one
          rw [faulty] at faulty'
          cases faulty'
          exact .inl rfl
        · exact .inr ⟨first, second, one, listed, listed', faulty, faulty'⟩
  | atSyllable lettered faulty =>
    exact ⟨_, fault, refused'.error (by simp) draws, .atSyllable lettered faulty, refused', .inl rfl⟩
  | atSpelling lettered patterned empty =>
    exact ⟨_, _, refused'.error (by simp) draws, .atSpelling lettered patterned empty, refused',
      .inl rfl⟩
  | atRule lettered patterned spelled faulty =>
    exact ⟨_, fault, refused'.error (by simp) draws, .atRule lettered patterned spelled faulty,
      refused', .inl rfl⟩

/-! Drawing words from classes that are listed in another order. -/

section Drawing

variable {classes classes' : List (Char × List Letter)}
  (letters : ∀ c, classes.find? (·.1 == c) = classes'.find? (·.1 == c))
include letters

theorem drawSlots_eq (slots : List Slot) :
    SoundSystem.drawSlots classes slots = SoundSystem.drawSlots classes' slots := by
  induction slots with
  | nil => rfl
  | cons slot slots ih =>
    have first : SoundSystem.drawSlot classes slot = SoundSystem.drawSlot classes' slot := by
      simp only [SoundSystem.drawSlot, letters]
    simp only [SoundSystem.drawSlots, first, ih]

theorem drawSyllables_eq (syllables : List (List Slot)) (count : Nat) :
    SoundSystem.drawSyllables classes syllables count =
      SoundSystem.drawSyllables classes' syllables count := by
  induction count with
  | zero => rfl
  | succ count ih =>
    simp only [SoundSystem.drawSyllables, SoundSystem.drawSyllable, drawSlots_eq letters, ih]

theorem drawWords_eq (syllables : List (List Slot)) (share : Float32) (count : Nat) :
    SoundSystem.drawWords classes syllables share count =
      SoundSystem.drawWords classes' syllables share count := by
  induction count with
  | zero => rfl
  | succ count ih =>
    simp only [SoundSystem.drawWords, SoundSystem.drawWord, drawSyllables_eq letters, ih]

end Drawing

/-! Operations. -/

variable {a b : SoundSystem}

theorem Alike.invent (alike : Alike a b) (count : Nat) (repartition : Repartition) :
    a.invent count repartition a.draws = b.invent count repartition b.draws := by
  simp only [SoundSystem.invent, drawWords_eq alike.letters, alike.syllables, alike.draws,
    alike.released]

theorem Alike.release (alike : Alike a b) : Alike a.release b.release :=
  { alike with syllables := rfl, rules := rfl, released := rfl }

/-- One operation answers alike and leaves systems that are alike. -/
theorem Alike.perform (alike : Alike a b) (operation : Operation) :
    (Operations.perform draws a operation).1 = (Operations.perform draws b operation).1 ∧
      Alike (Operations.perform draws a operation).2 (Operations.perform draws b operation).2 := by
  have rules : SameRules a b := ⟨alike.rules, alike.released⟩
  have voice : SameVoice a b := ⟨alike.spellings, alike.strict⟩
  cases operation with
  | generate count repartition =>
    have same := alike.invent count repartition
    refine ⟨?_, ?_⟩
    · simp only [Operations.perform, SoundSystem.engine, SoundSystem.generate, same]
    · rw [perform_generate, perform_generate, same]
      exact { alike with draws := rfl }
  | apply words =>
    refine ⟨?_, alike⟩
    simp only [Operations.perform, SoundSystem.engine, apply_congr rules]
  | pronounce word => exact ⟨perform_pronounce_congr voice word, alike⟩
  | ruleNames =>
    refine ⟨?_, alike⟩
    simp only [Operations.perform, SoundSystem.ruleNames, alike.rules]
  | tabulate words result =>
    refine ⟨perform_tabulate_congr voice words result, ?_⟩
    rw [perform_steady rfl (by simp), perform_steady rfl (by simp)]
    exact alike
  | release => exact ⟨rfl, alike.release⟩

/-- Systems that are alike stay alike through any operations. -/
theorem Alike.stateAfter (alike : Alike a b) (operations : List Operation) :
    Alike (Operations.stateAfter draws a operations) (Operations.stateAfter draws b operations) := by
  induction operations generalizing a b with
  | nil => exact alike
  | cons operation operations ih =>
    rw [stateAfter_cons, stateAfter_cons]
    exact ih (alike.perform operation).2

/-- Whatever the order in which the classes, weights and spellings of a file are listed, compiling it
comes to the same. Either all listings make systems that are alike and stay so, giving the same
outcome to every operation after every other ones; or all are refused at the same stage with the same
fault, except that two listings of a file with several faulty classes may each name one of these. -/
theorem listing_order_is_not_seen (same : Reordered file other) (draws : Random.Draws) :
    (∃ a b, SoundSystem.ofFile file draws = .ok a ∧ SoundSystem.ofFile other draws = .ok b ∧
      Alike a b ∧ ∀ operations,
        Alike (stateAfter draws a operations) (stateAfter draws b operations) ∧
        ∀ next, outcomeAfter draws a operations next = outcomeAfter draws b operations next) ∨
    ∃ stage fault fault', SoundSystem.ofFile file draws = .error fault ∧
      SoundSystem.ofFile other draws = .error fault' ∧
      Refuses file stage fault ∧ Refuses other stage fault' ∧
      (fault = fault' ∨ ∃ first second, first ≠ second ∧
        first ∈ file.classes.entries ∧ second ∈ file.classes.entries ∧
        SoundSystem.compileClass file.weights first = .error fault ∧
        SoundSystem.compileClass file.weights second = .error fault') := by
  cases compiled : SoundSystem.ofFile file draws with
  | ok a =>
    obtain ⟨b, compiled', alike⟩ := exists_alike same compiled
    refine .inl ⟨a, b, rfl, compiled', alike, ?_⟩
    intro operations
    have later : Alike (stateAfter draws a operations) (stateAfter draws b operations) :=
      alike.stateAfter operations
    exact ⟨later, fun next => (later.perform next).1⟩
  | error fault =>
    obtain ⟨stage, fault', failed, refused, refused', reported⟩ := refused_alike same compiled
    exact .inr ⟨stage, fault, fault', rfl, failed, refused, refused', reported⟩

/-- The small file with its vowels listed before its consonants. -/
def vowelsFirst : RuleFile :=
  { voicedFile with classes := .ofList [("V", ["a"]), ("C", ["t"])] }

theorem vowels_first_is_not_seen :
    Reordered voicedFile vowelsFirst ∧
      ∃ a b, SoundSystem.ofFile voicedFile (.ofList [0, 0, 0, 0, 0]) = .ok a ∧
        SoundSystem.ofFile vowelsFirst (.ofList [0, 0, 0, 0, 0]) = .ok b ∧
        outcomeAfter (.ofList [0, 0, 0, 0, 0]) a [.apply ["ta"]] (.generate 1 .always) =
          outcomeAfter (.ofList [0, 0, 0, 0, 0]) b [.apply ["ta"]] (.generate 1 .always) := by
  have turned : voicedFile.classes.entries.Perm vowelsFirst.classes.entries := by decide
  have same : Reordered voicedFile vowelsFirst :=
    ⟨turned, .refl _, .refl _, rfl, rfl, rfl⟩
  obtain ⟨rule, compiled⟩ := voicedFile_compiled
  refine ⟨same, ?_⟩
  rcases listing_order_is_not_seen same (.ofList [0, 0, 0, 0, 0]) with
    ⟨a, b, accepted, accepted', -, answers⟩ | ⟨_, _, _, failed, _⟩
  · exact ⟨a, b, accepted, accepted', (answers [.apply ["ta"]]).2 _⟩
  · rw [compiled] at failed
    cases failed

end SoundChange.EnumerationOrder
