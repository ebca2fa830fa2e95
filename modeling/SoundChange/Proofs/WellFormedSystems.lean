import Mathlib.Data.List.Nodup
import SoundChange.Proofs.Operations
import SoundChange.Proofs.SyllablePatterns

/-! Well-formed systems. In a system that was made from a rule file every slot has a class with
letters, no pattern is empty, and the spellings are in the order in which they are tried, the longest
ones first. No operation on the system changes that, the release included, and the rules stay in the
order of the file until they are dropped. -/
namespace SoundChange.WellFormedSystems
open Operations RuleFiles Sequencing SyllablePatterns

/-- Whether one spelling is listed before another: a longer one first, and of two equally long ones
the one that comes first in the order of code points. -/
def Listed (a b : Spelling) : Prop :=
  b.letters.length < a.letters.length ∨
    a.letters.length = b.letters.length ∧ List.Lex (· < ·) a.letters b.letters

structure WellFormed (system : SoundSystem) : Prop where
  /-- No class has two entries. -/
  named : (system.classes.map Prod.fst).Nodup
  lettered : ∀ entry ∈ system.classes, entry.2 ≠ []
  patterned : ∀ slots ∈ system.syllables, slots ≠ []
  defined : ∀ slots ∈ system.syllables, ∀ slot ∈ slots,
    ∃ letters, (slot.letterClass, letters) ∈ system.classes
  spelled : ∀ spelling ∈ system.spellings, spelling.letters ≠ []
  distinct : (system.spellings.map Spelling.letters).Nodup
  sorted : system.spellings.Pairwise Listed

/-! The order of spellings. -/

theorem precedes_iff (a b : List Char) :
    precedes a b = true ↔ a = b ∨ List.Lex (· < ·) a b := by
  induction a generalizing b with
  | nil => cases b <;> simp [precedes]
  | cons x a ih =>
    cases b with
    | nil => simp [precedes]
    | cons y b =>
      rw [precedes, List.cons_lex_cons_iff, Char.lt_def, UInt32.lt_iff_toNat_lt]
      by_cases same : x = y
      · subst same
        simp [ih]
      · simp [same]

theorem before_iff (a b : Spelling) :
    Spelling.before a b = true ↔
      b.letters.length < a.letters.length ∨
        a.letters.length = b.letters.length ∧ precedes a.letters b.letters = true := by
  simp [Spelling.before]

private theorem precedes_trans {a b c : List Char} (first : precedes a b = true)
    (second : precedes b c = true) : precedes a c = true := by
  rw [precedes_iff] at *
  rcases first with rfl | first
  · exact second
  · rcases second with rfl | second
    · exact .inr first
    · exact .inr (List.lex_trans Char.lt_trans first second)

private theorem precedes_total (a b : List Char) :
    precedes a b = true ∨ precedes b a = true := by
  rw [precedes_iff, precedes_iff]
  by_contra neither
  obtain ⟨⟨different, notBefore⟩, -, notAfter⟩ := by simpa only [not_or] using neither
  refine different (List.lex_trichotomous ?_ notAfter notBefore)
  intro x y notLess notMore
  exact Char.le_antisymm (Char.not_lt.mp notMore) (Char.not_lt.mp notLess)

theorem before_trans (a b c : Spelling) (first : Spelling.before a b = true)
    (second : Spelling.before b c = true) : Spelling.before a c = true := by
  rw [before_iff] at *
  rcases first with longer | ⟨level, first⟩
  · rcases second with longer' | ⟨level', -⟩
    · exact .inl (by omega)
    · exact .inl (by omega)
  · rcases second with longer' | ⟨level', second⟩
    · exact .inl (by omega)
    · exact .inr ⟨by omega, precedes_trans first second⟩

/-- Of two spellings, one is tried before the other. -/
theorem before_total (a b : Spelling) :
    (Spelling.before a b || Spelling.before b a) = true := by
  rw [Bool.or_eq_true, before_iff, before_iff]
  rcases Nat.lt_trichotomy a.letters.length b.letters.length with longer | level | longer
  · exact .inr (.inl longer)
  · rcases precedes_total a.letters b.letters with first | first
    · exact .inl (.inr ⟨level, first⟩)
    · exact .inr (.inr ⟨level.symm, first⟩)
  · exact .inl (.inl longer)

theorem listed_of_before {a b : Spelling} (before : Spelling.before a b = true)
    (different : a.letters ≠ b.letters) : Listed a b := by
  rcases (before_iff a b).mp before with longer | ⟨level, first⟩
  · exact .inl longer
  · rcases (precedes_iff a.letters b.letters).mp first with same | first
    · exact absurd same different
    · exact .inr ⟨level, first⟩

/-- The spellings of a system are those of its file, in the order in which they are tried. -/
theorem spellings_of_compiled {entries : List (String × String)} {spellings : List Spelling}
    (distinct : (entries.map Prod.fst).Nodup)
    (compiled : SoundSystem.compileSpellings entries = .ok spellings) :
    spellings.Perm (entries.map fun entry => ⟨entry.1.toList, entry.2⟩) ∧
      (∀ spelling ∈ spellings, spelling.letters ≠ []) ∧
      (spellings.map Spelling.letters).Nodup ∧ spellings.Pairwise Listed := by
  rw [SoundSystem.compileSpellings] at compiled
  split at compiled
  · cases compiled
  · rename_i inhabited
    cases compiled
    have same := List.mergeSort_perm
      (entries.map fun entry => (⟨entry.1.toList, entry.2⟩ : Spelling)) Spelling.before
    have nodup : (((entries.map fun entry => (⟨entry.1.toList, entry.2⟩ : Spelling)).mergeSort
        Spelling.before).map Spelling.letters).Nodup := by
      rw [(same.map _).nodup_iff, List.map_map]
      have texts : (entries.map (Spelling.letters ∘ fun entry => ⟨entry.1.toList, entry.2⟩)) =
          (entries.map Prod.fst).map String.toList := by simp
      rw [texts]
      exact (List.nodup_map_iff fun a b => String.toList_inj.mp).mpr distinct
    refine ⟨same, ?_, nodup, ?_⟩
    · intro spelling member
      obtain ⟨entry, found, rfl⟩ := List.mem_map.mp (same.mem_iff.mp member)
      intro empty
      refine inhabited (List.any_eq_true.mpr ⟨entry, found, ?_⟩)
      simpa using empty
    · have ordered := List.pairwise_mergeSort before_trans before_total
        (entries.map fun entry => (⟨entry.1.toList, entry.2⟩ : Spelling))
      exact (ordered.and (List.pairwise_map.mp nodup)).imp
        fun both => listed_of_before both.1 both.2

/-! Classes. -/

/-- Only one capital by itself names a class. -/
theorem classLetter?_eq_some_iff {name : String} {c : Char} :
    SoundSystem.classLetter? name = some c ↔
      name = String.singleton c ∧ Unicode.Property.isUppercase c = true := by
  rw [← String.toList_inj, String.toList_singleton, SoundSystem.classLetter?]
  rcases name.toList with _ | ⟨letter, _ | ⟨_, _⟩⟩
  · simp
  · simp only [Option.ite_none_right_eq_some, Option.some.injEq, List.cons.injEq, and_true]
    constructor
    · rintro ⟨capital, rfl⟩
      exact ⟨rfl, capital⟩
    · rintro ⟨rfl, capital⟩
      exact ⟨capital, rfl⟩
  · simp

/-- A class is named by one capital, and has letters. -/
theorem compileClass_ok_iff {weights : Dictionary Float} {entry : String × List String}
    {compiled : Char × List Letter} :
    SoundSystem.compileClass weights entry = .ok compiled ↔
      entry.1 = String.singleton compiled.1 ∧ Unicode.Property.isUppercase compiled.1 = true ∧
        entry.2 ≠ [] ∧ compiled.2 = SoundSystem.lettersOf weights entry.2 := by
  obtain ⟨letterClass, letters⟩ := compiled
  rw [SoundSystem.compileClass, ← and_assoc, ← classLetter?_eq_some_iff]
  cases SoundSystem.classLetter? entry.1 with
  | none => simp
  | some letter =>
    by_cases empty : entry.2 = []
    · simp [empty]
    · simp [empty, eq_comm (a := letters)]

theorem texts_lettersOf (weights : Dictionary Float) (texts : List String) :
    (SoundSystem.lettersOf weights texts).map Letter.text = texts := by
  rw [SoundSystem.lettersOf, List.map_map]
  exact List.zipIdx_map_fst 0 texts

/-! What a rule file makes. -/

variable {file : RuleFile} {draws : Random.Draws} {system : SoundSystem}

/-- The classes of a system are those of its file, with weights. -/
theorem class_of_compiled (compiled : Compiled file draws system) {letterClass : Char}
    {letters : List Letter} (member : (letterClass, letters) ∈ system.classes) :
    ∃ texts, file.classes.find? (String.singleton letterClass) = some texts ∧ texts ≠ [] ∧
      letters = SoundSystem.lettersOf file.weights texts := by
  obtain ⟨⟨name, texts⟩, found, made⟩ :=
    exists_value_of_image (mapM_ok_iff.mp compiled.classes) member
  obtain ⟨rfl, -, inhabited, same⟩ := compileClass_ok_iff.mp made
  exact ⟨texts, file.classes.find?_eq_some_iff.mpr found, inhabited, same⟩

theorem nodup_of_compiled (compiled : Compiled file draws system) :
    (system.classes.map Prod.fst).Nodup := by
  have names : file.classes.entries.map Prod.fst =
      (system.classes.map Prod.fst).map String.singleton := by
    rw [List.map_map, ← List.forall₂_eq_eq_eq, List.forall₂_map_left_iff,
      List.forall₂_map_right_iff]
    exact (mapM_ok_iff.mp compiled.classes).imp fun _ _ made => (compileClass_ok_iff.mp made).1
  exact List.Nodup.of_map _ (names ▸ file.classes.distinct)

/-- The patterns of a system are those of its file. -/
theorem pattern_of_compiled (compiled : Compiled file draws system) {slots : List Slot}
    (member : slots ∈ system.syllables) :
    ∃ pattern ∈ file.syllables,
      SoundSystem.compileSyllable system.classes pattern = .ok slots :=
  exists_value_of_image (mapM_ok_iff.mp compiled.syllables) member

/-- A system that was compiled is well formed. -/
theorem wellFormed_of_compiled (compiled : Compiled file draws system) : WellFormed system := by
  obtain ⟨-, spelled, distinct, sorted⟩ :=
    spellings_of_compiled file.ipa.distinct compiled.spellings
  refine ⟨nodup_of_compiled compiled, ?_, ?_, ?_, spelled, distinct, sorted⟩
  · rintro ⟨letterClass, letters⟩ member empty
    obtain ⟨texts, -, inhabited, rfl⟩ := class_of_compiled compiled member
    have none_left := congrArg (List.map Letter.text) empty
    rw [texts_lettersOf] at none_left
    exact inhabited none_left
  · intro slots member
    obtain ⟨pattern, -, made⟩ := pattern_of_compiled compiled member
    exact (written_of_compileSyllable made).2
  · intro slots member
    obtain ⟨pattern, -, made⟩ := pattern_of_compiled compiled member
    exact class_of_compileSyllable made

/-! What operations keep. -/

theorem WellFormed.withDraws (ready : WellFormed system) (left : Random.Draws) :
    WellFormed { system with draws := left } :=
  { ready with }

/-- A released system has no syllables that could be wrong. -/
theorem WellFormed.release (ready : WellFormed system) : WellFormed system.release :=
  { ready with
    patterned := fun _ member => absurd member List.not_mem_nil
    defined := fun _ member => absurd member List.not_mem_nil }

theorem WellFormed.perform (ready : WellFormed system) (operation : Operation) :
    WellFormed (perform draws system operation).2 := by
  cases operation with
  | generate count repartition => rw [perform_generate]; exact ready.withDraws _
  | release => exact ready.release
  | apply words => rw [perform_steady rfl (by simp)]; exact ready
  | pronounce word => rw [perform_steady rfl (by simp)]; exact ready
  | ruleNames => rw [perform_steady rfl (by simp)]; exact ready
  | tabulate words result => rw [perform_steady rfl (by simp)]; exact ready

theorem WellFormed.stateAfter (ready : WellFormed system) (operations : List Operation) :
    WellFormed (stateAfter draws system operations) := by
  induction operations generalizing system with
  | nil => exact ready
  | cons operation operations ih => exact ih (ready.perform operation)

/-- The rules stay in their order until they are dropped. -/
theorem rules_stateAfter (draws : Random.Draws) (system : SoundSystem)
    (operations : List Operation) :
    (Operations.stateAfter draws system operations).rules =
      if .release ∈ operations then [] else system.rules := by
  obtain ⟨left, after⟩ := stateAfter_eq draws system operations
  rw [after]
  split <;> rfl

/-- Classes and spellings stay for good. -/
theorem stateAfter_keeps (draws : Random.Draws) (system : SoundSystem)
    (operations : List Operation) :
    (Operations.stateAfter draws system operations).classes = system.classes ∧
      (Operations.stateAfter draws system operations).spellings = system.spellings := by
  obtain ⟨left, after⟩ := stateAfter_eq draws system operations
  rw [after]
  split <;> exact ⟨rfl, rfl⟩

end SoundChange.WellFormedSystems
