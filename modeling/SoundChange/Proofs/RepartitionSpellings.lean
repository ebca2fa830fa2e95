import SoundChange.Request

/-! Spellings of repartitions. A repartition is meant to be spelled by its label or by the snake case of its
label, in any case and with blanks around it. These spellings are all accepted. But spellings are compared
without their underscores, so a spelling with underscores in other places is accepted as well; nothing
else is. -/
namespace SoundChange.RepartitionSpellings
open Text

/-- Texts that differ at most in the case of ASCII letters. -/
def SameLetters (first second : List Char) : Prop :=
  first.map Char.toLower = second.map Char.toLower

instance (first second : List Char) : Decidable (SameLetters first second) :=
  inferInstanceAs (Decidable (_ = _))

/-- A label in lower case, with an underscore before every word but the first. A capital starts a word. -/
def snakeCase : List Char → List Char
  | [] => []
  | c :: rest => c.toLower :: rest.flatMap fun d => if d.isUpper then ['_', d.toLower] else [d]

example : snakeCase Repartition.lessFrequent.label.toList = "less_frequent".toList := by decide

/-- The spellings that are meant for a repartition. -/
def Spells (spelling : List Char) (repartition : Repartition) : Prop :=
  SameLetters spelling repartition.label.toList ∨
    SameLetters spelling (snakeCase repartition.label.toList)

instance (spelling : List Char) (repartition : Repartition) : Decidable (Spells spelling repartition) :=
  inferInstanceAs (Decidable (_ ∨ _))

def withoutUnderscores (text : List Char) : List Char :=
  text.filter (· != '_')

/-- The letters of a label with underscores where neither the label nor its snake case has them. -/
structure Strays (spelling : List Char) (repartition : Repartition) : Prop where
  underscored : '_' ∈ spelling
  letters : SameLetters (withoutUnderscores spelling) repartition.label.toList
  elsewhere : ¬ Spells spelling repartition

/-! Letters and underscores. -/

theorem toLower_eq_underscore_iff (c : Char) : c.toLower = '_' ↔ c = '_' := by
  constructor
  · intro lowered
    by_cases capital : c.val ≥ 'A'.val ∧ c.val ≤ 'Z'.val
    · -- A capital becomes a small letter, and these all come behind the underscore.
      have small : c.toLower.val = c.val + ('a'.val - 'A'.val) := congrArg Char.val (dif_pos capital)
      have low : 65 ≤ c.val.toNat := UInt32.le_iff_toNat_le.mp capital.1
      have high : c.val.toNat ≤ 90 := UInt32.le_iff_toNat_le.mp capital.2
      have sum : (c.val + ('a'.val - 'A'.val)).toNat = 95 := by
        rw [← small, lowered]
        rfl
      have difference : ('a'.val - 'A'.val).toNat = 32 := by decide
      rw [UInt32.toNat_add, difference] at sum
      omega
    · have same : c.toLower = c := dif_neg capital
      exact same.symm.trans lowered
  · rintro rfl
    rfl

theorem map_toLower_withoutUnderscores (text : List Char) :
    (withoutUnderscores text).map Char.toLower = withoutUnderscores (text.map Char.toLower) := by
  rw [withoutUnderscores, withoutUnderscores, List.filter_map]
  congr 2
  funext c
  exact Bool.eq_iff_iff.mpr (by simp [toLower_eq_underscore_iff])

theorem withoutUnderscores_eq_self {text : List Char} (absent : '_' ∉ text) :
    withoutUnderscores text = text :=
  List.filter_eq_self.mpr fun c member => by
    have other : c ≠ '_' := fun same => absent (same ▸ member)
    simpa using other

/-- Every spelling that is meant for a repartition has the letters of its label. -/
theorem letters_of_spells {spelling : List Char} {repartition : Repartition}
    (spells : Spells spelling repartition) :
    SameLetters (withoutUnderscores spelling) repartition.label.toList := by
  rw [SameLetters, map_toLower_withoutUnderscores]
  rcases spells with label | snake
  · rw [label]
    cases repartition <;> decide
  · rw [snake]
    cases repartition <;> decide

/-! Reading. -/

/-- A spelling is read by its letters alone: blanks around it and underscores anywhere do not
matter. -/
theorem ofSpelling?_eq_some_iff (spelling : String) (repartition : Repartition) :
    Repartition.ofSpelling? spelling = some repartition ↔
      SameLetters (withoutUnderscores (trim spelling.toList)) repartition.label.toList := by
  have folds : Repartition.folded (trim spelling.toList) =
      (withoutUnderscores (trim spelling.toList)).map Char.toLower := rfl
  rw [Repartition.ofSpelling?, folds, SameLetters]
  constructor
  · intro found
    have same := List.find?_some found
    exact (beq_iff_eq.mp same).symm
  · intro same
    rw [same]
    cases repartition <;> decide

theorem ofSpelling?_iff (spelling : String) (repartition : Repartition) :
    Repartition.ofSpelling? spelling = some repartition ↔
      Spells (trim spelling.toList) repartition ∨ Strays (trim spelling.toList) repartition := by
  rw [ofSpelling?_eq_some_iff]
  constructor
  · intro letters
    by_cases spells : Spells (trim spelling.toList) repartition
    · exact .inl spells
    · have underscored : '_' ∈ trim spelling.toList := by
        apply Classical.byContradiction
        intro absent
        rw [withoutUnderscores_eq_self absent] at letters
        exact spells (.inl letters)
      exact .inr ⟨underscored, letters, spells⟩
  · rintro (spells | strays)
    · exact letters_of_spells spells
    · exact strays.letters

theorem ofSpelling?_ofLabel? {label : String} {repartition : Repartition}
    (named : Repartition.ofLabel? label = some repartition) :
    Repartition.ofSpelling? label = some repartition := by
  have same : repartition.label = label := by simpa using List.find?_some named
  rw [← same]
  cases repartition <;> decide

/-- A spelling is read as a repartition exactly if, without the blanks around it, it is the label or the
snake case of the label in any case, or has the letters of the label with underscores elsewhere. Any other
spelling is refused as it was typed. Every label is also a spelling. -/
theorem spellings_read_without_underscores (spelling : String) :
    (∀ repartition, readRepartition spelling = .ok repartition ↔
      Spells (trim spelling.toList) repartition ∨ Strays (trim spelling.toList) repartition) ∧
    (∀ fault, readRepartition spelling = .error fault ↔
      fault = .unknownRepartition spelling ∧ ∀ repartition,
        ¬ Spells (trim spelling.toList) repartition ∧ ¬ Strays (trim spelling.toList) repartition) ∧
    ∀ repartition, Repartition.ofLabel? spelling = some repartition →
      readRepartition spelling = .ok repartition := by
  have read_ok (repartition : Repartition) : readRepartition spelling = .ok repartition ↔
      Repartition.ofSpelling? spelling = some repartition := by
    rw [readRepartition]
    cases Repartition.ofSpelling? spelling <;> simp
  have read_error (fault : InputFault) : readRepartition spelling = .error fault ↔
      fault = .unknownRepartition spelling ∧
        ∀ repartition, Repartition.ofSpelling? spelling ≠ some repartition := by
    rw [readRepartition]
    cases Repartition.ofSpelling? spelling <;> simp [eq_comm]
  refine ⟨?_, ?_, ?_⟩
  · intro repartition
    rw [read_ok, ofSpelling?_iff]
  · intro fault
    rw [read_error]
    simp only [ne_eq, ofSpelling?_iff, not_or]
  · intro repartition named
    exact (read_ok repartition).mpr (ofSpelling?_ofLabel? named)

/-- Not only the spellings that are meant for a repartition are read: underscores may also stand around it. -/
theorem framed_spelling_read :
    ¬ ∀ spelling repartition, readRepartition spelling = .ok repartition ↔
      Spells (trim spelling.toList) repartition := by
  intro claimed
  have meant : Spells (trim "_never_".toList) .never := (claimed "_never_" .never).mp rfl
  exact absurd meant (by decide)

end SoundChange.RepartitionSpellings
