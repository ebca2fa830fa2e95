import SoundChange.SoundSystem.Compile

/-! Syllable patterns, from the text of a rule file to the syllables that follow them. A pattern is a
row of class letters, each with any number of marks behind it; a slot may be left out when its letter
is marked. A syllable follows a pattern when it has one letter for every slot, in order, but for the
slots that are left out. -/
namespace SoundChange.SyllablePatterns

/-- How a row of slots is written. -/
inductive Written : List Char → List Slot → Prop
  | nil : Written [] []
  | cons {letterClass : Char} {text : List Char} {slots : List Slot} (marks : Nat)
      (letter : letterClass ≠ '?') (rest : Written text slots) :
      Written (letterClass :: (List.replicate marks '?' ++ text))
        (⟨letterClass, decide (0 < marks)⟩ :: slots)

/-- The text of class letters with a number of marks behind each. -/
def spelled (letters : List (Char × Nat)) : List Char :=
  letters.flatMap fun letter => letter.1 :: List.replicate letter.2 '?'

/-- One slot for each letter, which may be left out if there is a mark behind the letter. -/
def slotsOf (letters : List (Char × Nat)) : List Slot :=
  letters.map fun letter => ⟨letter.1, decide (0 < letter.2)⟩

/-- How a row of slots is filled, given the letters of each class. -/
inductive Fills (letterOf : Char → String → Prop) : List Slot → String → Prop
  | nil : Fills letterOf [] ""
  | filled {slot : Slot} {slots : List Slot} {letter text : String}
      (fits : letterOf slot.letterClass letter) (rest : Fills letterOf slots text) :
      Fills letterOf (slot :: slots) (letter ++ text)
  | leftOut {slot : Slot} {slots : List Slot} {text : String}
      (optional : slot.optional = true) (rest : Fills letterOf slots text) :
      Fills letterOf (slot :: slots) text

theorem Fills.mono {letterOf letterOf' : Char → String → Prop} {slots : List Slot} {text : String}
    (more : ∀ slot ∈ slots, ∀ letter, letterOf slot.letterClass letter →
      letterOf' slot.letterClass letter)
    (fills : Fills letterOf slots text) : Fills letterOf' slots text := by
  induction fills with
  | nil => exact .nil
  | filled fits rest ih =>
    exact .filled (more _ List.mem_cons_self _ fits)
      (ih fun slot member => more slot (List.mem_cons_of_mem _ member))
  | leftOut optional rest ih =>
    exact .leftOut optional (ih fun slot member => more slot (List.mem_cons_of_mem _ member))

/-! Writing patterns. -/

theorem spelled_cons (letter : Char × Nat) (letters : List (Char × Nat)) :
    spelled (letter :: letters) = letter.1 :: (List.replicate letter.2 '?' ++ spelled letters) := by
  simp [spelled]

/-- Letters with marks behind them are how their slots are written. -/
theorem written_spelled {letters : List (Char × Nat)} (others : ∀ letter ∈ letters, letter.1 ≠ '?') :
    Written (spelled letters) (slotsOf letters) := by
  induction letters with
  | nil => exact .nil
  | cons letter letters ih =>
    obtain ⟨other, others⟩ := List.forall_mem_cons.mp others
    rw [spelled_cons]
    exact .cons letter.2 other (ih others)

/-! Reading patterns. -/

variable {defined : Char → Bool} {syllable : String} {slots : List Slot}

theorem slotsFrom_leadingMark (text : List Char) :
    SoundSystem.slotsFrom defined syllable [] ('?' :: text) = .error (.leadingMark syllable) := rfl

theorem slotsFrom_mark (latest : Slot) (earlier : List Slot) (text : List Char) :
    SoundSystem.slotsFrom defined syllable (latest :: earlier) ('?' :: text) =
      SoundSystem.slotsFrom defined syllable (⟨latest.letterClass, true⟩ :: earlier) text := rfl

theorem slotsFrom_letter {c : Char} (letter : c ≠ '?') (read : List Slot) (text : List Char) :
    SoundSystem.slotsFrom defined syllable read (c :: text) =
      if defined c then SoundSystem.slotsFrom defined syllable (⟨c, false⟩ :: read) text
      else .error (.undefinedClass syllable c) := by
  cases read <;> rw [SoundSystem.slotsFrom, if_neg letter]

theorem slotsFrom_end {read : List Slot} (some_ : read ≠ []) :
    SoundSystem.slotsFrom defined syllable read [] = .ok read.reverse := by
  cases read with
  | nil => exact absurd rfl some_
  | cons latest earlier => rfl

/-- Marks make the slot before them optional, and one mark does what any number of them does. -/
theorem slotsFrom_marks (latest : Slot) (earlier : List Slot) (marks : Nat) (text : List Char) :
    SoundSystem.slotsFrom defined syllable (latest :: earlier) (List.replicate marks '?' ++ text) =
      SoundSystem.slotsFrom defined syllable
        (⟨latest.letterClass, latest.optional || decide (0 < marks)⟩ :: earlier) text := by
  induction marks generalizing latest with
  | zero => simp
  | succ marks ih => simp [List.replicate_succ, slotsFrom_mark, ih]

/-- Letters that are defined become slots, whatever was read before them and whatever follows. -/
theorem slotsFrom_spelled {letters : List (Char × Nat)}
    (known : ∀ letter ∈ letters, letter.1 ≠ '?' ∧ defined letter.1 = true) (read : List Slot)
    (text : List Char) :
    SoundSystem.slotsFrom defined syllable read (spelled letters ++ text) =
      SoundSystem.slotsFrom defined syllable ((slotsOf letters).reverse ++ read) text := by
  induction letters generalizing read with
  | nil => rfl
  | cons letter letters ih =>
    obtain ⟨⟨other, isDefined⟩, known⟩ := List.forall_mem_cons.mp known
    rw [spelled_cons, List.cons_append, List.append_assoc, slotsFrom_letter other, if_pos isDefined,
      slotsFrom_marks, ih known]
    simp [slotsOf]

/-- Every text goes as far as it can be read: marks, then defined letters, and what is left of it
starts with a character that is neither. -/
theorem exists_spelled (defined : Char → Bool) (text : List Char) :
    ∃ marks letters rest, text = List.replicate marks '?' ++ (spelled letters ++ rest) ∧
      (∀ letter ∈ letters, letter.1 ≠ '?' ∧ defined letter.1 = true) ∧
      ∀ c ∈ rest.head?, c ≠ '?' ∧ defined c = false := by
  induction text with
  | nil => exact ⟨0, [], [], rfl, by simp, by simp⟩
  | cons c text ih =>
    obtain ⟨marks, letters, rest, rfl, known, stops⟩ := ih
    by_cases mark : c = '?'
    · subst mark
      exact ⟨marks + 1, letters, rest, rfl, known, stops⟩
    · cases isDefined : defined c with
      | true =>
        refine ⟨0, (c, marks) :: letters, rest, ?_, ?_, stops⟩
        · simp [spelled_cons]
        · exact List.forall_mem_cons.mpr ⟨⟨mark, isDefined⟩, known⟩
      | false => exact ⟨0, [], _, rfl, by simp, by simp [mark, isDefined]⟩

variable {classes : List (Char × List Letter)}

/-- How a text is read over some classes: as letters with marks behind them, or not at all, and then
the character that comes first of those that cannot be read decides on the fault. -/
inductive Reads (classes : List (Char × List Letter)) (syllable : String) :
    Except CompileFault (List Slot) → Prop
  | slots {letters : List (Char × Nat)} (some_ : letters ≠ [])
      (known : ∀ letter ∈ letters, letter.1 ≠ '?' ∧ letter.1 ∈ classes.map Prod.fst)
      (text : syllable.toList = spelled letters) : Reads classes syllable (.ok (slotsOf letters))
  | nothing (text : syllable.toList = []) : Reads classes syllable (.error .emptySyllable)
  | leadingMark {rest : List Char} (text : syllable.toList = '?' :: rest) :
      Reads classes syllable (.error (.leadingMark syllable))
  | undefined {letters : List (Char × Nat)} {c : Char} {rest : List Char}
      (known : ∀ letter ∈ letters, letter.1 ≠ '?' ∧ letter.1 ∈ classes.map Prod.fst)
      (other : c ≠ '?') (unknown : c ∉ classes.map Prod.fst)
      (text : syllable.toList = spelled letters ++ c :: rest) :
      Reads classes syllable (.error (.undefinedClass syllable c))

theorem defined_iff (c : Char) : classes.any (·.1 == c) = true ↔ c ∈ classes.map Prod.fst := by
  simp [List.any_eq_true, List.mem_map]

theorem compileSyllable_of_reads {outcome : Except CompileFault (List Slot)}
    (reads : Reads classes syllable outcome) :
    SoundSystem.compileSyllable classes syllable = outcome := by
  rw [SoundSystem.compileSyllable]
  cases reads with
  | nothing text => rw [text]; rfl
  | leadingMark text => rw [text, slotsFrom_leadingMark]
  | @slots letters some_ known text =>
    simp only [← defined_iff] at known
    rw [text, ← List.append_nil (spelled letters), slotsFrom_spelled known, List.append_nil]
    have inhabited : (slotsOf letters).reverse ≠ [] := by simpa [slotsOf] using some_
    rw [slotsFrom_end inhabited, List.reverse_reverse]
  | undefined known other unknown text =>
    simp only [← defined_iff] at known unknown
    rw [text, slotsFrom_spelled known, slotsFrom_letter other, if_neg unknown]

/-- Every text is read in one of these ways, so this is how it is read. -/
theorem compileSyllable_eq_iff {outcome : Except CompileFault (List Slot)} :
    SoundSystem.compileSyllable classes syllable = outcome ↔ Reads classes syllable outcome := by
  refine ⟨?_, compileSyllable_of_reads⟩
  rintro rfl
  suffices ∃ outcome, Reads classes syllable outcome by
    obtain ⟨outcome, reads⟩ := this
    rwa [compileSyllable_of_reads reads]
  obtain ⟨marks, letters, rest, text, known, stops⟩ :=
    exists_spelled (fun c => classes.any (·.1 == c)) syllable.toList
  simp only [defined_iff] at known
  cases marks with
  | succ marks => exact ⟨_, .leadingMark text⟩
  | zero =>
    cases rest with
    | cons c rest =>
      obtain ⟨other, unknown⟩ := stops c rfl
      rw [← Bool.not_eq_true, defined_iff] at unknown
      exact ⟨_, .undefined known other unknown text⟩
    | nil =>
      have whole : syllable.toList = spelled letters := by simpa using text
      by_cases some_ : letters = []
      · exact ⟨_, .nothing (by rw [whole, some_]; rfl)⟩
      · exact ⟨_, .slots some_ known whole⟩

/-- A pattern is read as the slots that it is written for; there is at least one. -/
theorem written_of_compileSyllable
    (compiled : SoundSystem.compileSyllable classes syllable = .ok slots) :
    Written syllable.toList slots ∧ slots ≠ [] := by
  cases compileSyllable_eq_iff.mp compiled with
  | slots some_ known text =>
    rw [text]
    exact ⟨written_spelled fun letter member => (known letter member).1, by simpa [slotsOf] using some_⟩

/-- Every slot of a pattern takes its letters from a class that there is. -/
theorem class_of_compileSyllable
    (compiled : SoundSystem.compileSyllable classes syllable = .ok slots) :
    ∀ slot ∈ slots, ∃ letters, (slot.letterClass, letters) ∈ classes := by
  cases compileSyllable_eq_iff.mp compiled with
  | slots some_ known text =>
    intro slot member
    obtain ⟨letter, spelt, rfl⟩ := List.mem_map.mp member
    obtain ⟨⟨letterClass, letters⟩, listed, same⟩ := List.mem_map.mp (known letter spelt).2
    exact ⟨letters, by rwa [← same]⟩

end SoundChange.SyllablePatterns
