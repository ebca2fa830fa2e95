import SoundChange.Proofs.Drawings
import SoundChange.Proofs.WellFormedSystems

/-! Words that are drawn. Every letter of a word comes from a class whose weights can be drawn from,
every syllable follows a pattern of the system, and the number of syllables is one that the
repartition permits. Words that came before and empty words are dropped. -/
namespace SoundChange.DrawnWords
open Drawings Footprints Operations RuleFiles SyllablePatterns WellFormedSystems

/-- A letter of a class that can be drawn from. -/
def Drawable (classes : List (Char × List Letter)) (letterClass : Char) (letter : String) : Prop :=
  ∃ letters weights, (letterClass, letters) ∈ classes ∧
    Random.Weights.ofList (letters.map Letter.weight) = .ok weights ∧
    letter ∈ letters.map Letter.text

/-- How drawing letters for some slots can end without a word: the weights of a class are refused, or
the draws do not suffice. -/
def Refused (classes : List (Char × List Letter)) (slots : List Slot) :
    GenerationFault → Random.Draws → Prop
  | .weights letterClass fault, _ => ∃ slot ∈ slots, slot.letterClass = letterClass ∧
      ∃ letters, (letterClass, letters) ∈ classes ∧ letters ≠ [] ∧
        Random.Weights.ofList (letters.map Letter.weight) = .error fault
  | .exhausted, left => Dry left
  | _, _ => False

/-- The numbers of syllables that a word may have. -/
def Permits : Repartition → Nat → Prop
  | .always, count => count = 1
  | .never, count => 2 ≤ count ∧ count ≤ 5
  | _, count => 1 ≤ count ∧ count ≤ 5

/-- A word of as many syllables as the repartition permits. -/
def MadeOf (isSyllable : String → Prop) (repartition : Repartition) (word : Word) : Prop :=
  ∃ syllables : List String, word = String.join syllables ∧
    (∀ syllable ∈ syllables, isSyllable syllable) ∧ Permits repartition syllables.length

/-- Words of some syllables are words of any more syllables. -/
theorem MadeOf.mono {isSyllable isSyllable' : String → Prop} {repartition : Repartition}
    {word : Word} (more : ∀ syllable, isSyllable syllable → isSyllable' syllable)
    (made : MadeOf isSyllable repartition word) : MadeOf isSyllable' repartition word := by
  obtain ⟨syllables, same, each, permitted⟩ := made
  exact ⟨syllables, same, fun syllable member => more syllable (each syllable member), permitted⟩

/-! Syllables. -/

section Syllables
variable {classes : List (Char × List Letter)} {slots : List Slot}

theorem ends_drawLetter {slot : Slot} (used : slot ∈ slots) {letters : List Letter}
    (listed : (slot.letterClass, letters) ∈ classes) (inhabited : letters ≠ []) :
    Ends (SoundSystem.drawLetter slot.letterClass letters) (Drawable classes slot.letterClass)
      (Refused classes slots) := by
  rw [SoundSystem.drawLetter]
  cases weighed : Random.Weights.ofList (letters.map Letter.weight) with
  | error fault =>
    exact ends_fail fun _ => ⟨slot, used, rfl, letters, listed, inhabited, weighed⟩
  | ok weights =>
    refine ends_bind (ends_pair fun _ => id) fun draw _ => ?_
    have inside : weights.index draw < letters.length := by
      simpa using index_lt weighed draw
    rw [List.getElem?_eq_getElem inside]
    exact ends_pure ⟨letters, weights, listed, weighed,
      List.mem_map_of_mem (List.getElem_mem inside)⟩

/-- A class that has letters is found under its letter. -/
theorem find?_of_defined {letterClass : Char}
    (defined : ∃ letters, (letterClass, letters) ∈ classes) :
    ∃ letters, classes.find? (·.1 == letterClass) = some (letterClass, letters) := by
  obtain ⟨letters, listed⟩ := defined
  cases found : classes.find? (·.1 == letterClass) with
  | none => exact absurd (List.find?_eq_none.mp found _ listed) (by simp)
  | some entry =>
    obtain ⟨letterClass', letters'⟩ := entry
    obtain rfl : letterClass' = letterClass := by simpa using List.find?_some found
    exact ⟨letters', rfl⟩

variable (lettered : ∀ entry ∈ classes, entry.2 ≠ [])
include lettered

theorem ends_drawSlot {slot : Slot} (used : slot ∈ slots)
    (defined : ∃ letters, (slot.letterClass, letters) ∈ classes) :
    Ends (SoundSystem.drawSlot classes slot)
      (fun text => Drawable classes slot.letterClass text ∨ slot.optional = true ∧ text = "")
      (Refused classes slots) := by
  obtain ⟨letters, found⟩ := find?_of_defined defined
  have listed := List.mem_of_find?_eq_some found
  have filled := ends_drawLetter used listed (lettered _ listed)
  simp only [SoundSystem.drawSlot, found]
  split
  · rename_i optional
    refine ends_bind (ends_coin fun _ => id) fun fill _ => ?_
    split
    · exact filled.imp (fun _ => .inl) fun _ _ => id
    · exact ends_pure (.inr ⟨optional, rfl⟩)
  · exact filled.imp (fun _ => .inl) fun _ _ => id

theorem ends_drawSlots {row : List Slot} (used : ∀ slot ∈ row, slot ∈ slots)
    (defined : ∀ slot ∈ row, ∃ letters, (slot.letterClass, letters) ∈ classes) :
    Ends (SoundSystem.drawSlots classes row) (Fills (Drawable classes) row)
      (Refused classes slots) := by
  induction row with
  | nil => exact ends_pure .nil
  | cons slot row ih =>
    rw [List.forall_mem_cons] at used defined
    refine ends_bind (ends_drawSlot lettered used.1 defined.1) fun first fits => ?_
    refine ends_bind (ih used.2 defined.2) fun others rest => ends_pure ?_
    rcases fits with fits | ⟨optional, rfl⟩
    · exact .filled fits rest
    · rw [String.empty_append]
      exact .leftOut optional rest

end Syllables

/-! Words. -/

/-- A count of patterns stops with at least the chance that it has for the longest lists. -/
theorem threshold_syllableDrop (count : Nat) :
    Random.threshold 0.12 ≤ Random.threshold (SoundSystem.syllableDrop count) := by
  by_cases few : count < 9
  · have each : ∀ n < 9,
        Random.threshold 0.12 ≤ Random.threshold (SoundSystem.syllableDrop n) := by decide
    exact each count few
  · have last : SoundSystem.syllableDrop count = 0.12 := if_neg few
    exact Nat.le_of_eq (congrArg Random.threshold last.symm)

/-- No fraction reaches the share of a repartition that makes nothing but monosyllables. -/
theorem threshold_always : Random.threshold Repartition.always.share = Random.fractions := by
  decide

/-- Every fraction reaches the share of a repartition that makes no monosyllables. -/
theorem threshold_never : Random.threshold Repartition.never.share = 0 := by
  decide

theorem drawSyllableCount_always :
    SoundSystem.drawSyllableCount Repartition.always.share = pure 1 := by
  simp only [SoundSystem.drawSyllableCount]
  exact if_neg (threshold_always ▸ Nat.lt_irrefl _)

/-- The number of syllables is one that the repartition permits. -/
theorem ends_drawSyllableCount (repartition : Repartition)
    {faults : GenerationFault → Random.Draws → Prop}
    (dry : ∀ left, Dry left → faults .exhausted left) :
    Ends (SoundSystem.drawSyllableCount repartition.share) (Permits repartition) faults := by
  have extra : Ends (Drawing.powerLaw .extra SoundSystem.extraSyllables 0.5)
      (fun extra => extra < 4) faults := ends_powerLaw dry (by decide) (by decide)
  have several : ∀ extra < 4, repartition ≠ .always → Permits repartition (2 + extra) := by
    intro extra few other
    cases repartition with
    | always => exact absurd rfl other
    | _ => exact ⟨by omega, by omega⟩
  have one : repartition ≠ .never → Permits repartition 1 := by
    intro other
    cases repartition with
    | always => rfl
    | never => exact absurd rfl other
    | _ => exact ⟨by omega, by omega⟩
  simp only [SoundSystem.drawSyllableCount]
  split
  · rename_i below
    have other : repartition ≠ .always := by
      rintro rfl
      exact absurd threshold_always (Nat.ne_of_lt below)
    refine ends_bind (ends_fraction dry) fun fraction _ => ?_
    split
    · exact ends_bind extra fun extra few => ends_pure (several extra few other)
    · rename_i low
      refine ends_pure (one ?_)
      rintro rfl
      exact low (threshold_never ▸ Nat.zero_le fraction)
  · rename_i above
    refine ends_pure (one ?_)
    rintro rfl
    exact above (threshold_never ▸ by decide)

section Words
variable {classes : List (Char × List Letter)} {syllables : List (List Slot)}
  (lettered : ∀ entry ∈ classes, entry.2 ≠ [])
  (defined : ∀ slots ∈ syllables, ∀ slot ∈ slots, ∃ letters, (slot.letterClass, letters) ∈ classes)
  (inhabited : syllables ≠ [])

/-- A text that follows one of some patterns. -/
def Follows (classes : List (Char × List Letter)) (syllables : List (List Slot))
    (text : String) : Prop :=
  ∃ slots ∈ syllables, Fills (Drawable classes) slots text

include lettered defined inhabited

theorem ends_drawSyllable :
    Ends (SoundSystem.drawSyllable classes syllables) (Follows classes syllables)
      (Refused classes syllables.flatten) := by
  refine ends_bind (ends_powerLaw (fun _ => id) (List.length_pos_of_ne_nil inhabited)
    (threshold_syllableDrop _)) fun index inside => ?_
  rw [List.getElem?_eq_getElem inside]
  have member := List.getElem_mem inside
  refine (ends_drawSlots lettered (fun slot used => ?_) (defined _ member)).imp
    (fun text fills => ⟨_, member, fills⟩) fun _ _ => id
  exact List.mem_flatten.mpr ⟨_, member, used⟩

theorem ends_drawSyllables (count : Nat) :
    Ends (SoundSystem.drawSyllables classes syllables count)
      (fun word => ∃ parts : List String, word = String.join parts ∧
        (∀ part ∈ parts, Follows classes syllables part) ∧ parts.length = count)
      (Refused classes syllables.flatten) := by
  induction count with
  | zero => exact ends_pure ⟨[], rfl, by simp, rfl⟩
  | succ count ih =>
    refine ends_bind (ends_drawSyllable lettered defined inhabited) fun first follows => ?_
    refine ends_bind ih fun others made => ends_pure ?_
    obtain ⟨parts, rfl, each, rfl⟩ := made
    exact ⟨first :: parts, String.join_cons.symm, List.forall_mem_cons.mpr ⟨follows, each⟩, rfl⟩

theorem ends_drawWord (repartition : Repartition) :
    Ends (SoundSystem.drawWord classes syllables repartition.share)
      (MadeOf (Follows classes syllables) repartition)
      (Refused classes syllables.flatten) := by
  refine ends_bind (ends_drawSyllableCount repartition fun _ => id) fun count permitted => ?_
  refine (ends_drawSyllables lettered defined inhabited count).imp (fun word made => ?_) fun _ _ => id
  obtain ⟨parts, same, each, rfl⟩ := made
  exact ⟨parts, same, each, permitted⟩

/-- As many words are drawn as were asked for, each made as the repartition permits. -/
theorem ends_drawWords (repartition : Repartition) (count : Nat) :
    Ends (SoundSystem.drawWords classes syllables repartition.share count)
      (fun words => words.length = count ∧
        ∀ word ∈ words, MadeOf (Follows classes syllables) repartition word)
      (Refused classes syllables.flatten) := by
  induction count with
  | zero => exact ends_pure ⟨rfl, by simp⟩
  | succ count ih =>
    refine ends_bind (ends_drawWord lettered defined inhabited repartition) fun first made => ?_
    refine ends_bind ih fun others rest => ends_pure ?_
    exact ⟨congrArg (· + 1) rest.1, List.forall_mem_cons.mpr ⟨made, rest.2⟩⟩

end Words

/-! Dropping empty and repeated words. -/

theorem distinctFrom_sublist (seen : Std.HashSet Word) (words : List Word) :
    (SoundSystem.distinctFrom seen words).Sublist words := by
  fun_induction SoundSystem.distinctFrom seen words with
  | case1 => exact .slnil
  | case2 seen word words dropped ih => exact ih.cons word
  | case3 seen word words kept ih => exact ih.cons_cons word

/-- A word that is kept is not empty and was not seen before. -/
theorem of_mem_distinctFrom {seen : Std.HashSet Word} {words : List Word} {word : Word}
    (member : word ∈ SoundSystem.distinctFrom seen words) :
    word ≠ "" ∧ seen.contains word = false := by
  fun_induction SoundSystem.distinctFrom seen words with
  | case1 => cases member
  | case2 seen first words dropped ih => exact ih member
  | case3 seen first words kept ih =>
    rcases List.mem_cons.mp member with rfl | member
    · simpa using kept
    · have rest := ih member
      simp only [Std.HashSet.contains_insert, Bool.or_eq_false_iff] at rest
      exact ⟨rest.1, rest.2.2⟩

theorem nodup_distinctFrom (seen : Std.HashSet Word) (words : List Word) :
    (SoundSystem.distinctFrom seen words).Nodup := by
  fun_induction SoundSystem.distinctFrom seen words with
  | case1 => exact .nil
  | case2 seen word words dropped ih => exact ih
  | case3 seen word words kept ih =>
    refine List.nodup_cons.mpr ⟨fun again => ?_, ih⟩
    simpa using (of_mem_distinctFrom again).2

/-! Whole generations. -/

section Generations
variable {file : RuleFile} {draws : Random.Draws} {system : SoundSystem} {count : Nat}
  {repartition : Repartition} {words : List Word}

/-- A generation answers exactly if the system is live and has syllables, the draws succeed, and some
word is kept of them. The draws are all that it changes. -/
theorem generate_eq_ok_iff {after : SoundSystem} :
    system.generate count repartition = (.ok words, after) ↔
      system.released = false ∧ system.syllables ≠ [] ∧ words ≠ [] ∧
        ∃ drawn, (drawing system repartition count).answer = .ok drawn ∧
          words = SoundSystem.distinct drawn ∧
          after = { system with draws := (drawing system repartition count).state } := by
  simp only [SoundSystem.generate, Prod.mk.injEq]
  constructor
  · rintro ⟨answered, rfl⟩
    cases live : system.released with
    | true => rw [invent_of_released live] at answered; cases answered
    | false =>
      by_cases inhabited : system.syllables = []
      · rw [invent_of_bare live inhabited] at answered
        cases answered
      · rw [invent_of_live live inhabited] at answered ⊢
        obtain ⟨drawn, ran, answered⟩ := Sequencing.bind_ok_iff.mp answered
        obtain ⟨same, some_⟩ := kept_ok_iff.mp answered
        exact ⟨rfl, inhabited, some_, drawn, ran, same, rfl⟩
  · rintro ⟨live, inhabited, some_, drawn, ran, same, rfl⟩
    rw [invent_of_live live inhabited, ran]
    exact ⟨kept_ok_iff.mpr ⟨same, some_⟩, rfl⟩

/-- The words of a generation, in terms of the system that they were drawn from. -/
theorem of_generate_ok (ready : WellFormed system)
    (answered : (system.generate count repartition).1 = .ok words) :
    words ≠ [] ∧ words.length ≤ count ∧ "" ∉ words ∧ words.Nodup ∧
      ∀ word ∈ words, MadeOf (Follows system.classes system.syllables) repartition word := by
  obtain ⟨-, inhabited, some_, drawn, ran, rfl, -⟩ :=
    generate_eq_ok_iff.mp (Prod.ext answered rfl)
  rw [drawing] at ran
  have ended := ends_drawWords ready.lettered ready.defined inhabited repartition count system.draws
  rw [ran] at ended
  obtain ⟨rfl, made⟩ := ended
  have kept := distinctFrom_sublist ∅ drawn
  refine ⟨some_, kept.length_le, ?_, nodup_distinctFrom ∅ drawn, ?_⟩
  · exact fun empty => (of_mem_distinctFrom empty).1 rfl
  · exact fun word member => made word (kept.subset member)

/-- A letter that a rule file lists for a class. -/
def LetterOf (file : RuleFile) (letterClass : Char) (letter : String) : Prop :=
  ∃ letters, file.classes.find? (String.singleton letterClass) = some letters ∧ letter ∈ letters

/-- A text that follows one of the patterns of a rule file. -/
def SyllableOf (file : RuleFile) (text : String) : Prop :=
  ∃ pattern ∈ file.syllables, ∃ slots, Written pattern.toList slots ∧
    Fills (LetterOf file) slots text

theorem letterOf_of_drawable (compiled : Compiled file draws system) {letterClass : Char}
    {letter : String} (drawable : Drawable system.classes letterClass letter) :
    LetterOf file letterClass letter := by
  obtain ⟨letters, weights, listed, -, member⟩ := drawable
  obtain ⟨texts, found, -, rfl⟩ := class_of_compiled compiled listed
  exact ⟨texts, found, by rwa [texts_lettersOf] at member⟩

/-- A syllable that follows a pattern of a system follows one of its file. -/
theorem syllableOf_of_follows (compiled : Compiled file draws system) {text : String}
    (follows : Follows system.classes system.syllables text) : SyllableOf file text := by
  obtain ⟨slots, member, fills⟩ := follows
  obtain ⟨pattern, listed, made⟩ := pattern_of_compiled compiled member
  refine ⟨pattern, listed, slots, (written_of_compileSyllable made).1, ?_⟩
  exact fills.mono fun _ _ _ drawable => letterOf_of_drawable compiled drawable

/-- Whatever is drawn, the words that a generation answers are some but no more than were asked for,
none is empty and none comes twice, and each is a row of syllables that follow patterns of the file,
as many as the repartition permits. -/
theorem generated_words_follow_patterns
    (compiled : SoundSystem.ofFile file draws = .ok system)
    (answered : (system.generate count repartition).1 = .ok words) :
    words ≠ [] ∧ words.length ≤ count ∧ "" ∉ words ∧ words.Nodup ∧
      ∀ word ∈ words, MadeOf (SyllableOf file) repartition word := by
  have parts := ofFile_ok_iff.mp compiled
  obtain ⟨some_, few, inhabited, distinct, made⟩ :=
    of_generate_ok (wellFormed_of_compiled parts) answered
  refine ⟨some_, few, inhabited, distinct, fun word member => ?_⟩
  exact (made word member).mono fun _ => syllableOf_of_follows parts

/-- Draws that each fall on the first choice. -/
def lowDraws : Random.Draws := .ofList (List.replicate 24 0)

/-- Asked for two words and no monosyllables, the small file makes the same word twice of these
draws. -/
theorem generate_voicedSystem (rule : Rule) :
    ((voicedSystem rule lowDraws).generate 2 .never).1 = .ok ["tata"] := by
  have drawn : (SoundSystem.drawWords voicedClasses [[⟨'C', false⟩, ⟨'V', false⟩]]
      Repartition.never.share 2 lowDraws).answer = .ok ["tata", "tata"] := by decide +kernel
  have once : SoundSystem.distinct ["tata", "tata"] = ["tata"] := by
    have inhabited : "tata".isEmpty = false := rfl
    simp [SoundSystem.distinct, SoundSystem.distinctFrom, inhabited]
  have kept : Footprints.kept ["tata", "tata"] = .ok ["tata"] :=
    kept_ok_iff.mpr ⟨once.symm, List.cons_ne_nil _ _⟩
  rw [SoundSystem.generate, invent_of_live rfl (List.cons_ne_nil _ _), ← kept]
  exact congrArg (Except.bind · Footprints.kept) drawn

theorem generated_word_follows_pattern :
    ∃ system, SoundSystem.ofFile voicedFile lowDraws = .ok system ∧
      (system.generate 2 .never).1 = .ok ["tata"] ∧
      ∀ word ∈ ["tata"], MadeOf (SyllableOf voicedFile) .never word := by
  obtain ⟨rule, compiled⟩ := voicedFile_compiled
  have answered := generate_voicedSystem rule
  obtain ⟨-, -, -, -, made⟩ := generated_words_follow_patterns (compiled lowDraws) answered
  exact ⟨_, compiled lowDraws, answered, made⟩

end Generations

end SoundChange.DrawnWords
