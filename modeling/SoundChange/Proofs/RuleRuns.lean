import SoundChange.SoundSystem.Engine
import SoundChange.Proofs.RuleCourse
import SoundChange.Proofs.Sequencing

/-! Runs of rules, failed ones included. A run fails for the first rule that erases a word, and of the
words that this rule erases it names the first. Rules can be run in two parts, the second part on what
the first one left, and words in two lists: neither way changes what comes of any word. -/
namespace SoundChange.RuleRuns
open RuleCourse Sequencing

variable {rules : List Rule} {words : List Word}

/-! The first word that is erased. -/

/-- This rule erases this word, rules before it erase no word at all, and it erases no word before
this one. -/
structure ErasesFirst (rules : List Rule) (words : List Word) (step index : Nat) (rule : Rule)
    (word : Word) : Prop where
  ruleAt : rules[step]? = some rule
  wordAt : words[index]? = some word
  erased : formUnder (rules.take (step + 1)) word = ""
  rulesBefore : ∀ earlier < step, ∀ other ∈ words, formUnder (rules.take (earlier + 1)) other ≠ ""
  wordsBefore : ∀ other ∈ words.take index, formUnder (rules.take (step + 1)) other ≠ ""

/-- A first erased word is found at its place. -/
theorem erased_of_firstErased? {rule : Rule} {word : Word}
    (found : firstErased? words (words.map rule.apply) = some word) :
    ∃ index, words[index]? = some word ∧ rule.apply word = "" ∧
      ∀ other ∈ words.take index, rule.apply other ≠ "" := by
  induction words with
  | nil => simp [firstErased?] at found
  | cons first others ih =>
    rw [List.map_cons, firstErased?] at found
    by_cases erased : rule.apply first = ""
    · have here : first = word := by simpa [erased] using found
      subst here
      exact ⟨0, rfl, erased, by simp⟩
    · have later : firstErased? others (others.map rule.apply) = some word := by
        simpa [erased] using found
      obtain ⟨index, wordAt, emptied, before⟩ := ih later
      refine ⟨index + 1, wordAt, emptied, ?_⟩
      intro other member
      rw [List.take_succ_cons] at member
      rcases List.mem_cons.mp member with rfl | member
      · exact erased
      · exact before other member

/-- What is erased first by the rules behind one that erases nothing is erased first by all of them. -/
theorem ErasesFirst.cons {first rule : Rule} {step index : Nat} {form word : Word}
    (erases : ErasesFirst rules (words.map first.apply) step index rule form)
    (spared : ∀ other ∈ words, first.apply other ≠ "") (wordAt : words[index]? = some word) :
    ErasesFirst (first :: rules) words (step + 1) index rule word := by
  have formAt : first.apply word = form := by
    have found := erases.wordAt
    rw [List.getElem?_map, wordAt] at found
    exact Option.some.inj found
  subst formAt
  refine ⟨erases.ruleAt, wordAt, erases.erased, ?_, ?_⟩
  · intro earlier bound other member
    cases earlier with
    | zero => exact spared other member
    | succ earlier =>
      exact erases.rulesBefore earlier (by omega) _ (List.mem_map_of_mem member)
  · intro other member
    apply erases.wordsBefore
    rw [← List.map_take]
    exact List.mem_map_of_mem member

/-- A run that fails blames the first rule that erases a word, and the first word that it erases. -/
theorem erasesFirst_of_error {fault : TransformationFault}
    (failed : applyRules rules words = .error fault) :
    ∃ step index rule word, ErasesFirst rules words step index rule word ∧
      fault = .erased rule.name (formUnder (rules.take step) word) := by
  induction rules generalizing words with
  | nil => simp [applyRules] at failed
  | cons first rules ih =>
    rw [applyRules] at failed
    cases found : firstErased? words (words.map first.apply) with
    | some word =>
      obtain ⟨index, wordAt, erased, before⟩ := erased_of_firstErased? found
      have blamed : fault = .erased first.name word := by simpa [found, eq_comm] using failed
      have none : ∀ earlier < 0, ∀ other ∈ words,
          formUnder ((first :: rules).take (earlier + 1)) other ≠ "" := by simp
      exact ⟨0, index, first, word, ⟨rfl, wordAt, erased, none, before⟩, blamed⟩
    | none =>
      have spared := (firstErased?_eq_none_iff first words).mp found
      cases rest : applyRules rules (words.map first.apply) with
      | ok result => simp [found, rest] at failed
      | error report =>
        have same : report = fault := by simpa [found, rest] using failed
        subst same
        obtain ⟨step, index, rule, form, erases, blamed⟩ := ih rest
        have formAt := erases.wordAt
        rw [List.getElem?_map, Option.map_eq_some_iff] at formAt
        obtain ⟨word, wordAt, rfl⟩ := formAt
        exact ⟨step + 1, index, rule, word, erases.cons spared wordAt, blamed⟩

/-- There is only one rule and one word that come first. -/
theorem ErasesFirst.unique {step step' index index' : Nat} {rule rule' : Rule} {word word' : Word}
    (erases : ErasesFirst rules words step index rule word)
    (erases' : ErasesFirst rules words step' index' rule' word') :
    step = step' ∧ rule = rule' ∧ word = word' := by
  have steps : step = step' := by
    rcases Nat.lt_trichotomy step step' with before | same | after
    · exact absurd erases.erased
        (erases'.rulesBefore step before word (List.mem_of_getElem? erases.wordAt))
    · exact same
    · exact absurd erases'.erased
        (erases.rulesBefore step' after word' (List.mem_of_getElem? erases'.wordAt))
  subst steps
  have sameRule : rule = rule' := Option.some.inj (erases.ruleAt.symm.trans erases'.ruleAt)
  have places : index = index' := by
    have among {place bound : Nat} {form : Word} (formAt : words[place]? = some form)
        (before : place < bound) : form ∈ words.take bound :=
      List.mem_of_getElem? (by rw [List.getElem?_take_of_lt before, formAt])
    rcases Nat.lt_trichotomy index index' with before | same | after
    · exact absurd erases.erased (erases'.wordsBefore word (among erases.wordAt before))
    · exact same
    · exact absurd erases'.erased (erases.wordsBefore word' (among erases'.wordAt after))
  subst places
  exact ⟨rfl, sameRule, Option.some.inj (erases.wordAt.symm.trans erases'.wordAt)⟩

/-- A run fails exactly for the first rule and the first word. -/
theorem applyRules_error_iff {fault : TransformationFault} :
    applyRules rules words = .error fault ↔
      ∃ step index rule word, ErasesFirst rules words step index rule word ∧
        fault = .erased rule.name (formUnder (rules.take step) word) := by
  constructor
  · exact erasesFirst_of_error
  · rintro ⟨step, index, rule, word, erases, rfl⟩
    cases outcome : applyRules rules words with
    | ok result =>
      have survive := ((applyRules_ok_iff rules words result).mp outcome).1
      have bound := (List.getElem?_eq_some_iff.mp erases.ruleAt).1
      exact absurd erases.erased
        (survive word (List.mem_of_getElem? erases.wordAt) step bound)
    | error report =>
      obtain ⟨step', index', rule', word', erases', rfl⟩ := erasesFirst_of_error outcome
      obtain ⟨rfl, rfl, rfl⟩ := erases.unique erases'
      rfl

/-- Some word does not survive exactly if a run fails. -/
theorem exists_error_iff :
    (∃ fault, applyRules rules words = .error fault) ↔ ¬ Survive rules words := by
  cases outcome : applyRules rules words with
  | ok result => simp [((applyRules_ok_iff rules words result).mp outcome).1]
  | error report =>
    have stops : ¬ Survive rules words := by
      intro survive
      have ran := (applyRules_ok_iff rules words _).mpr ⟨survive, rfl⟩
      rw [ran] at outcome
      cases outcome
    simp [stops]

/-! Rules in two parts. -/

/-- One transformation, then another one of what it put out. -/
def andThen (earlier later : Transformation) : Transformation :=
  ⟨earlier.history ++ later.history, later.output⟩

/-- The second part of the rules runs on what the first part left. -/
theorem applyRules_append (first second : List Rule) (words : List Word) :
    applyRules (first ++ second) words =
      (applyRules first words).bind fun earlier =>
        (applyRules second earlier.output).map (andThen earlier) := by
  induction first generalizing words with
  | nil =>
    rw [List.nil_append, applyRules]
    cases ran : applyRules second words with
    | error fault => simp [Except.bind, Transformation.untouched, ran, Except.map]
    | ok later => simp [Except.bind, Transformation.untouched, ran, Except.map, andThen]
  | cons rule first ih =>
    rw [List.cons_append, applyRules, applyRules]
    cases firstErased? words (words.map rule.apply) with
    | some word => rfl
    | none =>
      simp only [ih]
      cases applyRules first (words.map rule.apply) with
      | error fault => rfl
      | ok earlier =>
        cases ran : applyRules second earlier.output with
        | error fault => simp [Except.bind, Except.map, ran]
        | ok later => simp [Except.bind, Except.map, ran, andThen]

/-! Words in two lists. -/

/-- Two transformations by the same rules, the words of the second one behind those of the first. -/
def beside (left right : Transformation) : Transformation where
  history := List.zipWith (fun step other => ⟨step.rule, step.words ++ other.words⟩) left.history
    right.history
  output := left.output ++ right.output

theorem survive_append (others : List Word) :
    Survive rules (words ++ others) ↔ Survive rules words ∧ Survive rules others := by
  simp only [Survive, List.mem_append]
  constructor
  · intro survive
    exact ⟨fun word member => survive word (.inl member),
      fun word member => survive word (.inr member)⟩
  · rintro ⟨left, right⟩ word (member | member)
    · exact left word member
    · exact right word member

theorem course_append (words others : List Word) :
    course rules (words ++ others) = beside (course rules words) (course rules others) := by
  induction rules generalizing words others with
  | nil => rfl
  | cons rule rules ih =>
    have rest := ih (words.map rule.apply) (others.map rule.apply)
    simp only [course, List.map_append, rest, beside, List.zipWith_cons_cons]

/-- Lists of words run side by side. -/
theorem applyRules_words_append_iff (others : List Word) (result : Transformation) :
    applyRules rules (words ++ others) = .ok result ↔
      ∃ left right, applyRules rules words = .ok left ∧ applyRules rules others = .ok right ∧
        result = beside left right := by
  simp only [applyRules_ok_iff, survive_append, course_append]
  constructor
  · rintro ⟨⟨left, right⟩, rfl⟩
    exact ⟨_, _, ⟨left, rfl⟩, ⟨right, rfl⟩, rfl⟩
  · rintro ⟨_, _, ⟨left, rfl⟩, ⟨right, rfl⟩, rfl⟩
    exact ⟨⟨left, right⟩, rfl⟩

/-! Live systems. -/

/-- A live system runs its rules. -/
theorem apply_of_live (draws : Random.Draws) {system : SoundSystem}
    (live : system.released = false) (words : List Word) :
    ((SoundSystem.engine draws).apply words system).1 =
      (applyRules system.rules words).mapError fun fault => .transformation fault.message := by
  have ran : system.apply words = applyRules system.rules words := by
    simp [SoundSystem.apply, live]
  rw [← ran]
  rfl

/-- Rules of a live system over words. The run fails exactly when some word is empty after some rule.
The fault then names the first rule after which any word is empty, and quotes the form that the first
such word had just before that rule. A run that does not fail holds, for each rule, the form of every
word under the rules up to it. Rules split anywhere come to the same, faults included, when the second
part runs on what the first part put out. Words in two lists run exactly as the lists run side by
side. -/
theorem rules_run_on_each_word (draws : Random.Draws) (system : SoundSystem) (words : List Word)
    (live : system.released = false) :
    let outcome (words : List Word) := ((SoundSystem.engine draws).apply words system).1
    ((∃ fault, outcome words = .error fault) ↔
      ∃ word ∈ words, ∃ step < system.rules.length,
        formUnder (system.rules.take (step + 1)) word = "") ∧
    (∀ fault, outcome words = .error fault ↔
      ∃ step index rule word, ErasesFirst system.rules words step index rule word ∧
        fault = .transformation ("Rule '" ++ rule.name ++ "' erased the word '" ++
          formUnder (system.rules.take step) word ++ "'")) ∧
    (∀ result, outcome words = .ok result →
      result.output = words.map (formUnder system.rules) ∧
        result.history.length = system.rules.length ∧
        ∀ (step : Nat) (rule : Rule), system.rules[step]? = some rule →
          result.history[step]? =
            some ⟨rule.name, words.map (formUnder (system.rules.take (step + 1)))⟩) ∧
    (∀ first second, system.rules = first ++ second →
      outcome words =
        (((SoundSystem.engine draws).apply words { system with rules := first }).1).bind
          fun earlier =>
            (((SoundSystem.engine draws).apply earlier.output
              { system with rules := second }).1).map (andThen earlier)) ∧
    ∀ others result, outcome (words ++ others) = .ok result ↔
      ∃ left right, outcome words = .ok left ∧ outcome others = .ok right ∧
        result = beside left right := by
  intro outcome
  have ran (words : List Word) : outcome words =
      (applyRules system.rules words).mapError fun fault => .transformation fault.message :=
    apply_of_live draws live words
  simp only [ran]
  refine ⟨?_, ?_, ?_, ?_, ?_⟩
  · have fails : (∃ fault, (applyRules system.rules words).mapError
        (fun fault => EngineFault.transformation fault.message) = .error fault) ↔
        ∃ fault, applyRules system.rules words = .error fault := by
      cases applyRules system.rules words <;> simp [Except.mapError]
    rw [fails, exists_error_iff]
    simp [Survive]
  · intro fault
    rw [mapError_error_iff]
    constructor
    · rintro ⟨report, failed, rfl⟩
      obtain ⟨step, index, rule, word, erases, rfl⟩ := applyRules_error_iff.mp failed
      exact ⟨step, index, rule, word, erases, rfl⟩
    · rintro ⟨step, index, rule, word, erases, rfl⟩
      exact ⟨_, applyRules_error_iff.mpr ⟨step, index, rule, word, erases, rfl⟩, rfl⟩
  · intro result answered
    obtain ⟨-, rfl⟩ := (applyRules_ok_iff _ _ _).mp (mapError_ok_iff.mp answered)
    refine ⟨output_course _ _, length_history_course _ _, ?_⟩
    intro step rule ruleAt
    rw [getElem?_history_course, ruleAt, Option.map_some]
  · intro first second split
    have part (rules : List Rule) (words : List Word) :
        ((SoundSystem.engine draws).apply words { system with rules := rules }).1 =
          (applyRules rules words).mapError fun fault => .transformation fault.message := by
      have still : { system with rules := rules }.released = false := live
      exact apply_of_live draws still words
    simp only [split, applyRules_append, mapError_bind, mapError_map, part]
  · intro others result
    simp only [mapError_ok_iff, applyRules_words_append_iff]

/-- A rule file with one rule, which erases a vowel. -/
def droppingFile : String :=
  "[[rules]]\nname = \"drop\"\npattern = \"a\"\n"

/-- The second word has nothing but the vowel. -/
theorem dropped_vowel_is_quoted :
    ∃ system, (SoundSystem.engine (.ofList [])).parse droppingFile = .ok system ∧
      system.released = false ∧
      ((SoundSystem.engine (.ofList [])).apply ["ta", "a"] system).1 =
        .error (.transformation "Rule 'drop' erased the word 'a'") ∧
      ∃ step index rule word, ErasesFirst system.rules ["ta", "a"] step index rule word ∧
        EngineFault.transformation "Rule 'drop' erased the word 'a'" =
          .transformation ("Rule '" ++ rule.name ++ "' erased the word '" ++
            formUnder (system.rules.take step) word ++ "'") := by
  have outcomes :
      (((SoundSystem.engine (.ofList [])).parse droppingFile).toOption.map fun system =>
        (system.released, ((SoundSystem.engine (.ofList [])).apply ["ta", "a"] system).1)) =
        some (false, .error (.transformation "Rule 'drop' erased the word 'a'")) := by decide +kernel
  cases accepted : (SoundSystem.engine (.ofList [])).parse droppingFile with
  | error fault => rw [accepted] at outcomes; cases outcomes
  | ok system =>
    rw [accepted] at outcomes
    obtain ⟨live, failed⟩ := Prod.mk.inj (Option.some.inj outcomes)
    obtain ⟨-, named, -⟩ := rules_run_on_each_word (.ofList []) system ["ta", "a"] live
    exact ⟨system, rfl, live, failed, (named _).mp failed⟩

end SoundChange.RuleRuns
