import SoundChange.Proofs.RuleCourse
import SoundChange.Proofs.Sessions

/-! Running an accepted rule file over given words. The run never breaks the contract of the history
table; it succeeds exactly when no rule empties a word and every final form has a pronunciation, and
then the table shows, word by word and rule by rule, whether the rule left the form it received. -/
namespace SoundChange.GivenWords
open Reconciliation Sequencing Tabulation RuleCourse RuleFiles Sessions

theorem compileRule_name {entry : RuleEntry} {rule : Rule}
    (compiled : SoundSystem.compileRule entry = .ok rule) : rule.name = entry.name := by
  rw [SoundSystem.compileRule] at compiled
  split at compiled
  · cases compiled
    rfl
  · cases compiled

theorem ruleNames_eq {entries : List RuleEntry} {rules : List Rule}
    (compiled : List.Forall₂ (fun entry rule => SoundSystem.compileRule entry = .ok rule) entries
      rules) : rules.map Rule.name = entries.map RuleEntry.name := by
  induction compiled with
  | nil => rfl
  | cons first _ rest => rw [List.map_cons, List.map_cons, compileRule_name first, rest]

variable {draws : Random.Draws} {system : SoundSystem} {words : List Word}

theorem answer_follow_ok_iff (live : system.released = false) (generation : Generation) :
    ((SoundSystem.engine draws).follow words system).answer = .ok generation ↔
      Survive system.rules words ∧ ∃ sounds,
        List.Forall₂ (fun form sound => system.pronounce form = .ok sound)
          (words.map (formUnder system.rules)) sounds ∧
        generation = ⟨words, course system.rules words,
          assembled words (course system.rules words) sounds⟩ := by
  have aligned := course_aligned system.rules words
  simp only [Engine.follow, answer_bind_ok_iff, run_applyRules live, mapError_ok_iff,
    applyRules_ok_iff, answer_finish_ok_iff, tabulate_ok_iff, pronounced_iff]
  constructor
  · rintro ⟨_, ⟨survive, rfl⟩, table, ⟨_, sounds, pronounced, rfl⟩, rfl⟩
    rw [output_course] at pronounced
    exact ⟨survive, sounds, pronounced, rfl⟩
  · rintro ⟨survive, sounds, pronounced, rfl⟩
    rw [← output_course] at pronounced
    exact ⟨_, ⟨survive, rfl⟩, _, ⟨aligned, sounds, pronounced, rfl⟩, rfl⟩

/-- Rules that ran line up with their words, so no fault is one of the contract. -/
theorem answer_follow_ne_contract (live : system.released = false) (fault : ContractFault) :
    ((SoundSystem.engine draws).follow words system).answer ≠ .error (.contract fault) := by
  intro failed
  rw [Engine.follow] at failed
  cases ran : applyRules system.rules words with
  | error report =>
    rw [run_bind_error (f := .engine (.transformation report.message))] at failed
    · cases failed
    · rw [run_applyRules live, ran]
      rfl
  | ok result =>
    obtain ⟨_, rfl⟩ := (applyRules_ok_iff _ _ _).mp ran
    rw [run_bind_ok (v := course system.rules words), run_applyRules live] at failed
    · rw [answer_finish_error_iff, tabulate_contract_iff] at failed
      exact (course_aligned system.rules words).not_misaligned fault failed
    · rw [run_applyRules live, ran]
      rfl

/-- The row of a word: the word, a cell for each rule, its final form, and how that is pronounced. The
cell of a rule compares the form that it received with what it made of it. -/
def RowOf (rules : List Rule) (word : Word) (sound : String) (row : List Cell) : Prop :=
  row.length = rules.length + 3 ∧ row[0]? = some (.word word) ∧
    (∀ (step : Nat) (rule : Rule), rules[step]? = some rule →
      let received := formUnder (rules.take step) word
      row[step + 1]? = some
        (if rule.apply received = received then .unchanged else .changed (rule.apply received))) ∧
    row[rules.length + 1]? = some (.final (formUnder rules word)) ∧
    row[rules.length + 2]? = some (.ipa sound)

theorem rowOf_course {rules : List Rule} {index : Nat} {word : Word} (sound : String)
    (wordAt : words[index]? = some word) :
    RowOf rules word sound
      (Table.cellsOf word
        ⟨wordStates word (formsOf (course rules words).history index), formUnder rules word⟩
        sound) := by
  have bound := (List.getElem?_eq_some_iff.mp wordAt).1
  have inside := (course_aligned rules words).inside bound
  have width : (wordStates word (formsOf (course rules words).history index)).length =
      rules.length := by
    rw [length_wordStates, length_formsOf inside, length_history_course]
  refine ⟨?_, rfl, ?_, ?_, ?_⟩
  · rw [length_cellsOf, width]
  · intro step rule ruleAt
    have stateAt : (wordStates word (formsOf (course rules words).history index))[step]? =
        some ⟨rule.apply (formUnder (rules.take step) word),
          formUnder (rules.take step) word != rule.apply (formUnder (rules.take step) word)⟩ := by
      refine (getElem?_wordStates _ _ _ _).mpr ⟨?_, formUnder (rules.take step) word, ?_, rfl⟩
      · rw [getElem?_formsOf inside, formAfter?_course ruleAt wordAt, formUnder_take_succ ruleAt]
      · rw [getElem?_cons_formsOf inside wordAt, formBefore?_course ruleAt wordAt]
    rw [getElem?_cellsOf_step stateAt, Cell.ofState]
    by_cases same : rule.apply (formUnder (rules.take step) word) = formUnder (rules.take step) word
    · simp [same]
    · simp [same, ne_comm.mp same]
  · rw [← width]
    exact getElem?_cellsOf_end _ _ _ 0
  · rw [← width]
    exact getElem?_cellsOf_end _ _ _ 1

/-- The table of given words has one row for each of them, and each row shows its word under every
rule. -/
theorem rows_of_course {rules : List Rule} {system : SoundSystem} {sounds : List String}
    (pronounced : List.Forall₂ (fun form sound => system.pronounce form = .ok sound)
      (words.map (formUnder rules)) sounds) :
    List.Forall₂
      (fun word row => ∃ sound, system.pronounce (formUnder rules word) = .ok sound ∧
        RowOf rules word sound row)
      words (assembled words (course rules words) sounds).rows := by
  have aligned := course_aligned rules words
  have level : sounds.length = (course rules words).output.length := by
    rw [output_course, pronounced.length_eq]
  apply forall₂_of_getElem? (length_assembled_rows aligned level).symm
  intro index word row wordAt rowAt
  obtain ⟨word', final, sound, wordAt', finalAt, soundAt, rfl⟩ :=
    (getElem?_assembled_rows sounds index row).mp rowAt
  obtain rfl := Option.some.inj (wordAt.symm.trans wordAt')
  have formAt : (words.map (formUnder rules))[index]? = some (formUnder rules word) := by
    rw [List.getElem?_map, wordAt, Option.map_some]
  rw [output_course, formAt, Option.some.injEq] at finalAt
  subst finalAt
  exact ⟨sound, related_of_getElem? pronounced formAt soundAt, rowOf_course sound wordAt⟩

/-- Running the rules of an accepted file over given words. No fault is one of the contract. The run
succeeds exactly when no rule empties a word and every final form has a pronunciation. Then the
headings are the names of the rules in the order of the file between `Words` and `Final`, `IPA`, and
row by row the table shows each word, what each rule made of the form that it received, the final
form and its pronunciation. -/
theorem runOnWords_shows_every_rule (words : List Word) {source : String}
    (accepted : (SoundSystem.engine draws).parse source = .ok system) :
    let run := (SoundSystem.engine draws).runOnWords source words
    (∃ file, RuleFile.ofText source = .ok file ∧
      List.Forall₂ (fun entry rule => SoundSystem.compileRule entry = .ok rule) file.rules
        system.rules ∧
      ∀ generation, run.answer = .ok generation →
        generation.table.headings = "Words" :: (file.rules.map RuleEntry.name ++ ["Final", "IPA"])) ∧
      (∀ fault, run.answer ≠ .error (.contract fault)) ∧
      ((∃ generation, run.answer = .ok generation) ↔
        Survive system.rules words ∧
          ∀ word ∈ words, ∃ sound, system.pronounce (formUnder system.rules word) = .ok sound) ∧
      ∀ generation, run.answer = .ok generation →
        generation.words = words ∧
          List.Forall₂
            (fun word row => ∃ sound, system.pronounce (formUnder system.rules word) = .ok sound ∧
              RowOf system.rules word sound row)
            words generation.table.rows := by
  obtain ⟨file, read, compiled⟩ := parse_ok accepted
  obtain ⟨inOrder, live⟩ := ofFile_ok compiled
  have answers : ((SoundSystem.engine draws).runOnWords source words).answer =
      ((SoundSystem.engine draws).follow words system).answer := answer_withSystem accepted _
  simp only [answers, answer_follow_ok_iff live]
  refine ⟨⟨file, read, inOrder, ?_⟩, answer_follow_ne_contract live, ?_, ?_⟩
  · rintro _ ⟨_, sounds, _, rfl⟩
    rw [← ruleNames_eq inOrder, ← rules_course system.rules words]
    rfl
  · constructor
    · rintro ⟨_, survive, sounds, pronounced, _⟩
      refine ⟨survive, fun word member => ?_⟩
      exact exists_images_iff.mp ⟨sounds, pronounced⟩ _ (List.mem_map_of_mem member)
    · rintro ⟨survive, each⟩
      have eachForm : ∀ form ∈ words.map (formUnder system.rules), ∃ sound,
          system.pronounce form = .ok sound := by
        intro form member
        obtain ⟨word, inside, rfl⟩ := List.mem_map.mp member
        exact each word inside
      obtain ⟨sounds, pronounced⟩ := exists_images_iff.mpr eachForm
      exact ⟨_, survive, sounds, pronounced, rfl⟩
  · rintro _ ⟨_, sounds, pronounced, rfl⟩
    exact ⟨rfl, rows_of_course pronounced⟩

/-- A rule file with one rule and nothing else. -/
def lenitionFile : String :=
  "[[rules]]\nname = \"lenition\"\npattern = \"t\"\nreplacement = \"d\"\n"

/-- One rule, run over a word that it changes and a word that it leaves, with the table that comes of
it. -/
theorem runOnWords_shows_lenition :
    ∃ system generation, (SoundSystem.engine (.ofList [])).parse lenitionFile = .ok system ∧
      ((SoundSystem.engine (.ofList [])).runOnWords lenitionFile ["tata", "ada"]).answer =
        .ok generation ∧
      generation.table.headings = ["Words", "lenition", "Final", "IPA"] ∧
      generation.table.rows =
        [[.word "tata", .changed "dada", .final "dada", .ipa "dada"],
          [.word "ada", .unchanged, .final "ada", .ipa "ada"]] ∧
      Survive system.rules ["tata", "ada"] ∧
      List.Forall₂
        (fun word row => ∃ sound, system.pronounce (formUnder system.rules word) = .ok sound ∧
          RowOf system.rules word sound row)
        ["tata", "ada"] generation.table.rows := by
  have accepts :
      ((SoundSystem.engine (.ofList [])).parse lenitionFile).toOption.isSome = true := by decide +kernel
  have answers :
      (((SoundSystem.engine (.ofList [])).runOnWords lenitionFile
        ["tata", "ada"]).answer.toOption.map fun generation => generation.table) =
        some ⟨["Words", "lenition", "Final", "IPA"],
          [[.word "tata", .changed "dada", .final "dada", .ipa "dada"],
            [.word "ada", .unchanged, .final "ada", .ipa "ada"]]⟩ := by decide +kernel
  cases accepted : (SoundSystem.engine (.ofList [])).parse lenitionFile with
  | error fault => rw [accepted] at accepts; cases accepts
  | ok system =>
    obtain ⟨_, _, succeeds, rows⟩ := runOnWords_shows_every_rule ["tata", "ada"] accepted
    cases answered : ((SoundSystem.engine (.ofList [])).runOnWords lenitionFile
        ["tata", "ada"]).answer with
    | error fault => rw [answered] at answers; cases answers
    | ok generation =>
      rw [answered] at answers
      have table := Option.some.inj answers
      exact ⟨system, generation, rfl, rfl, congrArg Table.headings table,
        congrArg Table.rows table, (succeeds.mp ⟨generation, answered⟩).1,
        (rows generation answered).2⟩

end SoundChange.GivenWords
