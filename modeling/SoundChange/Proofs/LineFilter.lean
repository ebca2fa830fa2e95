import SoundChange.Proofs.GivenWords
import SoundChange.Proofs.SettingsGate
import SoundChange.Proofs.WordLists

/-! Rules as a filter of lines. A batch run over given words in the plain format reads lines and writes
lines: for every line that is more than blanks, in order, the form of the word on it after all rules, and
nothing else. Only where there is no such line does it write one, an empty one. -/
namespace SoundChange.LineFilter
open BatchRuns BatchStages FileFootprints LineBreaks RuleCourse RuleFiles Sequencing Sessions SettingsGate
open WordLists GivenWords

/-- The bytes that words are read from: those of a file, or the input. -/
def bytesIn (world : World) : Option String → Except IoFault (List UInt8)
  | some path => world.files.read path
  | none => .ok world.input

/-- What it takes to run the rules of a file over the words on the lines of a text: the file holds rules
that are accepted, the text is well-formed, no rule empties a word, and every final form can be
pronounced. -/
structure Filters (draws : Random.Draws) (world : World) (rules : String) (source : Option String)
    (system : SoundSystem) (words : List Word) : Prop where
  accepted : ∃ text, rulesIn world rules = .ok text ∧
    (SoundSystem.engine draws).parse text = .ok system
  listed : ∃ bytes text, bytesIn world source = .ok bytes ∧
    String.fromUTF8? bytes.toByteArray = some text ∧ Lists (text.toList.splitOn '\n') words
  survive : Survive system.rules words
  pronounced : ∀ word ∈ words, ∃ sound, system.pronounce (formUnder system.rules word) = .ok sound

/-- A text leaves a machine: it is added to the output, or it is what a file holds from then on. -/
inductive Delivers (world : World) (text : String) : Option String → World → Prop
  | printed : Delivers world text none { world with output := world.output ++ text }
  | written {path : String} {files : Files} (wrote : world.files.write path text = .ok files)
      (holds : files.read path = .ok (Text.Utf8.encode text.toList)) :
      Delivers world text (some path) { world with files := files }

/-- Words with a newline behind each of them. -/
def terminated (words : List Word) : String :=
  String.join (words.map fun word => word ++ "\n")

/-! Lines that are written. -/

theorem write_cons (word next : Word) (others : List Word) :
    WordList.write (word :: next :: others) = word ++ "\n" ++ WordList.write (next :: others) := by
  rw [← String.toList_inj]
  simp [WordList.write, String.toList_intercalate]

theorem terminated_cons (word : Word) (others : List Word) :
    terminated (word :: others) = word ++ "\n" ++ terminated others := by
  rw [terminated, List.map_cons, String.join_cons, terminated]

/-- Where there are words, each of them has a line end behind it. -/
theorem write_eq_terminated {words : List Word} (inhabited : words ≠ []) :
    WordList.write words = terminated words := by
  induction words with
  | nil => exact absurd rfl inhabited
  | cons word others ih =>
    cases others with
    | nil => simp [WordList.write, terminated]
    | cons next rest =>
      rw [write_cons, ih (List.cons_ne_nil _ _), terminated_cons word]

theorem write_nil : WordList.write [] = "\n" := rfl

/-- The lines of words without newlines are the words, and nothing comes behind the last of them. -/
theorem splitOn_terminated {words : List Word} (single : ∀ word ∈ words, '\n' ∉ word.toList) :
    (terminated words).toList.splitOn '\n' = words.map String.toList ++ [[]] := by
  induction words with
  | nil => rfl
  | cons word others ih =>
    obtain ⟨first, rest⟩ := List.forall_mem_cons.mp single
    have text : (terminated (word :: others)).toList =
        word.toList ++ '\n' :: (terminated others).toList := by
      rw [terminated_cons, String.toList_append, String.toList_append, List.append_assoc]
      rfl
    rw [text, List.splitOn_append_cons_self_of_not_mem first, ih rest]
    rfl

/-! Runs. -/

section Runs
variable {draws : Random.Draws} {world after : World} {rules text : String}
  {source output : Option String} {words : List Word}

/-- The words of a source are those that its lines list, if all of it is well-formed text. -/
theorem wordsIn_ok_iff :
    wordsIn world source = .ok words ↔ ∃ bytes text, bytesIn world source = .ok bytes ∧
      String.fromUTF8? bytes.toByteArray = some text ∧ Lists (text.toList.splitOn '\n') words := by
  cases source with
  | none =>
    simp only [wordsIn, bytesIn, mapError_ok_iff, read_eq_ok_iff_lists, Except.ok.injEq,
      exists_and_left, exists_eq_left']
  | some path =>
    have bound : (world.files.read path).bind WordList.read = .ok words ↔
        ∃ bytes, world.files.read path = .ok bytes ∧ WordList.read bytes = .ok words :=
      bind_ok_iff
    simp only [wordsIn, bytesIn, mapError_ok_iff, bound, read_eq_ok_iff_lists, exists_and_left]

theorem runOnWords_ok_iff {ruleText : String} {generation : Generation} :
    ((SoundSystem.engine draws).runOnWords ruleText words).answer = .ok generation ↔
      ∃ system, (SoundSystem.engine draws).parse ruleText = .ok system ∧
        ((SoundSystem.engine draws).follow words system).answer = .ok generation := by
  constructor
  · exact answer_withSystem_ok
  · rintro ⟨system, accepted, answered⟩
    exact (answer_withSystem accepted _).trans answered

/-- Rules that a run has finished with are rules that filter. -/
theorem filters_of_answer {ruleText : String} {generation : Generation}
    (read : rulesIn world rules = .ok ruleText) (taken : wordsIn world source = .ok words)
    (answered : ((SoundSystem.engine draws).runOnWords ruleText words).answer = .ok generation) :
    ∃ system, Filters draws world rules source system words ∧
      generation.result.output = words.map (formUnder system.rules) := by
  obtain ⟨system, accepted, answered⟩ := runOnWords_ok_iff.mp answered
  obtain ⟨file, -, compiled⟩ := parse_ok accepted
  obtain ⟨survive, sounds, pronounced, rfl⟩ :=
    (answer_follow_ok_iff (ofFile_ok compiled).2 generation).mp answered
  refine ⟨system, ⟨⟨ruleText, read, accepted⟩, wordsIn_ok_iff.mp taken, survive, ?_⟩,
    output_course _ _⟩
  exact fun word member =>
    exists_images_iff.mp ⟨sounds, pronounced⟩ _ (List.mem_map_of_mem member)

theorem made_ok_iff {format : OutputFormat} {run : Run Generation} :
    made (SoundSystem.engine draws) ⟨rules, .sounds source, format, output⟩ world = .ok run ↔
      ∃ ruleText words, rulesIn world rules = .ok ruleText ∧ wordsIn world source = .ok words ∧
        (SoundSystem.engine draws).runOnWords ruleText words = run := by
  have listed (material : Batch.Material) : (wordsIn world source).map Batch.Material.list =
      .ok material ↔ ∃ words, wordsIn world source = .ok words ∧ .list words = material := by
    cases wordsIn world source <;> simp [Except.map]
  simp only [made, materialIn, bind_ok_iff, mapError_ok_iff, listed]
  constructor
  · rintro ⟨ruleText, read, _, ⟨words, taken, rfl⟩, same⟩
    exact ⟨ruleText, words, read, taken, Except.ok.inj same⟩
  · rintro ⟨ruleText, words, read, taken, rfl⟩
    exact ⟨ruleText, read, _, ⟨words, taken, rfl⟩, rfl⟩

theorem prepared_ok_iff :
    prepared (SoundSystem.engine draws) ⟨rules, .sounds source, .plain, output⟩ world = .ok text ↔
      ∃ system words, Filters draws world rules source system words ∧
        WordList.write (words.map (formUnder system.rules)) = text := by
  simp only [prepared, bind_ok_iff, mapError_ok_iff, made_ok_iff]
  constructor
  · rintro ⟨_, ⟨ruleText, words, read, taken, rfl⟩, generation, answered, written⟩
    obtain ⟨system, filters, forms⟩ := filters_of_answer read taken answered
    refine ⟨system, words, filters, ?_⟩
    rw [← forms]
    exact Except.ok.inj written
  · rintro ⟨system, words, ⟨⟨ruleText, read, accepted⟩, listed, survive, each⟩, rfl⟩
    obtain ⟨file, -, compiled⟩ := parse_ok accepted
    have eachForm : ∀ form ∈ words.map (formUnder system.rules), ∃ sound,
        system.pronounce form = .ok sound := List.forall_mem_map.mpr each
    obtain ⟨sounds, pronounced⟩ := exists_images_iff.mpr eachForm
    have answered : ((SoundSystem.engine draws).follow words system).answer = .ok _ :=
      (answer_follow_ok_iff (ofFile_ok compiled).2 _).mpr ⟨survive, sounds, pronounced, rfl⟩
    refine ⟨_, ⟨ruleText, words, read, wordsIn_ok_iff.mpr listed, rfl⟩, _,
      runOnWords_ok_iff.mpr ⟨system, accepted, answered⟩, ?_⟩
    rw [← output_course]
    rfl

theorem output_of_delivers (delivers : Delivers world text none after) :
    after.output = world.output ++ text := by
  cases delivers
  rfl

theorem delivered_ok_iff (outcome : Except BatchFault String) :
    delivered output outcome world = (.ok (), after) ↔
      ∃ text, outcome = .ok text ∧ Delivers world text output after := by
  cases outcome with
  | error fault => exact iff_of_false (fun ended => nomatch congrArg Prod.fst ended) (by simp)
  | ok text =>
    simp only [Except.ok.injEq, exists_eq_left']
    cases output with
    | none =>
      constructor
      · intro ended
        cases congrArg Prod.snd ended
        exact .printed
      · rintro ⟨⟩
        rfl
    | some path =>
      have wrote : delivered (some path) (.ok text) world =
          ((World.host.write path text world).1.mapError (.access path),
            (World.host.write path text world).2) := rfl
      rw [wrote, write_host]
      constructor
      · intro ended
        cases written : world.files.write path text with
        | error fault => rw [written] at ended; exact nomatch congrArg Prod.fst ended
        | ok files =>
          rw [written] at ended
          cases congrArg Prod.snd ended
          exact .written written (FileTree.read_write written)
      · rintro ⟨⟩
        rename_i written _
        rw [written]
        rfl

/-- A run in the plain format succeeds exactly if its rules filter the words and the result is
delivered. -/
theorem run_plain_ok_iff :
    Batch.run World.host (SoundSystem.engine draws) ⟨rules, .sounds source, .plain, output⟩ world =
        (.ok (), after) ↔
      ∃ system words, Filters draws world rules source system words ∧
        Delivers world (WordList.write (words.map (formUnder system.rules))) output after := by
  rw [run_prepared, delivered_ok_iff]
  simp only [prepared_ok_iff]
  constructor
  · rintro ⟨_, ⟨system, words, filters, rfl⟩, delivers⟩
    exact ⟨system, words, filters, delivers⟩
  · rintro ⟨system, words, filters, delivers⟩
    exact ⟨_, ⟨system, words, filters, rfl⟩, delivers⟩

end Runs

/-- A run of rules over given words in the plain format succeeds exactly if its rules are accepted, its
text is well-formed, no rule empties a word, every final form can be pronounced, and the result can be
delivered. What is delivered then is one line for each line of the text that is more than blanks, with
the form of the word on it after all rules, in order and with a newline behind it, and nothing else: if
there is no newline in the forms, the lines of the result are the forms. Where the text has no such line,
the result is one empty line. -/
theorem plain_sounds_filter_lines (draws : Random.Draws) (rules : String)
    (source output : Option String) (world after : World) :
    Batch.run World.host (SoundSystem.engine draws) ⟨rules, .sounds source, .plain, output⟩ world =
        (.ok (), after) ↔
      ∃ system words text, Filters draws world rules source system words ∧
        Delivers world text output after ∧ (words = [] → text = "\n") ∧
        (words ≠ [] → text = terminated (words.map (formUnder system.rules)) ∧
          ((∀ word ∈ words, '\n' ∉ (formUnder system.rules word).toList) →
            text.toList.splitOn '\n' =
              words.map (fun word => (formUnder system.rules word).toList) ++ [[]])) := by
  rw [run_plain_ok_iff]
  constructor
  · rintro ⟨system, words, filters, delivers⟩
    refine ⟨system, words, _, filters, delivers, ?_, fun inhabited => ?_⟩
    · rintro rfl
      exact write_nil
    · have forms : words.map (formUnder system.rules) ≠ [] := by simpa using inhabited
      rw [write_eq_terminated forms]
      refine ⟨rfl, fun single => ?_⟩
      rw [splitOn_terminated (List.forall_mem_map.mpr single), List.map_map]
      rfl
  · rintro ⟨system, words, text, filters, delivers, empty, inhabited⟩
    refine ⟨system, words, filters, ?_⟩
    by_cases none : words = []
    · subst none
      rwa [List.map_nil, write_nil, ← empty rfl]
    · have forms : words.map (formUnder system.rules) ≠ [] := by simpa using none
      rwa [write_eq_terminated forms, ← (inhabited none).1]

/-- A machine with the rule of a small file, and with some input. -/
def fed (input : String) : World :=
  { SavedGeneration.voicingWorld with input := Text.Utf8.encode input.toList }

theorem rulesIn_fed (input : String) :
    rulesIn (fed input) "rules.toml" = .ok SavedGeneration.voicingFile := by
  have open_ : Files.empty.placeToWrite "rules.toml" = .ok ["rules.toml"] := by decide +kernel
  have written : Files.empty.write "rules.toml" SavedGeneration.voicingFile =
      .ok SavedGeneration.voicingWorld.files := by
    rw [Files.write, open_]
    rfl
  have kept : (fed input).files = SavedGeneration.voicingWorld.files := rfl
  rw [rulesIn, kept, FileTree.read_write written, Except.bind, Utf8Coding.textOfBytes_encode]

/-- The rule of the small file filters some input, if it runs over its words. -/
theorem filters_fed {input : String} {words forms : List Word}
    (listed : WordList.wordsOfLines (input.toList.splitOn '\n') = words)
    (answered : (((SoundSystem.engine (.ofList [])).runOnWords SavedGeneration.voicingFile
      words).answer.toOption.map fun generation => generation.result.output) = some forms) :
    ∃ system, Filters (.ofList []) (fed input) "rules.toml" none system words ∧
      words.map (formUnder system.rules) = forms := by
  have taken : wordsIn (fed input) none = .ok words := by
    rw [wordsIn, mapError_ok_iff, ← listed]
    exact read_encode input.toList
  cases run : ((SoundSystem.engine (.ofList [])).runOnWords SavedGeneration.voicingFile
      words).answer with
  | error fault => rw [run] at answered; cases answered
  | ok generation =>
    rw [run] at answered
    obtain ⟨system, filters, made⟩ := filters_of_answer (rulesIn_fed input) taken run
    exact ⟨system, filters, made.symm.trans (Option.some.inj answered)⟩

theorem delivers_fed (input text : String) :
    Delivers (fed input) text none { fed input with output := text } := by
  have silent : (fed input).output = "" := rfl
  have delivers : Delivers (fed input) text none
      { fed input with output := (fed input).output ++ text } := .printed
  rwa [silent, String.empty_append] at delivers

/-- A rule that runs over the words on two lines of three, one of which it changes. -/
theorem filter_passes_over_blank_line :
    Batch.run World.host (SoundSystem.engine (.ofList []))
        ⟨"rules.toml", .sounds none, .plain, none⟩ (fed "ta\n\n ada \n") =
      (.ok (), { fed "ta\n\n ada \n" with output := "da\nada\n" }) := by
  have listed : WordList.wordsOfLines ("ta\n\n ada \n".toList.splitOn '\n') = ["ta", "ada"] := by
    decide +kernel
  have text : terminated ["da", "ada"] = "da\nada\n" := by decide +kernel
  have answered : (((SoundSystem.engine (.ofList [])).runOnWords SavedGeneration.voicingFile
      ["ta", "ada"]).answer.toOption.map fun generation => generation.result.output) =
        some ["da", "ada"] := by decide +kernel
  obtain ⟨system, filters, forms⟩ := filters_fed listed answered
  refine (plain_sounds_filter_lines _ _ _ _ _ _).mpr ⟨system, ["ta", "ada"], "da\nada\n", filters,
    delivers_fed _ _, fun none => absurd none (List.cons_ne_nil _ _), fun _ => ⟨?_, fun single => ?_⟩⟩
  · rw [forms, text]
  · rw [← text, ← forms, splitOn_terminated (List.forall_mem_map.mpr single), List.map_map]
    rfl

/-- Without any word, the result is not made up of lines for words. -/
theorem wordless_input_leaves_a_line :
    let after := { fed "" with output := "\n" }
    Batch.run World.host (SoundSystem.engine (.ofList []))
        ⟨"rules.toml", .sounds none, .plain, none⟩ (fed "") = (.ok (), after) ∧
      (∃ system, Filters (.ofList []) (fed "") "rules.toml" none system []) ∧
      ∀ system words, Filters (.ofList []) (fed "") "rules.toml" none system words →
        (∀ word ∈ words, '\n' ∉ (formUnder system.rules word).toList) ∧
          ¬ Delivers (fed "") (terminated (words.map (formUnder system.rules))) none after := by
  intro after
  have listed : WordList.wordsOfLines ("".toList.splitOn '\n') = [] := by decide +kernel
  have answered : (((SoundSystem.engine (.ofList [])).runOnWords SavedGeneration.voicingFile
      []).answer.toOption.map fun generation => generation.result.output) = some [] := by decide +kernel
  obtain ⟨system, filters, -⟩ := filters_fed listed answered
  refine ⟨run_plain_ok_iff.mpr ⟨system, [], filters, delivers_fed _ _⟩, ⟨system, filters⟩, ?_⟩
  intro system words other
  obtain rfl : words = [] := by
    have taken := wordsIn_ok_iff.mpr other.listed
    rw [wordsIn_ok_iff.mpr filters.listed] at taken
    exact (Except.ok.inj taken).symm
  refine ⟨List.forall_mem_nil _, fun delivers => ?_⟩
  have ended : "\n" = "" ++ terminated [] := output_of_delivers delivers
  exact absurd ended (by decide +kernel)

end SoundChange.LineFilter
