import SoundChange.Proofs.BatchRuns
import SoundChange.Proofs.FileTree
import SoundChange.Proofs.Sessions
import SoundChange.Proofs.Stages

/-! Batch runs fail at the first stage that fails, and deliver nothing unless all stages succeed. The
stages are described by what the files hold and what the engine answers, each on what the stages
before it gave; what is delivered is one text, in whatever way it leaves the machine. -/
namespace SoundChange.BatchStages
open BatchRuns Reconciliation Sessions Stages Tabulation

variable {system : Type}

/-- The text of a file of rules. -/
def rulesIn (world : World) (path : String) : Except IoFault String :=
  (world.files.read path).bind textOfBytes

/-- The words in a file, or in the input. -/
def wordsIn (world : World) : Option String → Except BatchFault (List Word)
  | some path => ((world.files.read path).bind WordList.read).mapError (.access path)
  | none => (WordList.read world.input).mapError (.access Batch.inputName)

/-- What a task works on. -/
def materialIn (world : World) : Task → Except BatchFault Batch.Material
  | .words count repartition untouched => .ok (.words count repartition untouched)
  | .sounds source => (wordsIn world source).map .list
  | .render path => ((Transcript.load World.host path world).1.mapError .saved).map .transcript

/-- Whether the rules are run over the words. -/
def runsRules : Batch.Material → Bool
  | .words _ _ untouched => !untouched
  | .list _ => true
  | .transcript _ => false

/-- The stages before anything is written, in their order. -/
inductive Stage where
  | rules
  | material
  | parse
  | generation
  | application
  | alignment
  | transcription
  | formatting
  deriving DecidableEq, Repr

/-- Everything was read, and the engine made a system of the rules. -/
inductive Parsed (engine : Engine system) (rules : String) (task : Task) (world : World) :
    Batch.Material → system → Prop
  | parsed {source : String} {material : Batch.Material} {s : system}
      (read : rulesIn world rules = .ok source) (taken : materialIn world task = .ok material)
      (accepted : engine.parse source = .ok s) :
    Parsed engine rules task world material s

/-- The words of a run: invented by the engine, or given. -/
inductive Worded (engine : Engine system) : Batch.Material → system → List Word → system → Prop
  | invented {count : Nat} {repartition : Repartition} (untouched : Bool) {s s' : system}
      {words : List Word} (generated : engine.generate count repartition s = (.ok words, s')) :
    Worded engine (.words count repartition untouched) s words s'
  | given (words : List Word) (s : system) : Worded engine (.list words) s words s
  | saved (transcript : Transcript) (s : system) :
    Worded engine (.transcript transcript) s transcript.words s

/-- What the rules did to the words: as the engine answers, nothing, or as it was saved. -/
inductive Changed (engine : Engine system) :
    Batch.Material → List Word → system → Transformation → system → Prop
  | applied {material : Batch.Material} {words : List Word} {s s' : system}
      {result : Transformation} (runs : runsRules material = true)
      (applied : engine.apply words s = (.ok result, s')) :
    Changed engine material words s result s'
  | untouched (count : Nat) (repartition : Repartition) (words : List Word) (s : system) :
    Changed engine (.words count repartition true) words s (.untouched words) s
  | saved (transcript : Transcript) (words : List Word) (s : system) :
    Changed engine (.transcript transcript) words s transcript.result s

/-- Everything before the table succeeded, and left this system. -/
inductive Transformed (engine : Engine system) (rules : String) (task : Task) (world : World) :
    List Word → Transformation → system → Prop
  | transformed {material : Batch.Material} {words : List Word} {result : Transformation}
      {s s' s'' : system} (parsed : Parsed engine rules task world material s)
      (worded : Worded engine material s words s')
      (changed : Changed engine material words s' result s'') :
    Transformed engine rules task world words result s''

/-- Every stage up to the table succeeded, and this is the generation. -/
inductive Completed (engine : Engine system) (rules : String) (task : Task) (world : World) :
    Generation → Prop
  | completed {words : List Word} {result : Transformation} {s : system} {sounds : List String}
      (transformed : Transformed engine rules task world words result s)
      (aligned : Aligned words result) (pronounced : Pronounced engine result.output s sounds) :
    Completed engine rules task world ⟨words, result, assembled words result sounds⟩

/-- A stage is the first one that fails, with a fault of its own. -/
inductive Stops (engine : Engine system) (rules : String) (task : Task) (format : OutputFormat)
    (world : World) : Stage → BatchFault → Prop
  | rules {fault : IoFault} (failed : rulesIn world rules = .error fault) :
    Stops engine rules task format world .rules (.access rules fault)
  | material {source : String} {fault : BatchFault} (read : rulesIn world rules = .ok source)
      (failed : materialIn world task = .error fault) :
    Stops engine rules task format world .material fault
  | parse {source : String} {material : Batch.Material} {fault : EngineFault}
      (read : rulesIn world rules = .ok source) (taken : materialIn world task = .ok material)
      (failed : engine.parse source = .error fault) :
    Stops engine rules task format world .parse (.request (.engine fault))
  | generation {count : Nat} {repartition : Repartition} {untouched : Bool} {s s' : system}
      {fault : EngineFault}
      (parsed : Parsed engine rules task world (.words count repartition untouched) s)
      (failed : engine.generate count repartition s = (.error fault, s')) :
    Stops engine rules task format world .generation (.request (.engine fault))
  | application {material : Batch.Material} {words : List Word} {s s' s'' : system}
      {fault : EngineFault} (parsed : Parsed engine rules task world material s)
      (worded : Worded engine material s words s') (runs : runsRules material = true)
      (failed : engine.apply words s' = (.error fault, s'')) :
    Stops engine rules task format world .application (.request (.engine fault))
  | alignment {words : List Word} {result : Transformation} {s : system} {fault : ContractFault}
      (transformed : Transformed engine rules task world words result s)
      (misaligned : Misaligned words result fault) :
    Stops engine rules task format world .alignment (.request (.contract fault))
  | transcription {words : List Word} {result : Transformation} {s : system} {place : Nat}
      {fault : EngineFault} (transformed : Transformed engine rules task world words result s)
      (aligned : Aligned words result) (refused : Refused engine place result.output s fault) :
    Stops engine rules task format world .transcription (.request (.engine fault))
  | formatting {generation : Generation} {fault : RenderFault}
      (completed : Completed engine rules task world generation)
      (failed : generation.format format = .error fault) :
    Stops engine rules task format world .formatting (.render fault)

/-! What is read. -/

/-- The machine with other ways to write a file and to print. -/
def writingBy (write : String → String → StateM World (Except IoFault Unit))
    (print : String → StateM World (Except IoFault Unit)) : Host (StateM World) :=
  { World.host with write := write, print := print }

variable {write : String → String → StateM World (Except IoFault Unit)}
  {print : String → StateM World (Except IoFault Unit)}
  {engine : Engine system} {rules source : String} {task : Task} {format : OutputFormat}
  {world : World} {output : Option String} {material : Batch.Material}

theorem readMaterial_writingBy (task : Task) (world : World) :
    Batch.readMaterial (writingBy write print) task world = (materialIn world task, world) := by
  cases task with
  | words count repartition untouched => rfl
  | sounds source => cases source <;> rfl
  | render path =>
    have loads : Transcript.load (writingBy write print) path world =
        ((Transcript.load World.host path world).1, world) := by
      have same : Transcript.load (writingBy write print) path world =
          Transcript.load World.host path world := rfl
      rw [same, load_host]
    rw [Batch.readMaterial, run_bind, loads]
    rfl

theorem readText_writingBy (path : String) (world : World) :
    (writingBy write print).readText path world = (rulesIn world path, world) :=
  readText_host path world

/-- Reading depends on the machine alone, and leaves it as it is. -/
theorem make_of_material (read : rulesIn world rules = .ok source)
    (taken : materialIn world task = .ok material) :
    Batch.make (writingBy write print) engine ⟨rules, task, format, output⟩ world =
      (.ok (Batch.generation engine source material), world) := by
  rw [Batch.make, run_bind, readText_writingBy, read]
  simp only [run_bind, readMaterial_writingBy, taken]
  rfl

theorem run_of_make_error {host : Host (StateM World)} {job : Job} {fault : BatchFault}
    (failed : Batch.make host engine job world = (.error fault, world)) :
    Batch.run host engine job world = (.error fault, world) := by
  rw [Batch.run, run_bind, failed]
  rfl

/-- Once everything is read, a run fails as its session does, without touching the machine. -/
theorem run_of_answer_error {fault : RequestFault} (read : rulesIn world rules = .ok source)
    (taken : materialIn world task = .ok material)
    (failed : (Batch.generation engine source material).answer = .error fault) :
    Batch.run (writingBy write print) engine ⟨rules, task, format, output⟩ world =
      (.error (.request fault), world) := by
  rw [Batch.run, run_bind, make_of_material read taken]
  simp only [failed]
  rfl

/-- A generation that was made is all that is delivered. -/
theorem run_of_answer_ok {generation : Generation} (read : rulesIn world rules = .ok source)
    (taken : materialIn world task = .ok material)
    (answered : (Batch.generation engine source material).answer = .ok generation) :
    Batch.run (writingBy write print) engine ⟨rules, task, format, output⟩ world =
      Batch.emit (writingBy write print) format output generation world := by
  rw [Batch.run, run_bind, make_of_material read taken]
  simp only [answered]

/-! What the engine answers. -/

variable {s s' s'' : system} {words : List Word} {result : Transformation}

theorem answer_of_refused_rules {fault : EngineFault}
    (failed : engine.parse source = .error fault) :
    (Batch.generation engine source material).answer = .error (.engine fault) := by
  have refused (session : Session system Generation) :
      (engine.withSystem source session).answer = .error (.engine fault) := by
    rw [Engine.withSystem, failed]
  cases material with
  | words count repartition untouched => cases untouched <;> exact refused _
  | list words => exact refused _
  | transcript transcript => exact refused _

theorem answer_of_generation_error {count : Nat} {repartition : Repartition} {untouched : Bool}
    {fault : EngineFault} (accepted : engine.parse source = .ok s)
    (failed : engine.generate count repartition s = (.error fault, s')) :
    (Batch.generation engine source (.words count repartition untouched)).answer =
      .error (.engine fault) := by
  cases untouched with
  | true =>
    exact (answer_withSystem accepted _).trans (answer_calling_error failed _)
  | false =>
    exact (answer_withSystem accepted _).trans (answer_calling_error failed _)

/-- With the words at hand, a run goes on by running the rules over them if it does so at all. -/
theorem answer_of_worded (accepted : engine.parse source = .ok s)
    (worded : Worded engine material s words s') (runs : runsRules material = true) :
    (Batch.generation engine source material).answer = (engine.follow words s').answer := by
  cases worded with
  | invented untouched generated =>
    cases untouched with
    | true => cases runs
    | false => exact (answer_withSystem accepted _).trans (answer_calling_ok generated _)
  | given words s => exact answer_withSystem accepted _
  | saved transcript s => cases runs

/-- With the words and their changes at hand, a run goes on by tabulating them. -/
theorem answer_of_changed (accepted : engine.parse source = .ok s)
    (worded : Worded engine material s words s')
    (changed : Changed engine material words s' result s'') :
    (Batch.generation engine source material).answer =
      (engine.finish words result s'').answer := by
  cases changed with
  | applied runs applied =>
    rw [answer_of_worded accepted worded runs]
    exact answer_calling_ok applied _
  | untouched count repartition words s =>
    cases worded with
    | invented _ generated =>
      exact (answer_withSystem accepted _).trans (answer_calling_ok generated _)
  | saved transcript words s =>
    cases worded with
    | saved _ s => exact answer_withSystem accepted _

/-- With everything before the table at hand, a run goes on by tabulating it. -/
theorem answer_of_transformed
    (transformed : Transformed engine rules task world words result s) :
    ∃ source material, rulesIn world rules = .ok source ∧ materialIn world task = .ok material ∧
      (Batch.generation engine source material).answer =
        (engine.finish words result s).answer := by
  obtain ⟨⟨read, taken, accepted⟩, worded, changed⟩ := transformed
  exact ⟨_, _, read, taken, answer_of_changed accepted worded changed⟩

/-! Runs. -/

theorem run_of_untabled {fault : RequestFault}
    (transformed : Transformed engine rules task world words result s)
    (untabled : Untabled engine words result s fault) :
    Batch.run (writingBy write print) engine ⟨rules, task, format, output⟩ world =
      (.error (.request fault), world) := by
  obtain ⟨source, material, read, taken, answer⟩ := answer_of_transformed transformed
  refine run_of_answer_error read taken (answer.trans ?_)
  exact answer_map_error (answer_tabulate_of_untabled untabled) _

/-- A run whose table is made delivers its generation. -/
theorem run_of_completed {generation : Generation}
    (completed : Completed engine rules task world generation) :
    Batch.run (writingBy write print) engine ⟨rules, task, format, output⟩ world =
      Batch.emit (writingBy write print) format output generation world := by
  obtain ⟨transformed, aligned, pronounced⟩ := completed
  obtain ⟨source, material, read, taken, answer⟩ := answer_of_transformed transformed
  refine run_of_answer_ok read taken (answer.trans ?_)
  exact answer_map_ok (answer_tabulate_of_pronounced aligned pronounced) _

/-- A format that cannot be written is found before anything is. -/
theorem emit_of_refused {generation : Generation} {fault : RenderFault}
    (refused : generation.format format = .error fault) :
    Batch.emit (writingBy write print) format output generation world =
      (.error (.render fault), world) := by
  have indirect : ¬ (format = .text ∧ output = none) := by
    rintro ⟨rfl, rfl⟩
    cases refused
  rw [Batch.emit, if_neg indirect, refused]
  rfl

/-- The first stage that fails decides the outcome, and the machine stays as it was, whatever
writing would do to it. -/
theorem run_of_stops {stage : Stage} {fault : BatchFault}
    (stops : Stops engine rules task format world stage fault) :
    Batch.run (writingBy write print) engine ⟨rules, task, format, output⟩ world =
      (.error fault, world) := by
  cases stops with
  | rules failed =>
    apply run_of_make_error
    rw [Batch.make, run_bind, readText_writingBy, failed]
    rfl
  | material read failed =>
    apply run_of_make_error
    rw [Batch.make, run_bind, readText_writingBy, read]
    simp only [run_bind, readMaterial_writingBy, failed]
    rfl
  | parse read taken failed =>
    exact run_of_answer_error read taken (answer_of_refused_rules failed)
  | generation parsed failed =>
    obtain ⟨read, taken, accepted⟩ := parsed
    exact run_of_answer_error read taken (answer_of_generation_error accepted failed)
  | application parsed worded runs failed =>
    obtain ⟨read, taken, accepted⟩ := parsed
    refine run_of_answer_error read taken ?_
    rw [answer_of_worded accepted worded runs]
    exact answer_calling_error failed _
  | alignment transformed misaligned => exact run_of_untabled transformed (.misaligned misaligned)
  | transcription transformed aligned refused =>
    exact run_of_untabled transformed (.refused aligned refused)
  | formatting completed failed => rw [run_of_completed completed, emit_of_refused failed]

/-! Every run takes one of these courses. -/

theorem worded_or_stops {engine : Engine system} (format : OutputFormat)
    (parsed : Parsed engine rules task world material s) :
    (∃ words s', Worded engine material s words s') ∨
      ∃ stage fault, Stops engine rules task format world stage fault := by
  cases material with
  | words count repartition untouched =>
    rcases asked : engine.generate count repartition s with ⟨fault | words, s'⟩
    · exact .inr ⟨_, _, .generation parsed asked⟩
    · exact .inl ⟨words, s', .invented untouched asked⟩
  | list words => exact .inl ⟨words, s, .given words s⟩
  | transcript transcript => exact .inl ⟨_, s, .saved transcript s⟩

theorem changed_or_stops {engine : Engine system} (format : OutputFormat)
    (parsed : Parsed engine rules task world material s)
    (worded : Worded engine material s words s') :
    (∃ result s'', Changed engine material words s' result s'') ∨
      ∃ stage fault, Stops engine rules task format world stage fault := by
  cases runs : runsRules material with
  | true =>
    rcases asked : engine.apply words s' with ⟨fault | result, s''⟩
    · exact .inr ⟨_, _, .application parsed worded runs asked⟩
    · exact .inl ⟨result, s'', .applied runs asked⟩
  | false =>
    cases worded with
    | invented untouched generated =>
      cases untouched with
      | true => exact .inl ⟨_, _, .untouched _ _ words s'⟩
      | false => cases runs
    | given words s => cases runs
    | saved transcript s => exact .inl ⟨_, _, .saved transcript _ s⟩

theorem completed_or_stops {engine : Engine system} (format : OutputFormat)
    (transformed : Transformed engine rules task world words result s) :
    (∃ generation, Completed engine rules task world generation) ∨
      ∃ stage fault, Stops engine rules task format world stage fault := by
  rcases tabled_or_untabled engine words result s with
    ⟨aligned, sounds, pronounced⟩ | ⟨fault, untabled⟩
  · exact .inl ⟨_, .completed transformed aligned pronounced⟩
  · cases untabled with
    | misaligned misaligned => exact .inr ⟨_, _, .alignment transformed misaligned⟩
    | refused aligned refused => exact .inr ⟨_, _, .transcription transformed aligned refused⟩

/-- Every job stops at a stage, or has a text to deliver. -/
theorem stops_or_formatted (engine : Engine system) (rules : String) (task : Task)
    (format : OutputFormat) (world : World) :
    (∃ stage fault, Stops engine rules task format world stage fault) ∨
      ∃ generation text, Completed engine rules task world generation ∧
        generation.format format = .ok text := by
  cases read : rulesIn world rules with
  | error fault => exact .inl ⟨_, _, .rules read⟩
  | ok source =>
    cases taken : materialIn world task with
    | error fault => exact .inl ⟨_, _, .material read taken⟩
    | ok material =>
      cases accepted : engine.parse source with
      | error fault => exact .inl ⟨_, _, .parse read taken accepted⟩
      | ok s =>
        have parsed : Parsed engine rules task world material s := ⟨read, taken, accepted⟩
        rcases worded_or_stops format parsed with ⟨words, s', worded⟩ | stops
        · rcases changed_or_stops format parsed worded with ⟨result, s'', changed⟩ | stops
          · rcases completed_or_stops format (.transformed parsed worded changed) with
              ⟨generation, completed⟩ | stops
            · cases formatted : generation.format format with
              | error fault => exact .inl ⟨_, _, .formatting completed formatted⟩
              | ok text => exact .inr ⟨generation, text, completed, formatted⟩
            · exact .inl stops
          · exact .inl stops
        · exact .inl stops

/-! Delivering. -/

/-- Without a file, a text is printed in pieces, and a piece that cannot be printed is reported. -/
theorem emit_printing {generation : Generation} {text : String}
    (formatted : generation.format format = .ok text) :
    ∃ pieces, String.join pieces = text ∧
      ∀ write print world, Batch.emit (writingBy write print) format none generation world =
        let printed := Batch.printAll (writingBy write print) pieces world
        (printed.1.mapError .print, printed.2) := by
  by_cases aligned : format = .text
  · subst aligned
    cases formatted
    refine ⟨_, join_alignedPieces generation.table, fun write print world => ?_⟩
    rw [Batch.emit, if_pos ⟨rfl, rfl⟩]
    rfl
  · refine ⟨[text], by simp, fun write print world => ?_⟩
    have printed : Batch.printAll (writingBy write print) [text] world = print text world := by
      rw [Batch.printAll, run_bind]
      rcases outcome : print text world with ⟨fault | _, after⟩
      · have same : (writingBy write print).print text world = (.error fault, after) := outcome
        rw [same]
        rfl
      · have same : (writingBy write print).print text world = (.ok (), after) := outcome
        rw [same]
        rfl
    rw [Batch.emit, if_neg fun direct => aligned direct.1, formatted, printed]
    rfl

/-- A batch run stops at the first stage that fails, in the order of the stages: its fault is
reported, and no file and no output is touched, whatever writing them would do and whatever path the
output has. Otherwise all that leaves the machine is the text of the generation in the format. It is
added to the output, where an aligned table is printed in pieces that make up this text, or it is
what can be read from the file, if the file can be written. -/
theorem runs_stop_at_first_failure (engine : Engine system) (rules : String) (task : Task)
    (format : OutputFormat) (world : World) :
    (∀ stage fault, Stops engine rules task format world stage fault →
      ∀ output write print,
        Batch.run (writingBy write print) engine ⟨rules, task, format, output⟩ world =
          (.error fault, world)) ∧
    (∀ generation text, Completed engine rules task world generation →
      generation.format format = .ok text →
      let run (output : Option String) :=
        Batch.run World.host engine ⟨rules, task, format, output⟩ world
      run none = (.ok (), { world with output := world.output ++ text }) ∧
      (∃ pieces, String.join pieces = text ∧ ∀ write print,
        Batch.run (writingBy write print) engine ⟨rules, task, format, none⟩ world =
          let printed := Batch.printAll (writingBy write print) pieces world
          (printed.1.mapError .print, printed.2)) ∧
      ∀ path,
        (∀ fault, world.files.write path text = .error fault →
          run (some path) = (.error (.access path fault), world)) ∧
        ∀ files, world.files.write path text = .ok files →
          run (some path) = (.ok (), { world with files := files }) ∧
            files.read path = .ok (Text.Utf8.encode text.toList)) ∧
    ((∃ stage fault, Stops engine rules task format world stage fault) ∨
      ∃ generation text, Completed engine rules task world generation ∧
        generation.format format = .ok text) := by
  refine ⟨?_, ?_, stops_or_formatted engine rules task format world⟩
  · intro stage fault stops output write print
    exact run_of_stops stops
  · intro generation text completed formatted
    have delivers (output : Option String) :
        Batch.run World.host engine ⟨rules, task, format, output⟩ world =
          Batch.deliver World.host output text world := by
      have host : writingBy World.write World.print = World.host := rfl
      rw [← host, run_of_completed completed, host, emit_host, formatted]
    refine ⟨delivers none, ?_, fun path => ⟨?_, ?_⟩⟩
    · obtain ⟨pieces, whole, printing⟩ := emit_printing formatted
      refine ⟨pieces, whole, fun write print => ?_⟩
      rw [run_of_completed completed, printing]
    · intro fault unwritable
      simp only [delivers, Batch.deliver, run_bind, write_host, unwritable]
      rfl
    · intro files written
      refine ⟨?_, FileTree.read_write written⟩
      simp only [delivers, Batch.deliver, run_bind, write_host, written]
      rfl

end SoundChange.BatchStages
