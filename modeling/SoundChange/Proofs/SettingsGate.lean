import SoundChange.CommandLine
import SoundChange.Proofs.BatchStages
import SoundChange.Proofs.ChangedFiles
import SoundChange.Proofs.FileFootprints
import SoundChange.Proofs.WindowRuns

/-! The settings only decide whether a job is started. A job whose settings are refused ends before it
reads or writes anything of its own, and once they are accepted, whatever they say leaves no trace in
what the job reports, prints and writes. The window opens with any settings: refused ones leave a
message and the built-in values. -/
namespace SoundChange.SettingsGate
open BatchRuns BatchStages ChangedFiles FileFootprints WindowRuns

variable {system machine : Type} {settingsFile : String} {job : Job} {place : List String}
  {world world' : World}

/-- Why the settings in a file are refused. A missing file is none of these. -/
inductive Refused (settingsFile : String) (world : World) : SettingsFault → Prop
  | unreadable {fault : IoFault} (present : fault ≠ .notFound)
      (failed : (world.files.read settingsFile).bind textOfBytes = .error fault) :
    Refused settingsFile world (.read settingsFile fault)
  | malformed {text : String} {fault : Toml.Fault}
      (read : (world.files.read settingsFile).bind textOfBytes = .ok text)
      (failed : Toml.read Settings.ofEntries? text = .error fault) :
    Refused settingsFile world (.parse settingsFile fault)
  | unknownLabel {text label : String} {settings : Settings}
      (read : (world.files.read settingsFile).bind textOfBytes = .ok text)
      (parsed : Toml.read Settings.ofEntries? text = .ok settings)
      (given : settings.repartition = some label) (inhabited : label ≠ "")
      (unknown : ∀ repartition : Repartition, repartition.label ≠ label) :
    Refused settingsFile world (.unknownRepartition settingsFile label)

/-- The settings are loaded, from the file or, where there is none, the built-in ones. -/
def Accepted (settingsFile : String) (world : World) : Prop :=
  ∃ settings, (Settings.load World.host settingsFile world).1 = .ok settings

/-- The files that a task reads. -/
def sources : Task → List String
  | .words _ _ _ => []
  | .sounds source => source.toList
  | .render transcript => [transcript]

/-- The files that a job reads and writes. -/
def paths (job : Job) : List String :=
  job.rules :: (sources job.task ++ job.output.toList)

/-- Machines that differ in one file only. -/
structure Alike (place : List String) (world world' : World) : Prop where
  files : SameElsewhere place world.files world'.files
  input : world.input = world'.input
  output : world.output = world'.output
  seed : world.seed = world'.seed

/-- How a run ends on the outcome of its job. -/
def exitOf : Except BatchFault Unit → Exit
  | .error fault => .ofFault fault
  | .ok _ => .success

theorem code_exitOf_iff (outcome : Except BatchFault Unit) :
    (exitOf outcome).code = 0 ↔ outcome = .ok () := by
  cases outcome with
  | error fault =>
    simp only [exitOf, Exit.ofFault]
    cases fault.message <;> simp [Exit.failure, Exit.stopped]
  | ok _ => simp [exitOf, Exit.success]

/-! Loading. -/

/-- Loading settings takes no more of the machine than reading their file. -/
theorem load_reads (host : Host (StateM machine)) (start : machine) (settingsFile : String) :
    (Settings.load host settingsFile start).2 = (host.read settingsFile start).2 := by
  have text : (host.readText settingsFile start).2 = (host.read settingsFile start).2 := by
    rw [Host.readText, run_bind]
    cases (host.read settingsFile start).1 <;> rfl
  rw [Settings.load, run_bind, ← text]
  cases (host.readText settingsFile start).1 with
  | ok _ => rfl
  | error fault => cases fault <;> rfl

theorem load_world (settingsFile : String) (world : World) :
    Settings.load World.host settingsFile world =
      (match (world.files.read settingsFile).bind textOfBytes with
        | .error .notFound => .ok .builtIn
        | .error fault => .error (.read settingsFile fault)
        | .ok text => Settings.ofText settingsFile text, world) := by
  rw [Settings.load, run_bind, readText_host]
  cases (world.files.read settingsFile).bind textOfBytes with
  | ok text => rfl
  | error fault => cases fault <;> rfl

theorem load_of_unreadable {fault : IoFault} (present : fault ≠ .notFound)
    (failed : (world.files.read settingsFile).bind textOfBytes = .error fault) :
    Settings.load World.host settingsFile world = (.error (.read settingsFile fault), world) := by
  rw [load_world, failed]
  cases fault with
  | notFound => exact absurd rfl present
  | _ => rfl

theorem load_of_text {text : String}
    (read : (world.files.read settingsFile).bind textOfBytes = .ok text) :
    Settings.load World.host settingsFile world = (Settings.ofText settingsFile text, world) := by
  rw [load_world, read]

theorem accepted_of_missing (missing : world.files.read settingsFile = .error .notFound) :
    Accepted settingsFile world := by
  refine ⟨.builtIn, ?_⟩
  rw [load_world, missing]
  rfl

theorem accepted_of_text {text : String}
    (read : (world.files.read settingsFile).bind textOfBytes = .ok text)
    (sound : (Settings.ofText settingsFile text).toOption.isSome = true) :
    Accepted settingsFile world := by
  obtain ⟨settings, given⟩ := Option.isSome_iff_exists.mp sound
  cases outcome : Settings.ofText settingsFile text with
  | error fault => rw [outcome] at given; cases given
  | ok settings => exact ⟨settings, by rw [load_of_text read, outcome]⟩

theorem ofLabel?_none_iff (label : String) :
    Repartition.ofLabel? label = none ↔ ∀ repartition : Repartition, repartition.label ≠ label := by
  constructor
  · rintro unknown repartition rfl
    rw [ofLabel?_label] at unknown
    cases unknown
  · intro unknown
    cases found : Repartition.ofLabel? label with
    | none => rfl
    | some repartition =>
      have listed := List.find?_some found
      exact absurd (by simpa using listed) (unknown repartition)

theorem unknownLabel?_some_iff (settings : Settings) (label : String) :
    settings.unknownLabel? = some label ↔ settings.repartition = some label ∧ label ≠ "" ∧
      ∀ repartition : Repartition, repartition.label ≠ label := by
  rw [Settings.unknownLabel?, Option.filter_eq_some_iff, ← ofLabel?_none_iff]
  simp

/-- Settings are loaded unless they are refused, and then the fault says why. -/
theorem load_error_iff (settingsFile : String) (world : World) (fault : SettingsFault) :
    (Settings.load World.host settingsFile world).1 = .error fault ↔
      Refused settingsFile world fault := by
  constructor
  · intro failed
    cases read : (world.files.read settingsFile).bind textOfBytes with
    | error reason =>
      by_cases missing : reason = .notFound
      · rw [load_world, read, missing] at failed
        cases failed
      · rw [load_of_unreadable missing read] at failed
        cases failed
        exact .unreadable missing read
    | ok text =>
      rw [load_of_text read, Settings.ofText] at failed
      cases parsed : Toml.read Settings.ofEntries? text with
      | error reason =>
        rw [parsed] at failed
        cases failed
        exact .malformed read parsed
      | ok settings =>
        simp only [parsed] at failed
        cases label : settings.unknownLabel? with
        | none => rw [label] at failed; cases failed
        | some unknown =>
          rw [label] at failed
          cases failed
          obtain ⟨given, inhabited, nobody⟩ := (unknownLabel?_some_iff _ _).mp label
          exact .unknownLabel read parsed given inhabited nobody
  · intro refused
    cases refused with
    | unreadable present failed => rw [load_of_unreadable present failed]
    | malformed read failed => simp only [load_of_text read, Settings.ofText, failed]
    | unknownLabel read parsed given inhabited unknown =>
      have label := (unknownLabel?_some_iff _ _).mpr ⟨given, inhabited, unknown⟩
      simp only [load_of_text read, Settings.ofText, parsed, label]

/-! Starting. -/

/-- Refused settings end a run on any machine, after a seed was taken and the settings were read. -/
theorem runFreshly_of_refused (host : Host (StateM machine)) (start : machine) (job : Job)
    {fault : SettingsFault}
    (refused : (Settings.load host settingsFile (host.seed start).2).1 = .error fault) :
    CommandLine.runFreshly host settingsFile job start =
      (.failure fault.message, (host.read settingsFile (host.seed start).2).2) := by
  rw [CommandLine.runFreshly, run_bind, CommandLine.runJob, run_bind, refused, ← load_reads]
  rfl

/-- Under accepted settings a run is its job, whatever the settings are. -/
theorem runFreshly_of_accepted (job : Job) (accepted : Accepted settingsFile world) :
    CommandLine.runFreshly World.host settingsFile job world =
      let ended := Batch.run World.host (SoundSystem.seededEngine world.seed) job world
      (exitOf ended.1, ended.2) := by
  obtain ⟨settings, loaded⟩ := accepted
  have drawn : World.host.seed world = (world.seed, world) := rfl
  have kept : (Settings.load World.host settingsFile world).2 = world := by rw [load_world]
  rw [CommandLine.runFreshly, run_bind, drawn, CommandLine.runJob, run_bind, loaded, kept]
  simp only [run_bind]
  cases (Batch.run World.host (SoundSystem.seededEngine world.seed) job world).1 <;> rfl

/-! Working. -/

/-- The run of a job with an engine, once everything has been read. -/
def made (engine : Engine system) (job : Job) (world : World) :
    Except BatchFault (Run Generation) := do
  let source ← (rulesIn world job.rules).mapError (BatchFault.access job.rules)
  let material ← materialIn world job.task
  return Batch.generation engine source material

/-- What a job has to deliver: its generation in the format, or the first fault. -/
def prepared (engine : Engine system) (job : Job) (world : World) : Except BatchFault String := do
  let made ← made engine job world
  let generation ← made.answer.mapError BatchFault.request
  (generation.format job.format).mapError BatchFault.render

theorem make_host (engine : Engine system) (job : Job) (world : World) :
    Batch.make World.host engine job world = (made engine job world, world) := by
  have text : World.host.readText job.rules world = (rulesIn world job.rules, world) :=
    readText_host _ _
  have taken : Batch.readMaterial World.host job.task world = (materialIn world job.task, world) :=
    readMaterial_writingBy job.task world
  rw [Batch.make, run_bind, text, made]
  cases rulesIn world job.rules with
  | error fault => rfl
  | ok source =>
    simp only [run_bind, taken]
    cases materialIn world job.task <;> rfl

theorem run_prepared (engine : Engine system) (job : Job) (world : World) :
    Batch.run World.host engine job world =
      delivered job.output (prepared engine job world) world := by
  rw [Batch.run, run_bind, make_host, prepared]
  cases made engine job world with
  | error fault => rfl
  | ok made =>
    simp only
    cases answered : made.answer with
    | error fault =>
      simp only [bind, Except.bind, answered]
      rfl
    | ok generation =>
      simp only [emit_host, bind, Except.bind, answered, Except.mapError]
      cases generation.format job.format <;> rfl

/-- A job has the same to deliver on both machines, if it reads nothing that differs. -/
theorem prepared_congr (alike : Alike place world world')
    (apart : ∀ path ∈ paths job, Apart place world.files world'.files path)
    (engine : Engine system) : prepared engine job world = prepared engine job world' := by
  have reads (path : String) (named : path ∈ paths job) :
      world.files.read path = world'.files.read path :=
    (apart path named).read_congr alike.files
  have rules : rulesIn world job.rules = rulesIn world' job.rules := by
    rw [rulesIn, rulesIn, reads job.rules (by simp [paths])]
  have material : materialIn world job.task = materialIn world' job.task := by
    cases task : job.task with
    | words count repartition untouched => rfl
    | sounds source =>
      cases source with
      | none => rw [materialIn, materialIn, wordsIn, wordsIn, alike.input]
      | some path =>
        have named : path ∈ paths job := by simp [paths, task, sources]
        rw [materialIn, materialIn, wordsIn, wordsIn, reads path named]
    | render path =>
      have named : path ∈ paths job := by simp [paths, task, sources]
      rw [materialIn, materialIn, load_host, load_host, reads path named]
  rw [prepared, prepared, made, made, rules, material]

/-- What is delivered to both machines comes out alike, and nothing changes where they differ. -/
theorem delivered_congr (alike : Alike place world world') {output : Option String}
    (apart : ∀ path, output = some path → Apart place world.files world'.files path)
    (outcome : Except BatchFault String) :
    let ended := delivered output outcome world
    let ended' := delivered output outcome world'
    ended.1 = ended'.1 ∧ Alike place ended.2 ended'.2 ∧
      ended.2.files.at? place = world.files.at? place ∧
      ended'.2.files.at? place = world'.files.at? place := by
  intro ended ended'
  cases outcome with
  | error fault => exact ⟨rfl, alike, rfl, rfl⟩
  | ok text =>
    cases output with
    | none =>
      refine ⟨rfl, ⟨alike.files, alike.input, ?_, alike.seed⟩, rfl, rfl⟩
      exact congrArg (· ++ text) alike.output
    | some path =>
      have wrote (world : World) : delivered (some path) (.ok text) world =
          ((World.host.write path text world).1.mapError (.access path),
            (World.host.write path text world).2) := rfl
      simp only [ended, ended', wrote, write_host]
      rcases (apart path rfl).write_congr alike.files text with
        ⟨fault, failed, failed'⟩ | ⟨after, after', written, written', same, kept, kept'⟩
      · rw [failed, failed']
        exact ⟨rfl, alike, rfl, rfl⟩
      · rw [written, written']
        exact ⟨rfl, ⟨same, alike.input, alike.output, alike.seed⟩, kept, kept'⟩

/-- Settings in a file that the job has nothing to do with are not seen in how it ends. -/
theorem runFreshly_congr (alike : Alike place world world')
    (apart : ∀ path ∈ paths job, Apart place world.files world'.files path)
    (accepted : Accepted settingsFile world) (accepted' : Accepted settingsFile world') :
    let ended := CommandLine.runFreshly World.host settingsFile job world
    let ended' := CommandLine.runFreshly World.host settingsFile job world'
    ended.1 = ended'.1 ∧ Alike place ended.2 ended'.2 ∧
      ended.2.files.at? place = world.files.at? place ∧
      ended'.2.files.at? place = world'.files.at? place := by
  intro ended ended'
  have output (path : String) (named : job.output = some path) :
      Apart place world.files world'.files path :=
    apart path (by simp [paths, named])
  have ran := runFreshly_of_accepted job accepted
  have ran' := runFreshly_of_accepted job accepted'
  rw [run_prepared] at ran ran'
  -- The seed is the same, so the draws are, and both jobs come to one outcome before they deliver it.
  rw [← alike.seed, ← prepared_congr alike apart] at ran'
  obtain ⟨outcome, ends, kept, kept'⟩ := delivered_congr alike output
    (prepared (SoundSystem.seededEngine world.seed) job world)
  simp only [ended, ended', ran, ran']
  exact ⟨congrArg exitOf outcome, ends, kept, kept'⟩

/-! The window. -/

/-- Refused settings leave their message, and everything else as it is built in. -/
theorem opened_of_refused {host : Host (StateM machine)} {start : machine} {fault : SettingsFault}
    (refused : (Settings.load host settingsFile start).1 = .error fault) (reader : Window.Reader) :
    opened host start settingsFile reader =
      { Window.initial reader (.ok .builtIn) with settingsFault := some fault.message } := by
  rw [opened, refused]
  rfl

theorem step_reporting (window : Window) (message : Option String) (move : Move) :
    WindowRuns.step { window with settingsFault := message } move =
      { WindowRuns.step window move with settingsFault := message } := by
  obtain ⟨reader, draws, action⟩ := move
  cases action with
  | set field text => cases field <;> rfl
  | load =>
    simp only [WindowRuns.step, Window.act, Window.load, Window.closeMenu]
    cases reader (Text.trimmed window.path) <;> rfl
  | _ => rfl

/-- A message about the settings has no influence on what happens in the window. -/
theorem after_reporting (window : Window) (message : Option String) (moves : List Move) :
    after { window with settingsFault := message } moves =
      { after window moves with settingsFault := message } := by
  induction moves generalizing window with
  | nil => rfl
  | cons move moves ih => exact (congrArg (after · moves) (step_reporting _ _ _)).trans (ih _)

/-- Settings are loaded or refused, for one of three reasons. When they are refused, a job ends on any
machine with code one and the reason, after nothing but a seed was taken and the settings were read,
so a world is as before. When they are loaded, which they are if their file is missing, a job ends as
its batch run does, with code zero exactly if that succeeded, and so it does under any other settings
that are loaded. It ends alike, prints the same and writes the same on machines that differ in one
file only, which may hold the settings, as long as no path of the job leads to that file, or, when
the file is missing on one of them, to something behind it. The window opens in any case: with
refused settings it has the built-in values, and everything that is done in it happens as it would
without the message. -/
theorem settings_only_admit_jobs (settingsFile : String) (job : Job) :
    (∀ world fault, (Settings.load World.host settingsFile world).1 = .error fault ↔
      Refused settingsFile world fault) ∧
    (∀ (machine : Type) (host : Host (StateM machine)) start fault,
      (Settings.load host settingsFile (host.seed start).2).1 = .error fault →
      CommandLine.runFreshly host settingsFile job start =
        (⟨1, some fault.message⟩, (host.read settingsFile (host.seed start).2).2)) ∧
    (∀ world fault, Refused settingsFile world fault →
      CommandLine.runFreshly World.host settingsFile job world =
        (⟨1, some fault.message⟩, world)) ∧
    (∀ world, world.files.read settingsFile = .error .notFound → Accepted settingsFile world) ∧
    (∀ world, Accepted settingsFile world →
      let exit := (CommandLine.runFreshly World.host settingsFile job world).1
      let ended := Batch.run World.host (SoundSystem.seededEngine world.seed) job world
      CommandLine.runFreshly World.host settingsFile job world = (exitOf ended.1, ended.2) ∧
      (exit.code = 0 ↔ ended.1 = .ok ()) ∧
      ∀ otherFile, Accepted otherFile world →
        CommandLine.runFreshly World.host otherFile job world =
          CommandLine.runFreshly World.host settingsFile job world) ∧
    (∀ place world world', Alike place world world' →
      (∀ path ∈ paths job, Apart place world.files world'.files path) →
      Accepted settingsFile world → Accepted settingsFile world' →
      let ended := CommandLine.runFreshly World.host settingsFile job world
      let ended' := CommandLine.runFreshly World.host settingsFile job world'
      ended.1 = ended'.1 ∧ Alike place ended.2 ended'.2 ∧
        ended.2.files.at? place = world.files.at? place ∧
        ended'.2.files.at? place = world'.files.at? place) ∧
    ∀ (machine : Type) (host : Host (StateM machine)) start reader fault,
      (Settings.load host settingsFile start).1 = .error fault →
      let window := opened host start settingsFile reader
      window = ⟨some fault.message, "", "", none, "10", some .lessFrequent, .empty, false⟩ ∧
      ∀ moves, after window moves =
        { after (.initial reader (.ok .builtIn)) moves with settingsFault := some fault.message } := by
  refine ⟨load_error_iff settingsFile, ?_, ?_, ?_, ?_, ?_, ?_⟩
  · intro machine host start fault refused
    exact runFreshly_of_refused host start job refused
  · intro world fault refused
    exact runFreshly_of_refused World.host world job ((load_error_iff _ _ _).mpr refused)
  · intro world missing
    exact accepted_of_missing missing
  · intro world accepted exit ended
    have ran := runFreshly_of_accepted job accepted
    refine ⟨ran, ?_, ?_⟩
    · have same : exit = exitOf ended.1 := congrArg Prod.fst ran
      rw [same, code_exitOf_iff]
    · intro otherFile accepted'
      rw [runFreshly_of_accepted job accepted', ran]
  · intro place world world' alike apart accepted accepted'
    exact runFreshly_congr alike apart accepted accepted'
  · intro machine host start reader fault refused window
    have shown := opened_of_refused refused reader
    refine ⟨shown, ?_⟩
    intro moves
    exact (congrArg (after · moves) shown).trans (after_reporting _ _ _)

/-- A machine with rules and words, and without settings. -/
def unsettled : World :=
  { SavedGeneration.voicingWorld with input := Text.Utf8.encode "ta\n".toList }

/-- The machine without settings, given some. -/
def settled (settings : String) : World :=
  { unsettled with
    files := unsettled.files.put ["config.toml"] (.file (Text.Utf8.encode settings.toList)) }

theorem alike_settled (settings : String) :
    Alike ["config.toml"] unsettled (settled settings) :=
  ⟨sameElsewhere_put (by simp) (by decide), rfl, rfl, rfl⟩

theorem accepted_unsettled : Accepted "config.toml" unsettled :=
  accepted_of_missing (by decide +kernel)

theorem text_settled (settings : String) :
    ((settled settings).files.read "config.toml").bind textOfBytes = .ok settings := by
  have placed : unsettled.files.placeToWrite "config.toml" = .ok ["config.toml"] := by
    decide +kernel
  have written : unsettled.files.write "config.toml" settings = .ok (settled settings).files := by
    rw [Files.write, placed]
    rfl
  rw [FileTree.read_write written]
  exact Utf8Coding.textOfBytes_encode settings

/-- A number of words in the settings is not seen by a job that is given its words. -/
theorem word_count_leaves_no_trace :
    let job : Job := ⟨"rules.toml", .sounds none, .csv, some "table.csv"⟩
    let configured := settled "[defaults]\nword_count = 3\n"
    Accepted "config.toml" configured ∧
      (∀ path ∈ paths job, Apart ["config.toml"] unsettled.files configured.files path) ∧
      (CommandLine.runFreshly World.host "config.toml" job unsettled).1 =
        (CommandLine.runFreshly World.host "config.toml" job configured).1 := by
  intro job configured
  have alike : Alike ["config.toml"] unsettled configured := alike_settled _
  have accepted : Accepted "config.toml" configured :=
    accepted_of_text (text_settled _) (by decide +kernel)
  have apart : ∀ path ∈ paths job, Apart ["config.toml"] unsettled.files configured.files path := by
    have single : ∀ path ∈ paths job, Files.parts path = [path] := by
      simp only [paths, job, sources]
      decide +kernel
    have leads : ∀ path ∈ paths job, ¬ LeadsTo unsettled.files path ["config.toml"] ∧
        ¬ LeadsTo configured.files path ["config.toml"] := by
      simp only [paths, job, sources, LeadsTo]
      decide +kernel
    have starts : ∀ path ∈ paths job, unsettled.files.start path ≠ ["config.toml"] := by
      simp only [paths, job, sources]
      decide +kernel
    intro path own
    exact ⟨leads path own, .inr ⟨not_leadsPast_of_name (single path own) (starts path own),
      not_leadsPast_of_name (single path own) (starts path own)⟩⟩
  obtain ⟨-, -, -, -, -, noTrace, -⟩ := settings_only_admit_jobs "config.toml" job
  exact ⟨accepted, apart,
    (noTrace _ _ _ alike apart accepted_unsettled accepted).1⟩

/-- Rules that are looked for behind the settings file are missing in different words if the file is
there, although the job has nothing else to do with the file. -/
theorem path_behind_settings_tells :
    let job : Job := ⟨"config.toml/rules", .sounds none, .text, none⟩
    let missing := BatchFault.access "config.toml/rules" .notFound
    let misplaced := BatchFault.access "config.toml/rules" .notDirectory
    Alike ["config.toml"] unsettled (settled "") ∧ Accepted "config.toml" unsettled ∧
      Accepted "config.toml" (settled "") ∧
      (∀ path ∈ paths job, ¬ LeadsTo unsettled.files path ["config.toml"] ∧
        ¬ LeadsTo (settled "").files path ["config.toml"]) ∧
      (CommandLine.runFreshly World.host "config.toml" job unsettled).1 =
        ⟨1, missing.message⟩ ∧
      (CommandLine.runFreshly World.host "config.toml" job (settled "")).1 =
        ⟨1, misplaced.message⟩ ∧
      missing.message ≠ misplaced.message := by
  intro job missing misplaced
  have accepted : Accepted "config.toml" (settled "") :=
    accepted_of_text (text_settled _) (by decide +kernel)
  have ends {world : World} {fault : IoFault} (accepted : Accepted "config.toml" world)
      (unread : rulesIn world job.rules = .error fault) :
      (CommandLine.runFreshly World.host "config.toml" job world).1 =
        ⟨1, (BatchFault.access job.rules fault).message⟩ := by
    rw [runFreshly_of_accepted job accepted, run_prepared, prepared, made, unread]
    rfl
  refine ⟨alike_settled _, accepted_unsettled, accepted, ?_, ends accepted_unsettled ?_,
    ends accepted ?_, ?_⟩
  · simp only [paths, job, sources, LeadsTo]
    decide +kernel
  · decide +kernel
  · decide +kernel
  · intro same
    have reasons : IoFault.notFound.message = IoFault.notDirectory.message :=
      (String.append_right_inj _).mp (Option.some.inj same)
    exact absurd reasons (by decide)

end SoundChange.SettingsGate
