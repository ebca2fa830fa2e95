import SoundChange.Proofs.BatchRuns
import SoundChange.Proofs.FileTree
import SoundChange.Proofs.Footprints
import SoundChange.Proofs.TranscriptRoundTrip

/-! Saving a generation and rendering it with its rules shows what the generation showed. The
transcript holds everything that the rules made, and the only thing that is asked of the engine again
is how words are pronounced, which depends on the rules alone. -/
namespace SoundChange.SavedGeneration
open BatchRuns Footprints RuleFiles Sequencing Sessions

variable {draws : Random.Draws} {source : String} {generation : Generation}

/-- What was tabulated is the transcript of the generation. -/
theorem answer_finish_ok {system : SoundSystem} {words : List Word} {result : Transformation}
    (finished : ((SoundSystem.engine draws).finish words result system).answer = .ok generation) :
    ((SoundSystem.engine draws).finish generation.words generation.result system).answer =
      .ok generation := by
  obtain ⟨sameWords, sameResult⟩ := finish_transcript finished
  rw [sameWords, sameResult]
  exact finished

/-- Rules that ran are followed by the table of their result, on the same system. -/
theorem answer_follow_ok {system : SoundSystem} {words : List Word}
    (followed : ((SoundSystem.engine draws).follow words system).answer = .ok generation) :
    ((SoundSystem.engine draws).finish generation.words generation.result system).answer =
      .ok generation := by
  obtain ⟨result, _, finished⟩ := (answer_bind_ok_iff _ _ _ _).mp followed
  exact answer_finish_ok finished

/-- A session that invents words hands a system with the same voice on to what comes after. -/
theorem answer_invent_ok {system : SoundSystem} {count : Nat} {repartition : Repartition}
    {next : List Word → Session SoundSystem Generation}
    (transcribed : ∀ words s, (next words s).answer = .ok generation →
      ((SoundSystem.engine draws).finish generation.words generation.result s).answer =
        .ok generation)
    (answered : (((SoundSystem.engine draws).generateWords count repartition >>= next)
      system).answer = .ok generation) :
    ((SoundSystem.engine draws).finish generation.words generation.result system).answer =
      .ok generation := by
  obtain ⟨words, _, followed⟩ := (answer_bind_ok_iff _ _ _ _).mp answered
  have finished := transcribed words _ followed
  rw [state_generateWords] at finished
  rw [← finished]
  exact answer_finish_congr ⟨rfl, rfl⟩

/-- However a generation was made, it is the generation of its own transcript. -/
theorem finish_of_generation {material : Batch.Material}
    (produced : (Batch.generation (SoundSystem.engine draws) source material).answer =
      .ok generation) :
    ∃ system, (SoundSystem.engine draws).parse source = .ok system ∧
      ((SoundSystem.engine draws).finish generation.words generation.result system).answer =
        .ok generation := by
  cases material with
  | words count repartition untouched =>
    cases untouched with
    | true =>
      obtain ⟨system, parsed, answered⟩ := answer_withSystem_ok produced
      exact ⟨system, parsed, answer_invent_ok (fun _ _ => answer_finish_ok) answered⟩
    | false =>
      obtain ⟨system, parsed, answered⟩ := answer_withSystem_ok produced
      exact ⟨system, parsed, answer_invent_ok (fun _ _ => answer_follow_ok) answered⟩
  | list words =>
    obtain ⟨system, parsed, answered⟩ := answer_withSystem_ok produced
    exact ⟨system, parsed, answer_follow_ok answered⟩
  | transcript transcript =>
    obtain ⟨system, parsed, answered⟩ := answer_withSystem_ok produced
    exact ⟨system, parsed, answer_finish_ok answered⟩

/-- Rendering the transcript of a generation with the same rules gives this generation, whatever the
draws are. -/
theorem answer_runOnTranscript {material : Batch.Material}
    (produced : (Batch.generation (SoundSystem.engine draws) source material).answer =
      .ok generation) (draws' : Random.Draws) :
    ((SoundSystem.engine draws').runOnTranscript source generation.transcript).answer =
      .ok generation := by
  obtain ⟨system, parsed, finished⟩ := finish_of_generation produced
  have parsed' := parse_draws draws draws' source
  rw [parsed] at parsed'
  rw [Engine.runOnTranscript, answer_withSystem parsed', ← finished]
  exact answer_finish_congr ⟨rfl, rfl⟩

/-! The files between the two runs. -/

theorem deliver_file {path text : String} {world world' : World}
    (delivered : Batch.deliver World.host (some path) text world = (.ok (), world')) :
    world'.files.read path = .ok (Text.Utf8.encode text.toList) := by
  rw [Batch.deliver, run_bind, write_host] at delivered
  cases written : world.files.write path text with
  | error fault => rw [written] at delivered; cases delivered
  | ok files =>
    rw [written] at delivered
    cases delivered
    exact FileTree.read_write written

theorem emit_file {format : OutputFormat} {path : String} {world world' : World}
    (emitted : Batch.emit World.host format (some path) generation world = (.ok (), world')) :
    ∃ text, generation.format format = .ok text ∧
      world'.files.read path = .ok (Text.Utf8.encode text.toList) := by
  rw [emit_host] at emitted
  cases formatted : generation.format format with
  | error fault => rw [formatted] at emitted; cases emitted
  | ok text =>
    rw [formatted] at emitted
    exact ⟨text, rfl, deliver_file emitted⟩

/-- A file that a transcript was written to in lines holds this transcript. -/
theorem load_saved {path : String} {world : World} {transcript : Transcript}
    (holds : world.files.read path =
      .ok (Text.Utf8.encode (transcript.toText ++ "\n").toList)) :
    Transcript.load World.host path world = (.ok transcript, world) := by
  have content : Transcript.ofBytes (Text.Utf8.encode (transcript.toText ++ "\n").toList) =
      .ok transcript := by
    have line : String.ofList ['\n'] = "\n" := by decide
    have blank : ∀ c ∈ ['\n'], Json.isSpace c = true := by simp [Json.isSpace]
    rw [Transcript.ofBytes, Utf8Coding.textOfBytes_encode, ← line]
    exact TranscriptRoundTrip.ofText_toText transcript blank
  rw [load_host, holds]
  simp only [content]
  rfl

/-- A job that renders delivers the generation that its run makes. -/
theorem run_render {rules saved : String} {world : World} {transcript : Transcript}
    (kept : (World.host.readText rules world).1 = .ok source)
    (loaded : Transcript.load World.host saved world = (.ok transcript, world))
    (rendered : ((SoundSystem.engine draws).runOnTranscript source transcript).answer =
      .ok generation) (format : OutputFormat) (output : Option String) :
    Batch.run World.host (SoundSystem.engine draws) ⟨rules, .render saved, format, output⟩ world =
      Batch.emit World.host format output generation world := by
  rw [Batch.run, run_bind, make_render, kept, loaded]
  simp only
  rw [rendered]

/-- A generation of some rules that was saved as a transcript, and is rendered with the same rules:
whatever the format and the draws, the run delivers what the generation is in this format. When it
writes a file, the bytes there are those of the formatted generation, and in the format of
transcripts they are the bytes of the saved file again. -/
theorem rendering_shows_saved_generation {rules saved : String} {material : Batch.Material}
    {world world' : World}
    (produced : (Batch.generation (SoundSystem.engine draws) source material).answer =
      .ok generation)
    (wrote : Batch.emit World.host .json (some saved) generation world = (.ok (), world'))
    (kept : (World.host.readText rules world').1 = .ok source) (draws' : Random.Draws)
    (format : OutputFormat) (output : Option String) :
    let rendering := Batch.run World.host (SoundSystem.engine draws')
      ⟨rules, .render saved, format, output⟩ world'
    rendering =
        (match generation.format format with
          | .error fault => (.error (.render fault), world')
          | .ok text => Batch.deliver World.host output text world') ∧
      ∀ copy after, output = some copy → rendering = (.ok (), after) →
        (∃ text, generation.format format = .ok text ∧
          after.files.read copy = .ok (Text.Utf8.encode text.toList)) ∧
        (format = .json → after.files.read copy = world'.files.read saved) := by
  obtain ⟨text, written, holds⟩ := emit_file wrote
  cases written
  have emits := run_render kept (load_saved holds) (answer_runOnTranscript produced draws') format
    output
  refine ⟨?_, ?_⟩
  · exact emits.trans (emit_host format output generation world')
  · rintro copy after rfl rendered
    obtain ⟨shown, formatted, copied⟩ := emit_file (emits.symm.trans rendered)
    refine ⟨⟨shown, formatted, copied⟩, ?_⟩
    rintro rfl
    cases formatted
    rw [copied, holds]

/-- One rule for a word to run through, in a directory of its own. -/
def voicingFile : String :=
  "[[rules]]\nname = \"voicing\"\npattern = \"t\"\nreplacement = \"d\"\n"

/-- A machine with these rules in a file. -/
def voicingWorld : World :=
  { files := Files.empty.put ["rules.toml"] (.file (Text.Utf8.encode voicingFile.toList))
    input := [], output := "", seed := 0 }

/-- The machine after a text was written beside the rules. -/
def voicingWorldWith (text : String) : World :=
  { voicingWorld with
    files := voicingWorld.files.put ["run.json"] (.file (Text.Utf8.encode text.toList)) }

theorem write_voicingWorld (text : String) :
    World.host.write "run.json" text voicingWorld = (.ok (), voicingWorldWith text) := by
  have open_ : voicingWorld.files.placeToWrite "run.json" = .ok ["run.json"] := by
    decide +kernel
  rw [write_host, Files.write, open_]
  rfl

theorem readText_voicingWorldWith (text : String) :
    (World.host.readText "rules.toml" (voicingWorldWith text)).1 = .ok voicingFile := by
  have open_ : Files.empty.placeToWrite "rules.toml" = .ok ["rules.toml"] := by decide +kernel
  have written : Files.empty.write "rules.toml" voicingFile = .ok voicingWorld.files := by
    rw [Files.write, open_]
    rfl
  have leads : voicingWorld.files.follow (voicingWorld.files.start "rules.toml")
      (Files.parts "rules.toml") = .ok ["rules.toml"] := by decide +kernel
  have free : voicingWorld.files.at? ["run.json"] ≠ some .directory := by decide
  rw [readText_host, voicingWorldWith]
  simp only
  rw [FileTree.read_put_of_ne leads (by decide) (by decide) free, FileTree.read_write written,
    Except.bind, Utf8Coding.textOfBytes_encode]

/-- A word that a rule changes, saved and printed again in columns. -/
theorem rendering_shows_voicing :
    ∃ generation world',
      (Batch.generation (SoundSystem.engine (.ofList [])) voicingFile (.list ["tata"])).answer =
        .ok generation ∧
      generation.result.output = ["dada"] ∧
      Batch.emit World.host .json (some "run.json") generation voicingWorld = (.ok (), world') ∧
      (World.host.readText "rules.toml" world').1 = .ok voicingFile ∧
      Batch.run World.host (SoundSystem.engine (.ofSeed 7))
          ⟨"rules.toml", .render "run.json", .text, none⟩ world' =
        Batch.deliver World.host none generation.table.aligned world' := by
  have answers :
      ((Batch.generation (SoundSystem.engine (.ofList [])) voicingFile
        (.list ["tata"])).answer.toOption.map fun generation => generation.result.output) =
        some ["dada"] := by decide +kernel
  cases produced : (Batch.generation (SoundSystem.engine (.ofList [])) voicingFile
      (.list ["tata"])).answer with
  | error fault => rw [produced] at answers; cases answers
  | ok generation =>
    rw [produced] at answers
    have wrote : Batch.emit World.host .json (some "run.json") generation voicingWorld =
        (.ok (), voicingWorldWith (generation.transcript.toText ++ "\n")) := by
      rw [emit_host, Generation.format]
      simp only [Batch.deliver, run_bind, write_voicingWorld]
      rfl
    have kept := readText_voicingWorldWith (generation.transcript.toText ++ "\n")
    exact ⟨generation, _, rfl, Option.some.inj answers, wrote, kept,
      (rendering_shows_saved_generation produced wrote kept (.ofSeed 7) .text none).1⟩

end SoundChange.SavedGeneration
