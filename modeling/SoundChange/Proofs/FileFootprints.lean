import SoundChange.Proofs.EnumerationOrder
import SoundChange.Proofs.SavedGeneration

/-! Which parts of a rule file decide what a run gives. A transcript that is rendered only needs the
spellings of the file and whether they are strict; words that are given need its rules besides. How
words would be invented, which is what classes, weights and syllables are for, leaves no trace in
either. -/
namespace SoundChange.FileFootprints
open BatchRuns Footprints RuleFiles Sequencing Sessions

variable {system : Type}

/-- Two rule files that pronounce alike. -/
structure SameSpeech (file other : RuleFile) : Prop where
  spellings : ∀ text, file.ipa.find? text = other.ipa.find? text
  strict : file.strictIpa = other.strictIpa

/-- What a job that renders has to deliver: its generation in the format, or the first fault. -/
def rendered (engine : Engine system) (source : String) (format : OutputFormat)
    (loaded : Except SavedFault Transcript) : Except BatchFault String :=
  match loaded with
  | .error fault => .error (.saved fault)
  | .ok transcript =>
    match (engine.runOnTranscript source transcript).answer with
    | .error fault => .error (.request fault)
    | .ok generation => (generation.format format).mapError .render

/-- Delivers a text, unless a fault has taken its place. -/
def delivered (output : Option String) (outcome : Except BatchFault String) :
    StateM World (Except BatchFault Unit) :=
  match outcome with
  | .error fault => return .error fault
  | .ok text => Batch.deliver World.host output text

/-! Runs. -/

/-- A job that renders delivers what is rendered with the text of its rules. -/
theorem run_rendered {engine : Engine system} {rules saved source : String} {world : World}
    (kept : (World.host.readText rules world).1 = .ok source) (format : OutputFormat)
    (output : Option String) :
    Batch.run World.host engine ⟨rules, .render saved, format, output⟩ world =
      delivered output
        (rendered engine source format (Transcript.load World.host saved world).1) world := by
  rw [Batch.run, run_bind, make_render, kept]
  cases (Transcript.load World.host saved world).1 with
  | error fault => rfl
  | ok transcript =>
    simp only [rendered]
    cases (engine.runOnTranscript source transcript).answer with
    | error fault => rfl
    | ok generation =>
      simp only [emit_host]
      cases generation.format format <;> rfl

/-! Files. -/

variable {file file' : RuleFile} {draws draws' : Random.Draws} {s s' : SoundSystem}

/-- Files that pronounce alike make systems that pronounce alike. -/
theorem sameVoice_of_compiled (compiled : Compiled file draws s)
    (compiled' : Compiled file' draws' s') (speech : SameSpeech file file') : SameVoice s s' := by
  have listed := EnumerationOrder.perm_iff_find?.mpr speech.spellings
  have spelled := EnumerationOrder.compileSpellings_perm file.ipa.distinct listed
  rw [compiled.spellings, compiled'.spellings] at spelled
  refine ⟨Except.ok.inj spelled, ?_⟩
  rw [compiled.strict, compiled'.strict, speech.strict]

/-- Files with the same rules make systems with the same rules. -/
theorem sameRules_of_compiled (compiled : Compiled file draws s)
    (compiled' : Compiled file' draws' s') (rules : file.rules = file'.rules) : SameRules s s' := by
  have changed := compiled.rules
  rw [rules, compiled'.rules] at changed
  refine ⟨(Except.ok.inj changed).symm, ?_⟩
  rw [compiled.live, compiled'.live]

/-- For two accepted files with the same spellings, equally strict: every transcript comes to the same
with either, and jobs that render the same transcript deliver the same text or report the same fault,
in the same world or in different ones. When the rules are the same too, all given words come to the
same. Classes, weights, syllables and draws may differ at will. -/
theorem outcomes_follow_speech_and_rules {source source' : String}
    (read : RuleFile.ofText source = .ok file) (read' : RuleFile.ofText source' = .ok file')
    (accepted : SoundSystem.ofFile file draws = .ok s)
    (accepted' : SoundSystem.ofFile file' draws' = .ok s') (speech : SameSpeech file file') :
    (∀ transcript,
      ((SoundSystem.engine draws).runOnTranscript source transcript).answer =
        ((SoundSystem.engine draws').runOnTranscript source' transcript).answer) ∧
    (∀ rules rules' saved saved' world world',
      (World.host.readText rules world).1 = .ok source →
      (World.host.readText rules' world').1 = .ok source' →
      (Transcript.load World.host saved world).1 = (Transcript.load World.host saved' world').1 →
      ∀ format, ∃ outcome, ∀ output,
        Batch.run World.host (SoundSystem.engine draws) ⟨rules, .render saved, format, output⟩
            world =
          delivered output outcome world ∧
        Batch.run World.host (SoundSystem.engine draws') ⟨rules', .render saved', format, output⟩
            world' =
          delivered output outcome world') ∧
    (file.rules = file'.rules → ∀ words,
      ((SoundSystem.engine draws).runOnWords source words).answer =
        ((SoundSystem.engine draws').runOnWords source' words).answer) := by
  have parsed := parse_of_file read accepted
  have parsed' := parse_of_file read' accepted'
  have compiled := ofFile_ok_iff.mp accepted
  have compiled' := ofFile_ok_iff.mp accepted'
  have voice : SameVoice s s' := sameVoice_of_compiled compiled compiled' speech
  have transcripts (transcript : Transcript) :
      ((SoundSystem.engine draws).runOnTranscript source transcript).answer =
        ((SoundSystem.engine draws').runOnTranscript source' transcript).answer := by
    rw [Engine.runOnTranscript, Engine.runOnTranscript, answer_withSystem parsed,
      answer_withSystem parsed']
    exact answer_finish_congr voice
  refine ⟨transcripts, ?_, ?_⟩
  · intro rules rules' saved saved' world world' kept kept' loaded format
    refine ⟨rendered (SoundSystem.engine draws) source format
      (Transcript.load World.host saved world).1, fun output => ⟨run_rendered kept _ _, ?_⟩⟩
    rw [run_rendered kept', ← loaded]
    simp only [rendered, transcripts]
  · intro rules words
    rw [Engine.runOnWords, Engine.runOnWords, answer_withSystem parsed, answer_withSystem parsed']
    exact answer_follow_congr (sameRules_of_compiled compiled compiled' rules) voice

/-- A rule and a spelling, and nothing to invent words from. -/
def lispingText : String :=
  "[ipa]\nd = \"ð\"\n" ++ SavedGeneration.voicingFile

def lispingFile : RuleFile where
  syllables := []
  strictIpa := false
  classes := .empty
  weights := .empty
  ipa := .ofList [("d", "ð")]
  rules := voicedFile.rules

/-- Rules and spellings come to the same for every list of words, beside syllables that can be drawn and
without them. -/
theorem drawable_syllables_leave_no_trace :
    RuleFile.ofText lispingText = .ok lispingFile ∧
      RuleFile.ofText (bareText ++ lispingText) = .ok { voicedFile with ipa := lispingFile.ipa } ∧
      ∀ words,
        ((SoundSystem.engine (.ofList [])).runOnWords lispingText words).answer =
          ((SoundSystem.engine (.ofList [0])).runOnWords (bareText ++ lispingText) words).answer := by
  have read : RuleFile.ofText lispingText = .ok lispingFile := by decide +kernel
  have read' : RuleFile.ofText (bareText ++ lispingText) =
      .ok { voicedFile with ipa := lispingFile.ipa } := by decide +kernel
  obtain ⟨rule, voiced⟩ := voicedFile_compiled
  have parts := ofFile_ok_iff.mp (voiced (.ofList [0]))
  have spelled : SoundSystem.compileSpellings lispingFile.ipa.entries =
      .ok [⟨['d'], "ð"⟩] := by
    have entries : lispingFile.ipa.entries = [("d", "ð")] := by decide
    simp [entries, SoundSystem.compileSpellings]
  have accepted : SoundSystem.ofFile lispingFile (.ofList []) =
      .ok ⟨[], [], [⟨['d'], "ð"⟩], false, [rule], .ofList [], false⟩ :=
    ofFile_ok_iff.mpr ⟨rfl, rfl, spelled, parts.rules, rfl, rfl, rfl⟩
  have accepted' : SoundSystem.ofFile { voicedFile with ipa := lispingFile.ipa } (.ofList [0]) =
      .ok { voicedSystem rule (.ofList [0]) with spellings := [⟨['d'], "ð"⟩] } :=
    ofFile_ok_iff.mpr { parts with spellings := spelled }
  refine ⟨read, read', ?_⟩
  exact (outcomes_follow_speech_and_rules read read' accepted accepted' ⟨fun _ => rfl, rfl⟩).2.2 rfl

end SoundChange.FileFootprints
