import SoundChange.Batch
import SoundChange.Proofs.Footprints
import SoundChange.Proofs.GivenWords

/-! The ways to a generation agree where they meet. Inventing words and running the rules over them is
running the rules over these words, and inventing words without running the rules is inventing them
with a file that has no rules. -/
namespace SoundChange.InventedWords
open Footprints GivenWords RuleCourse RuleFiles Sequencing Sessions

variable {draws : Random.Draws} {system : SoundSystem} {file : RuleFile}

/-! Draws only decide which words are invented. -/

theorem answer_runOnWords_draws (draws draws' : Random.Draws) (source : String)
    (words : List Word) :
    ((SoundSystem.engine draws').runOnWords source words).answer =
      ((SoundSystem.engine draws).runOnWords source words).answer := by
  have parsed' := parse_draws draws draws' source
  cases parsed : (SoundSystem.engine draws).parse source with
  | error fault =>
    rw [parsed] at parsed'
    simp only [Engine.runOnWords, Engine.withSystem, parsed, parsed', Except.map]
  | ok system =>
    rw [parsed] at parsed'
    rw [Engine.runOnWords, Engine.runOnWords, answer_withSystem parsed', answer_withSystem parsed]
    exact answer_follow_congr ⟨rfl, rfl⟩ ⟨rfl, rfl⟩

theorem answer_generateWords_ok {count : Nat} {repartition : Repartition} {words : List Word}
    (invented : ((SoundSystem.engine draws).generate count repartition system).1 = .ok words) :
    ((SoundSystem.engine draws).generateWords count repartition system).answer = .ok words := by
  simp only [SoundSystem.engine, SoundSystem.generate, mapError_ok_iff] at invented
  rw [answer_generateWords, invented]
  rfl

/-- A run that invents words goes on with its rules as if the words had been given. -/
theorem answer_runRequest {source : String} {count : Nat} {repartition : Repartition}
    {words : List Word} (accepted : (SoundSystem.engine draws).parse source = .ok system)
    (invented : ((SoundSystem.engine draws).generate count repartition system).1 = .ok words) :
    ((SoundSystem.engine draws).runRequest ⟨source, count, repartition⟩).answer =
      ((SoundSystem.engine draws).follow words system).answer := by
  rw [Engine.runRequest, answer_withSystem accepted, run_bind_ok (answer_generateWords_ok invented),
    state_generateWords]
  exact answer_follow_congr ⟨rfl, rfl⟩ ⟨rfl, rfl⟩

/-- Once the rules are accepted and words are invented, the rest of the run is the run over these
words: both give the same generation, or the same fault. A run over given words is the same for all
draws, so for all seeds. -/
theorem runRequest_follows_invented_words {source : String} {count : Nat}
    {repartition : Repartition} {words : List Word}
    (accepted : (SoundSystem.engine draws).parse source = .ok system)
    (invented : ((SoundSystem.engine draws).generate count repartition system).1 = .ok words) :
    ((SoundSystem.engine draws).runRequest ⟨source, count, repartition⟩).answer =
        ((SoundSystem.engine draws).runOnWords source words).answer ∧
      ∀ draws' source' words',
        ((SoundSystem.engine draws').runOnWords source' words').answer =
          ((SoundSystem.engine draws).runOnWords source' words').answer := by
  refine ⟨?_, fun draws' => answer_runOnWords_draws draws draws'⟩
  rw [answer_runRequest accepted invented, Engine.runOnWords, answer_withSystem accepted]

/-- Five draws that each fall on the first choice. -/
def firstDraws : Random.Draws := .ofList [0, 0, 0, 0, 0]

theorem invent_voicedSystem (rule : Rule) :
    ((voicedSystem rule firstDraws).invent 1 .always
      (voicedSystem rule firstDraws).draws).answer = .ok ["ta"] := by
  have drawn : (SoundSystem.drawWords voicedClasses [[⟨'C', false⟩, ⟨'V', false⟩]]
      Repartition.always.share 1 firstDraws).answer = .ok ["ta"] := by decide +kernel
  have distinct : kept ["ta"] = .ok ["ta"] := by simp [kept, SoundSystem.distinct, SoundSystem.distinctFrom]
  rw [invent_of_live rfl (List.cons_ne_nil _ _), ← distinct]
  exact congrArg (Except.bind · kept) drawn

theorem generate_voicedSystem (rule : Rule) :
    ((SoundSystem.engine firstDraws).generate 1 .always (voicedSystem rule firstDraws)).1 =
      .ok ["ta"] := by
  simp only [SoundSystem.engine, SoundSystem.generate, invent_voicedSystem]
  rfl

/-- The rule of the small file turns the invented word into another one. -/
theorem apply_voicing {rule : Rule}
    (compiled : SoundSystem.compileRule ⟨"voicing", "t", "d"⟩ = .ok rule) :
    rule.apply "ta" = "da" := by
  have voices :
      ((SoundSystem.compileRule ⟨"voicing", "t", "d"⟩).toOption.map fun rule => rule.apply "ta") =
        some "da" := by decide +kernel
  rw [compiled] at voices
  exact Option.some.inj voices

/-- The small file is accepted, and its rule runs over the invented word. -/
theorem follow_voicedText :
    ∃ rule generation,
      (SoundSystem.engine firstDraws).parse voicedText = .ok (voicedSystem rule firstDraws) ∧
      ((SoundSystem.engine firstDraws).follow ["ta"] (voicedSystem rule firstDraws)).answer =
        .ok generation ∧
      generation.words = ["ta"] ∧ generation.result.output = ["da"] := by
  obtain ⟨rule, compiled⟩ := voicedFile_compiled
  have voices : rule.apply "ta" = "da" := by
    cases mapM_ok_iff.mp (ofFile_ok_iff.mp (compiled firstDraws)).rules with
    | cons first _ => exact apply_voicing first
  have stays : Survive [rule] ["ta"] := by simp [Survive, formUnder, voices]
  have form : ["ta"].map (formUnder [rule]) = ["da"] := by simp [formUnder, voices]
  have sounds : List.Forall₂
      (fun form sound => (voicedSystem rule firstDraws).pronounce form = .ok sound)
      (["ta"].map (formUnder [rule])) ["da"] := by
    have sound : SoundChange.pronounce [] false "da" = .ok "da" := by decide +kernel
    rw [form]
    exact .cons sound .nil
  exact ⟨rule, _, parse_of_file ofText_voicedText (compiled firstDraws),
    (answer_follow_ok_iff rfl _).mpr ⟨stays, ["da"], sounds, rfl⟩, rfl,
    (output_course [rule] ["ta"]).trans form⟩

/-- A whole run of the small file. -/
theorem runRequest_voicedText :
    ∃ generation, ((SoundSystem.engine firstDraws).runRequest ⟨voicedText, 1, .always⟩).answer =
      .ok generation := by
  obtain ⟨rule, generation, accepted, followed, -, -⟩ := follow_voicedText
  exact ⟨generation, (answer_runRequest accepted (generate_voicedSystem rule)).trans followed⟩

/-- The word that the small file makes of these draws, and the generation that its rule makes of the
word either way. -/
theorem runRequest_follows_invented_syllable :
    ∃ system generation, (SoundSystem.engine firstDraws).parse voicedText = .ok system ∧
      ((SoundSystem.engine firstDraws).generate 1 .always system).1 = .ok ["ta"] ∧
      ((SoundSystem.engine firstDraws).runRequest ⟨voicedText, 1, .always⟩).answer =
        .ok generation ∧
      ((SoundSystem.engine firstDraws).runOnWords voicedText ["ta"]).answer = .ok generation ∧
      generation.words = ["ta"] ∧ generation.result.output = ["da"] := by
  obtain ⟨rule, generation, accepted, followed, sameWords, sameForms⟩ := follow_voicedText
  have invented := generate_voicedSystem rule
  have answered : ((SoundSystem.engine firstDraws).runOnWords voicedText ["ta"]).answer =
      .ok generation := (answer_withSystem accepted _).trans followed
  have follows := (runRequest_follows_invented_words accepted invented).1
  exact ⟨_, generation, accepted, invented, follows.trans answered, answered, sameWords, sameForms⟩

/-! A run without rules. -/

/-- Running no rules leaves every word as it is. -/
theorem answer_follow_noRules {words : List Word} (live : system.released = false)
    (bare : system.rules = []) :
    ((SoundSystem.engine draws).follow words system).answer =
      ((SoundSystem.engine draws).finish words (.untouched words) system).answer := by
  have ran : (SoundSystem.engine draws).applyRules words system = _ := run_applyRules live
  rw [bare, applyRules] at ran
  rw [Engine.follow, run_bind_ok (v := .untouched words)]
  · rw [ran]
  · rw [ran]
    rfl

/-- Inventing words and leaving them as they are is inventing them on a system like it that has no
rules, and running these. -/
theorem answer_untouched_congr {a b : SoundSystem} (invention : SameInvention a b)
    (voice : SameVoice a b) (live : b.released = false) (bare : b.rules = []) (count : Nat)
    (repartition : Repartition) :
    (((SoundSystem.engine draws).generateWords count repartition >>= fun words =>
      (SoundSystem.engine draws).finish words (.untouched words)) a).answer =
    (((SoundSystem.engine draws).generateWords count repartition >>= fun words =>
      (SoundSystem.engine draws).follow words) b).answer := by
  apply answer_bind_congr
  · rw [answer_generateWords, answer_generateWords, invent_congr invention]
  · intro words _
    rw [state_generateWords, state_generateWords, answer_follow_noRules]
    · exact answer_finish_congr ⟨voice.spellings, voice.strict⟩
    · exact live
    · exact bare

/-- Inventing words and leaving them as they are is a whole run on the same file with its list of
rules emptied, from the same draws: the words, the result and the table are the same, or the fault
is. -/
theorem untouched_is_run_without_rules {source bare : String}
    (accepted : (SoundSystem.engine draws).parse source = .ok system)
    (read : RuleFile.ofText source = .ok file)
    (readBare : RuleFile.ofText bare = .ok { file with rules := [] })
    (count : Nat) (repartition : Repartition) :
    (Batch.generation (SoundSystem.engine draws) source (.words count repartition true)).answer =
      ((SoundSystem.engine draws).runRequest ⟨bare, count, repartition⟩).answer := by
  obtain ⟨file', read', compiled⟩ := parse_ok accepted
  cases read.symm.trans read'
  have acceptedBare := parse_of_file readBare (ofFile_withoutRules compiled)
  have live : system.released = false := (ofFile_ok compiled).2
  have skips : Batch.generation (SoundSystem.engine draws) source (.words count repartition true) =
      (SoundSystem.engine draws).runUntouched ⟨source, count, repartition⟩ := rfl
  rw [skips, Engine.runUntouched, Engine.runRequest, answer_withSystem accepted,
    answer_withSystem acceptedBare]
  have invention : SameInvention system { system with rules := [] } := ⟨rfl, rfl, rfl, rfl⟩
  have voice : SameVoice system { system with rules := [] } := ⟨rfl, rfl⟩
  exact answer_untouched_congr invention voice live rfl count repartition

/-- The small file without its rule, and the text that is its own. -/
theorem untouched_syllable_is_bare :
    ∃ system, (SoundSystem.engine firstDraws).parse voicedText = .ok system ∧
      RuleFile.ofText voicedText = .ok voicedFile ∧
      RuleFile.ofText bareText = .ok { voicedFile with rules := [] } ∧
      (Batch.generation (SoundSystem.engine firstDraws) voicedText
          (.words 1 .always true)).answer =
        ((SoundSystem.engine firstDraws).runRequest ⟨bareText, 1, .always⟩).answer := by
  obtain ⟨rule, compiled⟩ := voicedFile_compiled
  have accepted := parse_of_file ofText_voicedText (compiled firstDraws)
  exact ⟨_, accepted, ofText_voicedText, ofText_bareText,
    untouched_is_run_without_rules accepted ofText_voicedText ofText_bareText 1 .always⟩

end SoundChange.InventedWords
