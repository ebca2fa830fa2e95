import SoundChange.Proofs.RuleFiles
import SoundChange.Proofs.Tabulation

/-! Sessions with a sound system, stage by stage: what a run answers once the rules were accepted,
and that running rules and pronouncing words leave the system as it was. -/
namespace SoundChange.Sessions
open Sequencing Tabulation

/-- A run on an engine that accepts the rules answers as its session does. -/
theorem answer_withSystem {system value : Type} {engine : Engine system} {source : String}
    {s : system} (parsed : engine.parse source = .ok s) (session : Session system value) :
    (engine.withSystem source session).answer = (session s).answer := by
  rw [Engine.withSystem, parsed]

/-- A run that answers had its rules accepted. -/
theorem answer_withSystem_ok {system value : Type} {engine : Engine system} {source : String}
    {session : Session system value} {v : value}
    (answered : (engine.withSystem source session).answer = .ok v) :
    ∃ s, engine.parse source = .ok s ∧ (session s).answer = .ok v := by
  cases parsed : engine.parse source with
  | error fault => rw [Engine.withSystem, parsed] at answered; cases answered
  | ok s => exact ⟨s, rfl, (answer_withSystem parsed session).symm.trans answered⟩

theorem answer_finish_ok_iff {system : Type} (engine : Engine system) (words : List Word)
    (result : Transformation) (s : system) (generation : Generation) :
    (engine.finish words result s).answer = .ok generation ↔
      ∃ table, (engine.tabulate words result s).answer = .ok table ∧
        generation = ⟨words, result, table⟩ := by
  rw [Engine.finish, answer_bind_ok_iff]
  simp [run_pure, eq_comm (a := generation)]

theorem answer_finish_error_iff {system : Type} (engine : Engine system) (words : List Word)
    (result : Transformation) (s : system) (fault : RequestFault) :
    (engine.finish words result s).answer = .error fault ↔
      (engine.tabulate words result s).answer = .error fault := by
  rw [Engine.finish]
  cases tabulated : (engine.tabulate words result s).answer with
  | ok table => simp [run_bind_ok tabulated, run_pure]
  | error fault' => simp [run_bind_error tabulated]

/-- A generation holds what was tabulated. -/
theorem finish_transcript {system : Type} {engine : Engine system} {words : List Word}
    {result : Transformation} {s : system} {generation : Generation}
    (finished : (engine.finish words result s).answer = .ok generation) :
    generation.words = words ∧ generation.result = result := by
  obtain ⟨table, _, rfl⟩ := (answer_finish_ok_iff engine words result s generation).mp finished
  exact ⟨rfl, rfl⟩

variable {draws : Random.Draws} {system : SoundSystem} {words : List Word}

theorem answer_applyRules (system : SoundSystem) :
    ((SoundSystem.engine draws).applyRules words system).answer =
      (system.apply words).mapError fun fault =>
        .engine (.transformation fault.message) := by
  simp only [Engine.applyRules, Engine.calling, rename_perform, Traced.perform,
    SoundSystem.engine]
  cases system.apply words <;> rfl

/-- A live system runs its rules. -/
theorem run_applyRules (live : system.released = false) :
    (SoundSystem.engine draws).applyRules words system =
      ⟨(applyRules system.rules words).mapError fun fault =>
        .engine (.transformation fault.message), system, [.apply words]⟩ := by
  have ran : system.apply words = applyRules system.rules words := by
    rw [SoundSystem.apply, live]
    rfl
  rw [← ran, ← answer_applyRules]
  rfl

theorem answer_pronouncing (word : Word) (system : SoundSystem) :
    (pronouncing (SoundSystem.engine draws) word system).answer =
      (system.pronounce word).mapError fun fault => .engine (.transcription fault.message) := by
  simp only [pronouncing, Engine.calling, rename_perform, Traced.perform, SoundSystem.engine]
  cases system.pronounce word <;> rfl

theorem pronouncing_steady (word : Word) :
    (pronouncing (SoundSystem.engine draws) word system).state = system := rfl

/-- The final forms are pronounced one by one, without any effect on each other. -/
theorem pronounced_iff (forms : List Word) (sounds : List String) :
    ((forms.mapM (pronouncing (SoundSystem.engine draws))) system).answer = .ok sounds ↔
      List.Forall₂ (fun form sound => system.pronounce form = .ok sound) forms sounds := by
  rw [answer_mapM_of_steady pronouncing_steady, mapM_ok_iff]
  simp only [answer_pronouncing, mapError_ok_iff]

end SoundChange.Sessions
