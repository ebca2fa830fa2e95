import SoundChange.Proofs.Footprints

/-! Operations on one system, in any order. Inventing words moves the draws on and changes nothing
else, releasing empties the system for good, and every other operation leaves it as it was. So until
the release, the words that are invented depend on the earlier inventions alone, and all else is
answered as on the first day. -/
namespace SoundChange.Operations
open Footprints Sequencing Sessions Tabulation

/-- What can be asked of a system. -/
inductive Operation where
  | generate (count : Nat) (repartition : Repartition)
  | apply (words : List Word)
  | pronounce (word : Word)
  | ruleNames
  | tabulate (words : List Word) (result : Transformation)
  | release
  deriving DecidableEq

/-- Whether an operation invents words. -/
def Operation.invents : Operation → Bool
  | generate _ _ => true
  | _ => false

/-- What an operation answers. -/
inductive Outcome where
  | generated (answer : Except EngineFault (List Word))
  | applied (answer : Except EngineFault Transformation)
  | pronounced (answer : Except EngineFault String)
  | named (rules : List String)
  | tabulated (answer : Except RequestFault Table)
  | released

/-- One operation: its outcome, and the system after it. -/
def perform (draws : Random.Draws) (system : SoundSystem) : Operation → Outcome × SoundSystem
  | .generate count repartition =>
    let (answer, after) := (SoundSystem.engine draws).generate count repartition system
    (.generated answer, after)
  | .apply words =>
    let (answer, after) := (SoundSystem.engine draws).apply words system
    (.applied answer, after)
  | .pronounce word =>
    let (answer, after) := (SoundSystem.engine draws).transcribe word system
    (.pronounced answer, after)
  | .ruleNames => (.named system.ruleNames, system)
  | .tabulate words result =>
    let r := (SoundSystem.engine draws).tabulate words result system
    (.tabulated r.answer, r.state)
  | .release => (.released, (SoundSystem.engine draws).release system)

/-- The system after operations in turn. -/
def stateAfter (draws : Random.Draws) (system : SoundSystem) (operations : List Operation) :
    SoundSystem :=
  operations.foldl (fun state operation => (perform draws state operation).2) system

/-- What the next operation answers after others. -/
def outcomeAfter (draws : Random.Draws) (system : SoundSystem) (before : List Operation)
    (next : Operation) : Outcome :=
  (perform draws (stateAfter draws system before) next).1

variable {draws : Random.Draws} {system : SoundSystem} {operations : List Operation}

/-! What one operation changes. -/

theorem state_tabulate (words : List Word) (result : Transformation) :
    ((SoundSystem.engine draws).tabulate words result system).state = system := by
  cases outcome : reconcile words result with
  | error fault =>
    rw [tabulate_of_misaligned _ ((Reconciliation.reconcile_error_iff fault).mp outcome)]
    rfl
  | ok matrix =>
    have aligned := ((Reconciliation.reconcile_ok_iff matrix).mp outcome).1
    rw [tabulate_of_aligned _ aligned]
    have steady : ((result.output.mapM (pronouncing (SoundSystem.engine draws))) system).state =
        system := state_mapM_of_steady pronouncing_steady _
    cases asked : ((result.output.mapM (pronouncing (SoundSystem.engine draws))) system).answer with
    | error fault => rw [run_bind_error asked, steady]
    | ok sounds =>
      rw [run_bind_ok asked, steady]
      rfl

theorem perform_generate (count : Nat) (repartition : Repartition) :
    (perform draws system (.generate count repartition)).2 =
      { system with draws := (system.invent count repartition system.draws).state } := by
  simp only [perform, SoundSystem.engine, SoundSystem.generate]

theorem perform_release : (perform draws system .release).2 = system.release := rfl

/-- An operation that neither invents words nor releases the system leaves it as it was. -/
theorem perform_steady {operation : Operation} (quiet : operation.invents = false)
    (kept : operation ≠ .release) : (perform draws system operation).2 = system := by
  cases operation with
  | generate count repartition => cases quiet
  | release => exact absurd rfl kept
  | tabulate words result => exact state_tabulate words result
  | apply words => rfl
  | pronounce word => rfl
  | ruleNames => rfl

/-! What a run of operations changes. -/

theorem stateAfter_cons (operation : Operation) (operations : List Operation) :
    stateAfter draws system (operation :: operations) =
      stateAfter draws (perform draws system operation).2 operations := rfl

theorem stateAfter_concat (operations : List Operation) (operation : Operation) :
    stateAfter draws system (operations ++ [operation]) =
      (perform draws (stateAfter draws system operations) operation).2 := by
  rw [stateAfter, List.foldl_append]
  rfl

/-- Until the release, only the inventions leave anything behind. -/
theorem stateAfter_filter (live : .release ∉ operations) :
    stateAfter draws system operations =
      stateAfter draws system (operations.filter Operation.invents) := by
  induction operations generalizing system with
  | nil => rfl
  | cons operation operations ih =>
    obtain ⟨kept, live⟩ := List.ne_and_not_mem_of_not_mem_cons live
    cases quiet : operation.invents with
    | true => rw [List.filter_cons_of_pos quiet, stateAfter_cons, stateAfter_cons, ih live]
    | false =>
      rw [List.filter_cons_of_neg (by simp [quiet]), stateAfter_cons,
        perform_steady quiet (Ne.symm kept), ih live]

/-- Whatever is done to a system, it is still the same one but for its draws, or the same one
released. -/
theorem stateAfter_eq (draws : Random.Draws) (system : SoundSystem)
    (operations : List Operation) :
    ∃ left, stateAfter draws system operations =
      { (if .release ∈ operations then system.release else system) with draws := left } := by
  induction operations generalizing system with
  | nil => exact ⟨system.draws, rfl⟩
  | cons operation operations ih =>
    obtain ⟨left, after⟩ := ih (perform draws system operation).2
    refine ⟨left, ?_⟩
    rw [stateAfter_cons, after]
    by_cases released : operation = .release
    · subst released
      rw [perform_release, SoundSystem.release_release, ite_self,
        if_pos List.mem_cons_self]
    · have stays : Operation.release ∈ operation :: operations ↔ .release ∈ operations := by
        simp [Ne.symm released]
      simp only [stays]
      cases quiet : operation.invents with
      | false => rw [perform_steady quiet released]
      | true =>
        cases operation with
        | generate count repartition =>
          rw [perform_generate]
          split <;> rfl
        | _ => cases quiet

theorem stateAfter_of_live (draws : Random.Draws) (system : SoundSystem)
    (live : .release ∉ operations) :
    ∃ left, stateAfter draws system operations = { system with draws := left } := by
  obtain ⟨left, after⟩ := stateAfter_eq draws system operations
  rw [if_neg live] at after
  exact ⟨left, after⟩

theorem stateAfter_of_released (draws : Random.Draws) (system : SoundSystem)
    (released : .release ∈ operations) :
    ∃ left, stateAfter draws system operations = { system.release with draws := left } := by
  obtain ⟨left, after⟩ := stateAfter_eq draws system operations
  rw [if_pos released] at after
  exact ⟨left, after⟩

/-! What operations answer. -/

theorem sameVoice_draws (system : SoundSystem) (left : Random.Draws) :
    SameVoice { system with draws := left } system := ⟨rfl, rfl⟩

theorem sameVoice_release (system : SoundSystem) (left : Random.Draws) :
    SameVoice { system.release with draws := left } system := ⟨rfl, rfl⟩

theorem sameRules_draws (system : SoundSystem) (left : Random.Draws) :
    SameRules { system with draws := left } system := ⟨rfl, rfl⟩

/-- Pronunciations and tables are answered alike by systems with the same spellings. -/
theorem perform_pronounce_congr {a b : SoundSystem} (voice : SameVoice a b) (word : Word) :
    (perform draws a (.pronounce word)).1 = (perform draws b (.pronounce word)).1 := by
  simp only [perform, SoundSystem.engine, pronounce_congr voice]

theorem perform_tabulate_congr {a b : SoundSystem} (voice : SameVoice a b) (words : List Word)
    (result : Transformation) :
    (perform draws a (.tabulate words result)).1 =
      (perform draws b (.tabulate words result)).1 :=
  congrArg Outcome.tabulated (answer_tabulate_congr voice)

/-- The draws only matter for inventions. -/
theorem perform_draws {operation : Operation} (quiet : operation.invents = false)
    (left : Random.Draws) :
    (perform draws { system with draws := left } operation).1 =
      (perform draws system operation).1 := by
  cases operation with
  | generate count repartition => cases quiet
  | pronounce word => exact perform_pronounce_congr (sameVoice_draws system left) word
  | tabulate words result => exact perform_tabulate_congr (sameVoice_draws system left) words result
  | apply words => simp only [perform, SoundSystem.engine, apply_congr (sameRules_draws system left)]
  | ruleNames => rfl
  | release => rfl

theorem perform_generate_released (left : Random.Draws) (count : Nat)
    (repartition : Repartition) :
    (perform draws { system.release with draws := left } (.generate count repartition)).1 =
      .generated (.error (.generation "Sound system was already released")) := rfl

theorem perform_apply_released (left : Random.Draws) (words : List Word) :
    (perform draws { system.release with draws := left } (.apply words)).1 =
      .applied (.error (.transformation "Sound system was already released")) := rfl

/-- Operations on a system do not get in each other's way. Until the release, what is invented only
depends on the inventions before it, whatever else was asked in between, and everything else is
answered as by the untouched system. From the release on, words are neither invented nor changed and
there are no rules, but words are pronounced and tables are made as before, and releasing the system
again changes nothing. -/
theorem operations_do_not_interfere (draws : Random.Draws) (fresh : SoundSystem) :
    (∀ before, .release ∉ before →
      (∀ other count repartition, .release ∉ other →
        other.filter Operation.invents = before.filter Operation.invents →
          outcomeAfter draws fresh other (.generate count repartition) =
            outcomeAfter draws fresh before (.generate count repartition)) ∧
      ∀ next, next.invents = false →
        outcomeAfter draws fresh before next = outcomeAfter draws fresh [] next) ∧
    ∀ before, .release ∈ before →
      (∀ count repartition, outcomeAfter draws fresh before (.generate count repartition) =
        .generated (.error (.generation "Sound system was already released"))) ∧
      (∀ words, outcomeAfter draws fresh before (.apply words) =
        .applied (.error (.transformation "Sound system was already released"))) ∧
      outcomeAfter draws fresh before .ruleNames = .named [] ∧
      (∀ word, outcomeAfter draws fresh before (.pronounce word) =
        outcomeAfter draws fresh [] (.pronounce word)) ∧
      (∀ words result, outcomeAfter draws fresh before (.tabulate words result) =
        outcomeAfter draws fresh [] (.tabulate words result)) ∧
      stateAfter draws fresh (before ++ [.release]) = stateAfter draws fresh before := by
  constructor
  · intro before live
    constructor
    · intro other count repartition otherLive same
      rw [outcomeAfter, outcomeAfter, stateAfter_filter otherLive, stateAfter_filter live, same]
    · intro next quiet
      obtain ⟨left, after⟩ := stateAfter_of_live draws fresh live
      rw [outcomeAfter, after]
      exact perform_draws quiet left
  · intro before released
    obtain ⟨left, after⟩ := stateAfter_of_released draws fresh released
    refine ⟨?_, ?_, ?_, ?_, ?_, ?_⟩
    · intro count repartition
      rw [outcomeAfter, after, perform_generate_released]
    · intro words
      rw [outcomeAfter, after, perform_apply_released]
    · rw [outcomeAfter, after]
      rfl
    · intro word
      rw [outcomeAfter, after]
      exact perform_pronounce_congr (sameVoice_release fresh left) word
    · intro words result
      rw [outcomeAfter, after]
      exact perform_tabulate_congr (sameVoice_release fresh left) words result
    · rw [stateAfter_concat, after, perform_release]
      rfl

/-- The small file, asked for its rules and to run them between two inventions, and then released. -/
theorem small_system_operations_do_not_interfere :
    ∃ fresh, (SoundSystem.seededEngine 7).parse RuleFiles.voicedText = .ok fresh ∧
      outcomeAfter (.ofSeed 7) fresh [.ruleNames, .generate 3 .rare, .apply ["ta"]]
          (.generate 2 .never) =
        outcomeAfter (.ofSeed 7) fresh [.generate 3 .rare] (.generate 2 .never) ∧
      outcomeAfter (.ofSeed 7) fresh [.generate 3 .rare, .release] .ruleNames = .named [] := by
  obtain ⟨rule, compiled⟩ := RuleFiles.voicedFile_compiled
  have accepted := RuleFiles.parse_of_file RuleFiles.ofText_voicedText (compiled (.ofSeed 7))
  obtain ⟨live, released⟩ :=
    operations_do_not_interfere (.ofSeed 7) (RuleFiles.voicedSystem rule (.ofSeed 7))
  refine ⟨_, accepted, ?_, ?_⟩
  · exact (live [.generate 3 .rare] (by decide)).1
      [.ruleNames, .generate 3 .rare, .apply ["ta"]] 2 .never (by decide) (by decide)
  · exact (released [.generate 3 .rare, .release] (by decide)).2.2.1

end SoundChange.Operations
