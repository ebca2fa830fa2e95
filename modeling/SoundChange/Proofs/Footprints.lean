import SoundChange.Proofs.Sessions

/-! Footprints: what each operation of a sound system reads and what it changes. Words are invented
from the classes, the syllables and the draws, and only the draws are changed by that. Rules are read
when they are run, and spellings when a word is pronounced. Operations answer alike on systems that
agree on what they read. -/
namespace SoundChange.Footprints
open Sequencing Tabulation Sessions

/-- Two systems that invent the same words. -/
structure SameInvention (a b : SoundSystem) : Prop where
  classes : a.classes = b.classes
  syllables : a.syllables = b.syllables
  draws : a.draws = b.draws
  released : a.released = b.released

/-- Two systems that run the same rules. -/
structure SameRules (a b : SoundSystem) : Prop where
  rules : a.rules = b.rules
  released : a.released = b.released

/-- Two systems that pronounce with the same spellings. -/
structure SameVoice (a b : SoundSystem) : Prop where
  spellings : a.spellings = b.spellings
  strict : a.strict = b.strict

/-! Inventing words. -/

/-- The words that were drawn, without empty and repeated ones; there must be some. -/
def kept (drawn : List Word) : Except GenerationFault (List Word) :=
  if (SoundSystem.distinct drawn).isEmpty then .error .onlyEmptyWords
  else .ok (SoundSystem.distinct drawn)

variable {system : SoundSystem}

/-- The draws of a number of words from a system. -/
def drawing (system : SoundSystem) (repartition : Repartition) (count : Nat) :
    Traced.Result Draw Random.Draws GenerationFault (List Word) :=
  SoundSystem.drawWords system.classes system.syllables repartition.share count system.draws

theorem invent_of_released (released : system.released = true) (count : Nat)
    (repartition : Repartition) : system.invent count repartition = Traced.fail .released :=
  if_pos released

theorem invent_of_bare (live : system.released = false) (bare : system.syllables = [])
    (count : Nat) (repartition : Repartition) :
    system.invent count repartition = Traced.fail .noSyllables := by
  have none_left : system.syllables.isEmpty = true := by simpa using bare
  simp only [SoundSystem.invent, live, none_left, Bool.false_eq_true, ↓reduceIte]

/-- A live system with syllables draws its words, and makes no draws beside. -/
theorem invent_of_live (live : system.released = false) (inhabited : system.syllables ≠ [])
    (count : Nat) (repartition : Repartition) :
    system.invent count repartition system.draws =
      ⟨(drawing system repartition count).answer.bind kept,
        (drawing system repartition count).state, (drawing system repartition count).events⟩ := by
  have some_ : system.syllables.isEmpty = false := by simpa using inhabited
  simp only [SoundSystem.invent, live, some_, Bool.false_eq_true, ↓reduceIte]
  cases drawn : (drawing system repartition count).answer with
  | error fault => exact run_bind_error drawn _
  | ok words =>
    rw [run_bind_ok drawn, Except.bind, kept]
    split <;> exact result_ext rfl rfl (List.append_nil _)

/-- What is kept are the distinct words, of which there are some. -/
theorem kept_ok_iff {drawn words : List Word} :
    kept drawn = .ok words ↔ words = SoundSystem.distinct drawn ∧ words ≠ [] := by
  rw [kept]
  split
  · rename_i none_left
    have same : SoundSystem.distinct drawn = [] := by simpa using none_left
    simp [same]
  · rename_i some_
    have inhabited : SoundSystem.distinct drawn ≠ [] := by simpa using some_
    simp only [Except.ok.injEq]
    constructor
    · rintro rfl
      exact ⟨rfl, inhabited⟩
    · rintro ⟨rfl, -⟩
      rfl

theorem fault_of_kept {drawn : List Word} {fault : GenerationFault}
    (failed : kept drawn = .error fault) : fault = .onlyEmptyWords := by
  rw [kept] at failed
  split at failed
  · cases failed
    rfl
  · cases failed

variable {a b : SoundSystem}

/-- Systems that agree on what inventing reads invent the same words. -/
theorem invent_congr (same : SameInvention a b) (count : Nat) (repartition : Repartition) :
    a.invent count repartition a.draws = b.invent count repartition b.draws := by
  simp only [SoundSystem.invent, same.classes, same.syllables, same.draws, same.released]

/-! Running rules and pronouncing words. -/

theorem apply_congr (same : SameRules a b) (words : List Word) : a.apply words = b.apply words := by
  rw [SoundSystem.apply, SoundSystem.apply, same.rules, same.released]

theorem pronounce_congr (voice : SameVoice a b) (word : Word) :
    a.pronounce word = b.pronounce word := by
  rw [SoundSystem.pronounce, SoundSystem.pronounce, voice.spellings, voice.strict]

/-! Whole stages of a session. The draws of an engine only matter for the systems it makes. -/

variable {draws draws' : Random.Draws} {words : List Word} {result : Transformation}

/-- An engine answers with the words that its system invents, its faults as reports. -/
theorem answer_generateWords (count : Nat) (repartition : Repartition) (system : SoundSystem) :
    ((SoundSystem.engine draws).generateWords count repartition system).answer =
      (system.invent count repartition system.draws).answer.mapError
        fun fault => .engine fault.asEngineFault := by
  simp only [Engine.generateWords, Engine.calling, rename_perform, Traced.perform,
    SoundSystem.engine, SoundSystem.generate]
  cases (system.invent count repartition system.draws).answer <;> rfl

theorem state_generateWords (count : Nat) (repartition : Repartition) (system : SoundSystem) :
    ((SoundSystem.engine draws).generateWords count repartition system).state =
      { system with draws := (system.invent count repartition system.draws).state } := by
  simp only [Engine.generateWords, Engine.calling, rename_perform, Traced.perform,
    SoundSystem.engine, SoundSystem.generate]

/-- A table only depends on how words are pronounced. -/
theorem answer_tabulate_congr (voice : SameVoice a b) :
    ((SoundSystem.engine draws).tabulate words result a).answer =
      ((SoundSystem.engine draws').tabulate words result b).answer := by
  cases outcome : reconcile words result with
  | error fault =>
    have misaligned := (Reconciliation.reconcile_error_iff fault).mp outcome
    rw [tabulate_of_misaligned _ misaligned, tabulate_of_misaligned _ misaligned]
    rfl
  | ok matrix =>
    have aligned := ((Reconciliation.reconcile_ok_iff matrix).mp outcome).1
    rw [tabulate_of_aligned _ aligned, tabulate_of_aligned _ aligned]
    apply answer_bind_congr
    · rw [answer_mapM_of_steady pronouncing_steady, answer_mapM_of_steady pronouncing_steady]
      simp only [answer_pronouncing, pronounce_congr voice]
    · intro sounds _
      rfl

theorem answer_finish_congr (voice : SameVoice a b) :
    ((SoundSystem.engine draws).finish words result a).answer =
      ((SoundSystem.engine draws').finish words result b).answer :=
  answer_bind_congr (answer_tabulate_congr voice) fun _ _ => rfl

/-- Running rules over given words and tabulating them does not depend on how words are invented. -/
theorem answer_follow_congr (rules : SameRules a b) (voice : SameVoice a b) :
    ((SoundSystem.engine draws).follow words a).answer =
      ((SoundSystem.engine draws').follow words b).answer := by
  apply answer_bind_congr
  · rw [answer_applyRules, answer_applyRules, apply_congr rules]
  · intro result _
    exact answer_finish_congr voice

end SoundChange.Footprints
