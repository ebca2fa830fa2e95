import SoundChange.View
import SoundChange.Proofs.BatchRuns
import SoundChange.Proofs.Tabulation

/-! Which calls an engine gets, whatever it answers. A call is made only after all earlier ones have
succeeded, what it asks is what they answered, and a system that was made is released once, after
everything else. The lists of calls are given here from the answers of the engine alone. -/
namespace SoundChange.EngineCalls
open Reconciliation Sequencing Tabulation

variable {system value other : Type}

/-- A call and, exactly if it succeeds, the calls that its answer leads to. -/
def askingFirst (call : Call) (outcome : Except EngineFault value × system)
    (next : value → system → List Call) : List Call :=
  call :: match outcome.1 with
    | .ok answer => next answer outcome.2
    | .error _ => []

/-- The pronunciations asked for: those of the final forms in their order, up to and with the first
one that is refused. -/
def pronouncingCalls (engine : Engine system) : List Word → system → List Call
  | [], _ => []
  | form :: forms, s =>
    askingFirst (.transcribe form) (engine.transcribe form s) fun _ =>
      pronouncingCalls engine forms

instance (words : List Word) (result : Transformation) : Decidable (Aligned words result) :=
  decidable_of_iff _ (alignmentFault?_eq_none_iff words result)

/-- Nothing is asked about lists that do not line up. -/
def tabulatingCalls (engine : Engine system) (words : List Word) (result : Transformation)
    (s : system) : List Call :=
  if Aligned words result then pronouncingCalls engine result.output s else []

/-- The rules are run over the words, and their result is tabulated. -/
def followingCalls (engine : Engine system) (words : List Word) (s : system) : List Call :=
  askingFirst (.apply words) (engine.apply words s) (tabulatingCalls engine words)

/-- Words are invented, and something is done with exactly these words. -/
def inventingCalls (engine : Engine system) (count : Nat) (repartition : Repartition)
    (next : List Word → system → List Call) (s : system) : List Call :=
  askingFirst (.generate count repartition) (engine.generate count repartition s) next

/-- The calls of a run are one parse and, if it gives a system, what is asked of the system and one
release, the last call. -/
structure Served (engine : Engine system) (source : String) (asked : system → List Call)
    (calls : List Call) : Prop where
  refused : ∀ fault, engine.parse source = .error fault → calls = [.parse]
  accepted : ∀ s, engine.parse source = .ok s → calls = .parse :: (asked s ++ [.release])
  /-- A system that was made is released once, and nothing else is. -/
  released : calls.count .release = if (engine.parse source).isOk then 1 else 0

/-! The events of sessions. -/

/-- A sequence that starts with a call asks for what follows only if the call was answered. -/
theorem events_calling_bind (call : Call) (act : system → Except EngineFault value × system)
    (next : value → Session system other) (s : system) :
    ((Engine.calling call act >>= next) s).events =
      askingFirst call (act s) fun answer s' => (next answer s').events := by
  have ran : Engine.calling call act s = ⟨(act s).1.mapError .engine, (act s).2, [call]⟩ := rfl
  rw [askingFirst]
  cases outcome : (act s).1 with
  | error fault =>
    rw [outcome] at ran
    rw [run_bind_error (f := .engine fault)] <;> rw [ran]
    rfl
  | ok answer =>
    rw [outcome] at ran
    rw [run_bind_ok (v := answer)] <;> rw [ran]
    · rfl
    · rfl

/-- Computing with an answer is no event. -/
theorem events_bind_pure (session : Session system value) (f : value → other) (s : system) :
    ((session >>= fun v => pure (f v)) s).events = (session s).events := by
  cases answered : (session s).answer with
  | error fault => rw [run_bind_error answered]
  | ok v => rw [run_bind_ok answered, run_pure, List.append_nil]

theorem events_pronouncing (engine : Engine system) (forms : List Word) (s : system) :
    ((forms.mapM (pronouncing engine)) s).events = pronouncingCalls engine forms s := by
  induction forms generalizing s with
  | nil => rfl
  | cons form forms ih =>
    simp only [List.mapM_cons, pronouncing, events_calling_bind, events_bind_pure,
      pronouncingCalls]
    congr 1
    funext _ s'
    exact ih s'

/-- A table asks for the pronunciations of the final forms in turn, and for none if the lists do not
line up. -/
theorem events_tabulate (engine : Engine system) (words : List Word) (result : Transformation)
    (s : system) :
    (engine.tabulate words result s).events = tabulatingCalls engine words result s := by
  rw [tabulatingCalls]
  split
  · next aligned =>
    rw [tabulate_of_aligned engine aligned, events_bind_pure, events_pronouncing]
  · next apart =>
    cases outcome : reconcile words result with
    | error fault =>
      rw [tabulate_of_misaligned engine ((reconcile_error_iff fault).mp outcome)]
      rfl
    | ok matrix => exact absurd ((reconcile_ok_iff matrix).mp outcome).1 apart

theorem events_finish (engine : Engine system) (words : List Word) (result : Transformation)
    (s : system) :
    (engine.finish words result s).events = tabulatingCalls engine words result s := by
  rw [Engine.finish, events_bind_pure, events_tabulate]

theorem events_follow (engine : Engine system) (words : List Word) (s : system) :
    (engine.follow words s).events = followingCalls engine words s := by
  simp only [Engine.follow, Engine.applyRules, events_calling_bind, events_finish, followingCalls]

/-- Inventing words first, whatever is done with them. -/
theorem events_invent (engine : Engine system) (count : Nat) (repartition : Repartition)
    {session : List Word → Session system value} {next : List Word → system → List Call}
    (same : ∀ words s, (session words s).events = next words s) (s : system) :
    ((engine.generateWords count repartition >>= session) s).events =
      inventingCalls engine count repartition next s := by
  simp only [Engine.generateWords, events_calling_bind, same, inventingCalls]

/-! No session releases its own system. -/

/-- Calls that go by an answer hold no release, if neither the first one nor the later ones do. -/
theorem release_notMem_askingFirst {call : Call} {outcome : Except EngineFault value × system}
    {next : value → system → List Call} (kept : call ≠ .release)
    (unreleased : ∀ answer s, .release ∉ next answer s) :
    .release ∉ askingFirst call outcome next := by
  rw [askingFirst]
  cases outcome.1 with
  | error fault => simp [kept.symm]
  | ok answer => simp [kept.symm, unreleased]

theorem release_notMem_pronouncingCalls (engine : Engine system) (forms : List Word)
    (s : system) : .release ∉ pronouncingCalls engine forms s := by
  induction forms generalizing s with
  | nil => exact List.not_mem_nil
  | cons form forms ih => exact release_notMem_askingFirst Call.noConfusion fun _ => ih

theorem release_notMem_tabulatingCalls (engine : Engine system) (words : List Word)
    (result : Transformation) (s : system) :
    .release ∉ tabulatingCalls engine words result s := by
  rw [tabulatingCalls]
  split
  · exact release_notMem_pronouncingCalls engine _ s
  · exact List.not_mem_nil

theorem release_notMem_followingCalls (engine : Engine system) (words : List Word) (s : system) :
    .release ∉ followingCalls engine words s :=
  release_notMem_askingFirst Call.noConfusion (release_notMem_tabulatingCalls engine words)

theorem release_notMem_inventingCalls (engine : Engine system) (count : Nat)
    (repartition : Repartition) {next : List Word → system → List Call}
    (unreleased : ∀ words s, .release ∉ next words s) (s : system) :
    .release ∉ inventingCalls engine count repartition next s :=
  release_notMem_askingFirst Call.noConfusion unreleased

/-! Runs. -/

/-- The release of a session that makes none itself is the one of its bracket. -/
theorem served_withSystem (engine : Engine system) (source : String)
    {session : Session system value} {asked : system → List Call}
    (same : ∀ s, (session s).events = asked s) (unreleased : ∀ s, .release ∉ asked s) :
    Served engine source asked (engine.withSystem source session).calls := by
  cases parsed : engine.parse source with
  | error fault =>
    have calls : (engine.withSystem source session).calls = [.parse] := by
      rw [Engine.withSystem, parsed]
    refine ⟨fun _ _ => calls, ?_, ?_⟩
    · intro s made
      rw [parsed] at made
      cases made
    · rw [calls, parsed]
      rfl
  | ok s =>
    have calls : (engine.withSystem source session).calls = .parse :: (asked s ++ [.release]) := by
      rw [Engine.withSystem, parsed, ← same]
    refine ⟨?_, ?_, ?_⟩
    · intro fault failed
      rw [parsed] at failed
      cases failed
    · intro s' made
      rw [parsed] at made
      cases made
      exact calls
    · have unasked := List.count_eq_zero.mpr (unreleased s)
      rw [calls, parsed]
      simp [unasked, Except.isOk, Except.toBool]

/-- A request is served by inventing words and following them. -/
theorem served_runRequest (engine : Engine system) (request : Request) :
    Served engine request.rules
      (inventingCalls engine request.wordCount request.repartition (followingCalls engine))
      (engine.runRequest request).calls :=
  served_withSystem engine _ (events_invent engine _ _ (events_follow engine))
    (release_notMem_inventingCalls engine _ _ (release_notMem_followingCalls engine))

theorem served_runOnWords (engine : Engine system) (source : String) (words : List Word) :
    Served engine source (followingCalls engine words) (engine.runOnWords source words).calls :=
  served_withSystem engine source (events_follow engine words)
    (release_notMem_followingCalls engine words)

theorem served_runOnTranscript (engine : Engine system) (source : String)
    (transcript : Transcript) :
    Served engine source (tabulatingCalls engine transcript.words transcript.result)
      (engine.runOnTranscript source transcript).calls :=
  served_withSystem engine source (events_finish engine _ _)
    (release_notMem_tabulatingCalls engine _ _)

/-! Forms, and files of rules and transcripts. -/

/-- A word count that was read is between one and ten thousand. -/
theorem readWordCount_bounds {raw : String} {count : Nat} (read : readWordCount raw = .ok count) :
    1 ≤ count ∧ count ≤ 10000 := by
  rw [readWordCount] at read
  split at read
  · cases read
  · next number _ =>
    split at read
    · cases read
    · next positive =>
      split at read
      · next bounded =>
        cases read
        rw [wordLimit] at bounded
        omega
      · cases read

theorem submit_calls (view : View) (engine : Engine system) (form : Form) :
    (view.submit engine form).1.calls = (View.runOfForm engine form).calls := by
  rw [View.submit]
  cases (View.runOfForm engine form).answer <;> rfl

/-- A form that is not valid is refused without a call. -/
theorem submit_of_fault (view : View) (engine : Engine system) {form : Form} {fault : InputFault}
    (invalid : form.validate = .error fault) :
    (view.submit engine form).1 = ⟨.error (.input fault), []⟩ := by
  have run : View.runOfForm engine form = ⟨.error (.input fault), []⟩ := by
    rw [View.runOfForm, invalid]
  rw [View.submit, run]

/-- Whatever an engine answers, it is asked nothing about a form that is not valid, and a bad word
count is reported before a bad repartition. A valid form, given words and a transcript that is
rendered each have their law of calls: every call is made exactly if all before it succeeded, on
what these answered, and every system is released once, by the last call. A rendering that cannot
read its rules or its transcript never gets as far as the engine. -/
theorem calls_follow_answers (engine : Engine system) :
    (∀ (view : View) (form : Form),
      let submission := (view.submit engine form).1
      (∀ fault, readWordCount form.wordCount = .error fault →
        submission = ⟨.error (.input fault), []⟩) ∧
      ∀ count, readWordCount form.wordCount = .ok count →
        (1 ≤ count ∧ count ≤ 10000) ∧
        (∀ fault, form.chosenRepartition = .error fault →
          submission = ⟨.error (.input fault), []⟩) ∧
        ∀ repartition, form.chosenRepartition = .ok repartition →
          Served engine form.rules
            (inventingCalls engine count repartition (followingCalls engine)) submission.calls) ∧
    (∀ source words,
      Served engine source (followingCalls engine words) (engine.runOnWords source words).calls) ∧
    ∀ world rules saved format output,
      let made := (Batch.make World.host engine ⟨rules, .render saved, format, output⟩ world).1
      match (World.host.readText rules world).1, (Transcript.load World.host saved world).1 with
      | .ok source, .ok transcript => ∃ run, made = .ok run ∧
          Served engine source (tabulatingCalls engine transcript.words transcript.result)
            run.calls
      | _, _ => ∃ fault, made = .error fault := by
  refine ⟨?_, served_runOnWords engine, ?_⟩
  · intro view form
    refine ⟨?_, ?_⟩
    · intro fault miscounted
      apply submit_of_fault
      rw [Form.validate, miscounted]
    · intro count counted
      refine ⟨readWordCount_bounds counted, ?_, ?_⟩
      · intro fault unpicked
        apply submit_of_fault
        rw [Form.validate, counted]
        simp only [unpicked]
      · intro repartition picked
        have valid : form.validate = .ok ⟨form.rules, count, repartition⟩ := by
          rw [Form.validate, counted]
          simp only [picked]
        rw [submit_calls, View.runOfForm, valid]
        exact served_runRequest engine ⟨form.rules, count, repartition⟩
  · intro world rules saved format output
    rw [BatchRuns.make_render]
    cases (World.host.readText rules world).1 with
    | error fault => exact ⟨_, rfl⟩
    | ok source =>
      cases (Transcript.load World.host saved world).1 with
      | error fault => exact ⟨_, rfl⟩
      | ok transcript => exact ⟨_, rfl, served_runOnTranscript engine source transcript⟩

end SoundChange.EngineCalls
