import SoundChange.Generation
import SoundChange.Proofs.Tabulation

/-! What a session comes to, stage by stage. An engine answers whatever it likes and may change its
system with every call, so each stage is described by what the engine answers on the system that the
stage before it left. -/
namespace SoundChange.Stages
open Reconciliation Sequencing Tabulation

variable {system value other : Type}

/-- Every form has a pronunciation, asked for one after the other. -/
inductive Pronounced (engine : Engine system) : List Word → system → List String → Prop
  | none (s : system) : Pronounced engine [] s []
  | next {form : Word} {forms : List Word} {s s' : system} {sound : String}
      {sounds : List String} (answered : engine.transcribe form s = (.ok sound, s'))
      (others : Pronounced engine forms s' sounds) :
    Pronounced engine (form :: forms) s (sound :: sounds)

/-- The form at this place is the first one that has no pronunciation. -/
inductive Refused (engine : Engine system) : Nat → List Word → system → EngineFault → Prop
  | here {form : Word} (forms : List Word) {s s' : system} {fault : EngineFault}
      (refused : engine.transcribe form s = (.error fault, s')) :
    Refused engine 0 (form :: forms) s fault
  | later {place : Nat} {form : Word} {forms : List Word} {s s' : system} {sound : String}
      {fault : EngineFault} (answered : engine.transcribe form s = (.ok sound, s'))
      (others : Refused engine place forms s' fault) :
    Refused engine (place + 1) (form :: forms) s fault

/-- Why there is no table: the lists do not line up, or they do and a final form has no
pronunciation. -/
inductive Untabled (engine : Engine system) (words : List Word) (result : Transformation)
    (s : system) : RequestFault → Prop
  | misaligned {fault : ContractFault} (misaligned : Misaligned words result fault) :
    Untabled engine words result s (.contract fault)
  | refused {place : Nat} {fault : EngineFault} (aligned : Aligned words result)
      (refused : Refused engine place result.output s fault) :
    Untabled engine words result s (.engine fault)

/-! Single calls. -/

theorem run_calling (call : Call) (act : system → Except EngineFault value × system) (s : system) :
    Engine.calling call act s = ⟨(act s).1.mapError .engine, (act s).2, [call]⟩ := rfl

/-- What follows a call that is answered runs on the system that the call left. -/
theorem answer_calling_ok {call : Call} {act : system → Except EngineFault value × system}
    {s s' : system} {v : value} (answered : act s = (.ok v, s'))
    (next : value → Session system other) :
    ((Engine.calling call act >>= next) s).answer = (next v s').answer := by
  have ran : Engine.calling call act s = ⟨.ok v, s', [call]⟩ := by
    rw [run_calling, answered]
    rfl
  rw [run_bind_ok (v := v)] <;> rw [ran]

/-- Nothing follows a call that is refused. -/
theorem answer_calling_error {call : Call} {act : system → Except EngineFault value × system}
    {s s' : system} {fault : EngineFault} (refused : act s = (.error fault, s'))
    (next : value → Session system other) :
    ((Engine.calling call act >>= next) s).answer = .error (.engine fault) := by
  have ran : Engine.calling call act s = ⟨.error (.engine fault), s', [call]⟩ := by
    rw [run_calling, refused]
    rfl
  rw [run_bind_error (f := .engine fault)]
  rw [ran]

theorem answer_map_ok {session : Session system value} {s : system} {v : value}
    (answered : (session s).answer = .ok v) (f : value → other) :
    ((session >>= fun v => pure (f v)) s).answer = .ok (f v) := by
  rw [run_bind_ok answered]
  rfl

theorem answer_map_error {session : Session system value} {s : system} {fault : RequestFault}
    (failed : (session s).answer = .error fault) (f : value → other) :
    ((session >>= fun v => pure (f v)) s).answer = .error fault := by
  rw [run_bind_error failed]

/-! Pronunciations. -/

theorem answer_of_pronounced {engine : Engine system} {forms : List Word} {s : system}
    {sounds : List String} (pronounced : Pronounced engine forms s sounds) :
    ((forms.mapM (pronouncing engine)) s).answer = .ok sounds := by
  induction pronounced with
  | none s => rfl
  | next answered _ ih =>
    rw [List.mapM_cons, pronouncing, answer_calling_ok answered]
    exact answer_map_ok ih _

theorem answer_of_refused {engine : Engine system} {place : Nat} {forms : List Word} {s : system}
    {fault : EngineFault} (refused : Refused engine place forms s fault) :
    ((forms.mapM (pronouncing engine)) s).answer = .error (.engine fault) := by
  induction refused with
  | here forms refused => rw [List.mapM_cons, pronouncing, answer_calling_error refused]
  | later answered _ ih =>
    rw [List.mapM_cons, pronouncing, answer_calling_ok answered]
    exact answer_map_error ih _

/-- Asking for pronunciations comes to the end, or to a first refusal. -/
theorem pronounced_or_refused (engine : Engine system) (forms : List Word) (s : system) :
    (∃ sounds, Pronounced engine forms s sounds) ∨
      ∃ place fault, Refused engine place forms s fault := by
  induction forms generalizing s with
  | nil => exact .inl ⟨[], .none s⟩
  | cons form forms ih =>
    rcases asked : engine.transcribe form s with ⟨fault | sound, s'⟩
    · exact .inr ⟨0, fault, .here forms asked⟩
    · rcases ih s' with ⟨sounds, others⟩ | ⟨place, fault, others⟩
      · exact .inl ⟨sound :: sounds, .next asked others⟩
      · exact .inr ⟨place + 1, fault, .later asked others⟩

/-! Tables. -/

variable {engine : Engine system} {words : List Word} {result : Transformation} {s : system}

theorem answer_tabulate_of_pronounced {sounds : List String} (aligned : Aligned words result)
    (pronounced : Pronounced engine result.output s sounds) :
    (engine.tabulate words result s).answer = .ok (assembled words result sounds) := by
  rw [tabulate_of_aligned engine aligned]
  exact answer_map_ok (answer_of_pronounced pronounced) _

theorem answer_tabulate_of_untabled {fault : RequestFault}
    (untabled : Untabled engine words result s fault) :
    (engine.tabulate words result s).answer = .error fault := by
  cases untabled with
  | misaligned misaligned =>
    rw [tabulate_of_misaligned engine misaligned]
    rfl
  | refused aligned refused =>
    rw [tabulate_of_aligned engine aligned]
    exact answer_map_error (answer_of_refused refused) _

/-- Either every final form of aligned lists is pronounced, or there is a reason for no table. -/
theorem tabled_or_untabled (engine : Engine system) (words : List Word)
    (result : Transformation) (s : system) :
    (Aligned words result ∧ ∃ sounds, Pronounced engine result.output s sounds) ∨
      ∃ fault, Untabled engine words result s fault := by
  cases outcome : reconcile words result with
  | error fault => exact .inr ⟨_, .misaligned ((reconcile_error_iff fault).mp outcome)⟩
  | ok matrix =>
    have aligned := ((reconcile_ok_iff matrix).mp outcome).1
    rcases pronounced_or_refused engine result.output s with pronounced | ⟨place, fault, refused⟩
    · exact .inl ⟨aligned, pronounced⟩
    · exact .inr ⟨_, .refused aligned refused⟩

/-- A table that is not made has one of these reasons, and it is the reported one. -/
theorem untabled_of_answer {fault : RequestFault}
    (failed : (engine.tabulate words result s).answer = .error fault) :
    Untabled engine words result s fault := by
  rcases tabled_or_untabled engine words result s with ⟨aligned, _, pronounced⟩ | ⟨other, untabled⟩
  · rw [answer_tabulate_of_pronounced aligned pronounced] at failed
    cases failed
  · rw [answer_tabulate_of_untabled untabled] at failed
    cases failed
    exact untabled

end SoundChange.Stages
