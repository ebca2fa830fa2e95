import SoundChange.SoundSystem.Engine
import SoundChange.Proofs.Stages
import SoundChange.Text.Lines

/-! Messages of faults. Every message says something: among its lines is one that is not empty. What
a run reports comes from its engine or from lists that do not line up, so a run with a sound system
that is not stopped only ends in messages that can be seen. -/
namespace SoundChange.FaultMessages
open Sequencing Stages Text

/-- A text with a character that does not end a line. -/
def Legible (text : String) : Prop :=
  ∃ c ∈ text.toList, c ≠ '\n' ∧ c ≠ '\r'

instance (text : String) : Decidable (Legible text) :=
  decidable_of_iff ((text.toList.any fun c => c != '\n' && c != '\r') = true)
    (by simp [Legible, List.any_eq_true])

/-- What is said, if anything is, can be seen. -/
def Visible (message : Option String) : Prop :=
  ∀ text ∈ message, Legible text

/-! Lines. -/

/-- A character that is no newline is in one of the pieces of its text. -/
theorem mem_pieces {c : Char} {text : List Char} (member : c ∈ text) (other : c ≠ '\n') :
    ∃ piece ∈ pieces text, c ∈ piece := by
  induction text with
  | nil => exact absurd member List.not_mem_nil
  | cons first rest ih =>
    have later (inside : c ∈ rest) : ∃ piece ∈ pieces (first :: rest), c ∈ piece := by
      obtain ⟨piece, found, inside⟩ := ih inside
      rw [pieces]
      split
      · exact ⟨piece, List.mem_cons_of_mem _ found, inside⟩
      · cases parts : pieces rest with
        | nil => rw [parts] at found; exact absurd found List.not_mem_nil
        | cons head others =>
          rw [parts] at found
          rcases List.mem_cons.mp found with rfl | found
          · exact ⟨_, List.mem_cons_self, List.mem_cons_of_mem _ inside⟩
          · exact ⟨piece, List.mem_cons_of_mem _ found, inside⟩
    rcases List.mem_cons.mp member with rfl | inside
    · rw [pieces, if_neg other]
      cases pieces rest with
      | nil => exact ⟨_, List.mem_cons_self, List.mem_cons_self⟩
      | cons head others => exact ⟨_, List.mem_cons_self, List.mem_cons_self⟩
    · exact later inside

theorem mem_dropReturn {c : Char} {line : List Char} (member : c ∈ line) (other : c ≠ '\r') :
    c ∈ dropReturn line := by
  rw [dropReturn]
  split
  · rename_i ended
    obtain ⟨front, rfl⟩ := List.getLast?_eq_some_iff.mp ended
    simpa [other] using member
  · exact member

/-- A character that is no carriage return is in a line, if it is in a piece. -/
theorem mem_linesOfPieces {c : Char} {parts : List (List Char)} {piece : List Char}
    (found : piece ∈ parts) (member : c ∈ piece) (other : c ≠ '\r') :
    ∃ line ∈ linesOfPieces parts, c ∈ line := by
  induction parts using linesOfPieces.induct with
  | case1 => exact absurd found List.not_mem_nil
  | case2 =>
    obtain rfl := List.mem_singleton.mp found
    exact absurd member List.not_mem_nil
  | case3 last inhabited =>
    obtain rfl := List.mem_singleton.mp found
    rw [linesOfPieces, if_neg inhabited]
    exact ⟨_, List.mem_cons_self, member⟩
  | case4 head next others ih =>
    rw [linesOfPieces]
    rcases List.mem_cons.mp found with rfl | found
    · exact ⟨_, List.mem_cons_self, mem_dropReturn member other⟩
    · obtain ⟨line, listed, inside⟩ := ih found
      exact ⟨line, List.mem_cons_of_mem _ listed, inside⟩

/-- A legible text has a line that is not empty. -/
theorem Legible.line {text : String} (legible : Legible text) :
    ∃ line ∈ textLines text, line ≠ "" := by
  obtain ⟨c, member, notNewline, notReturn⟩ := legible
  obtain ⟨piece, found, inside⟩ := mem_pieces member notNewline
  obtain ⟨line, listed, inside⟩ := mem_linesOfPieces found inside notReturn
  refine ⟨String.ofList line, List.mem_map_of_mem listed, ?_⟩
  intro empty
  have nothing : line = [] := by simpa using congrArg String.toList empty
  rw [nothing] at inside
  exact absurd inside List.not_mem_nil

/-! Messages. -/

/-- A text that starts legibly is legible. -/
theorem Legible.append {text : String} (legible : Legible text) (rest : String) :
    Legible (text ++ rest) := by
  obtain ⟨c, member, other⟩ := legible
  refine ⟨c, ?_, other⟩
  rw [String.toList_append]
  exact List.mem_append_left _ member

theorem legible_input (fault : InputFault) : Legible fault.message := by
  cases fault <;> unfold InputFault.message <;>
    (repeat with_reducible apply Legible.append) <;> decide

theorem legible_contract (fault : ContractFault) : Legible fault.message := by
  cases fault <;> unfold ContractFault.message <;>
    (repeat with_reducible apply Legible.append) <;> decide

theorem legible_compile (fault : CompileFault) : Legible fault.message := by
  cases fault with
  | document fault => cases fault <;> decide
  | _ =>
    unfold CompileFault.message
    repeat with_reducible apply Legible.append
    decide

theorem visible_some {text : String} (legible : Legible text) : Visible (some text) := by
  rintro _ ⟨⟩
  exact legible

theorem visible_none : Visible none := by
  rintro _ ⟨⟩

/-- A generation fails with a message that can be seen, or without one. -/
theorem visible_generation (fault : GenerationFault) : Visible fault.message := by
  cases fault with
  | exhausted => exact visible_none
  | outOfRange => exact visible_none
  | weights letterClass fault =>
    cases fault with
    | unbounded => exact visible_none
    | _ =>
      refine visible_some ?_
      repeat with_reducible apply Legible.append
      decide
  | _ =>
    refine visible_some ?_
    repeat with_reducible apply Legible.append
    decide

theorem visible_asEngineFault (fault : GenerationFault) : Visible fault.asEngineFault.message := by
  rw [GenerationFault.asEngineFault]
  cases said : fault.message with
  | none => exact visible_none
  | some report => exact visible_some (visible_generation fault report said)

theorem legible_transformation (fault : TransformationFault) : Legible fault.message := by
  cases fault <;> unfold TransformationFault.message <;>
    (repeat with_reducible apply Legible.append) <;> decide

theorem legible_transcription (fault : TranscriptionFault) : Legible fault.message := by
  unfold TranscriptionFault.message
  repeat with_reducible apply Legible.append
  decide

/-! Runs. -/

section Sessions
variable {system value other : Type} {engine : Engine system} {allowed : RequestFault → Prop}

/-- A session that only ends in faults of some kind. -/
def FailsOnly (allowed : RequestFault → Prop) (session : Session system value) : Prop :=
  ∀ s fault, (session s).answer = .error fault → allowed fault

/-- A contract that an engine broke, or what it says in words that can be seen. -/
inductive Reported : RequestFault → Prop
  | contract (fault : ContractFault) : Reported (.contract fault)
  | engine {fault : EngineFault} (visible : Visible fault.message) : Reported (.engine fault)

/-- An engine that is never reported to fail without anything to be seen. -/
structure Speaks (engine : Engine system) : Prop where
  parse : ∀ source fault, engine.parse source = .error fault → Visible fault.message
  generate : ∀ count repartition s fault,
    (engine.generate count repartition s).1 = .error fault → Visible fault.message
  apply : ∀ words s fault, (engine.apply words s).1 = .error fault → Visible fault.message
  transcribe : ∀ word s fault, (engine.transcribe word s).1 = .error fault → Visible fault.message

/-- Reports can be seen, unless the program stopped. -/
theorem Reported.visible {fault : RequestFault} (reported : Reported fault) :
    Visible fault.message := by
  cases reported with
  | contract fault => exact visible_some (legible_contract fault)
  | engine visible => exact visible

theorem Reported.ne_input {fault : RequestFault} (reported : Reported fault) (input : InputFault) :
    fault ≠ .input input := by
  cases reported <;> exact RequestFault.noConfusion

/-- A sequence fails only as its parts do. -/
theorem FailsOnly.bind {first : Session system value} {second : value → Session system other}
    (before : FailsOnly allowed first) (after : ∀ v, FailsOnly allowed (second v)) :
    FailsOnly allowed (first >>= second) := by
  intro s fault failed
  cases answered : (first s).answer with
  | ok v =>
    rw [run_bind_ok answered] at failed
    exact after v _ fault failed
  | error fault' =>
    rw [run_bind_error answered] at failed
    cases failed
    exact before s fault answered

/-- A call only fails as the engine reports. -/
theorem failsOnly_calling (call : Call) {act : system → Except EngineFault value × system}
    (speaks : ∀ s fault, (act s).1 = .error fault → Visible fault.message) :
    FailsOnly Reported (Engine.calling call act) := by
  intro s fault failed
  rw [run_calling] at failed
  obtain ⟨report, refused, rfl⟩ := mapError_error_iff.mp failed
  exact .engine (speaks s report refused)

/-- The first refusal of a pronunciation is a report of the engine. -/
theorem visible_of_refused (speaks : Speaks engine) {place : Nat} {forms : List Word} {s : system}
    {fault : EngineFault} (refused : Refused engine place forms s fault) :
    Visible fault.message := by
  induction refused with
  | here forms refused => exact speaks.transcribe _ _ _ (congrArg Prod.fst refused)
  | later _ _ ih => exact ih

theorem failsOnly_tabulate (speaks : Speaks engine) (words : List Word) (result : Transformation) :
    FailsOnly Reported (engine.tabulate words result) := by
  intro s fault failed
  cases untabled_of_answer failed with
  | misaligned misaligned => exact .contract _
  | refused aligned refused => exact .engine (visible_of_refused speaks refused)

theorem failsOnly_follow (speaks : Speaks engine) (words : List Word) :
    FailsOnly Reported (engine.follow words) := by
  refine .bind (failsOnly_calling _ (speaks.apply words)) fun result => ?_
  refine .bind (failsOnly_tabulate speaks words result) fun table => ?_
  intro s fault failed
  cases failed

/-- A run of a request never blames the form, and what it ends in can be seen. -/
theorem reported_of_runRequest (speaks : Speaks engine) {request : Request} {fault : RequestFault}
    (failed : (engine.runRequest request).answer = .error fault) : Reported fault := by
  rw [Engine.runRequest, Engine.withSystem] at failed
  cases parsed : engine.parse request.rules with
  | error refusal =>
    rw [parsed] at failed
    cases failed
    exact .engine (speaks.parse _ _ parsed)
  | ok s =>
    rw [parsed] at failed
    have invents : FailsOnly Reported
        (engine.generateWords request.wordCount request.repartition) :=
      failsOnly_calling _ (speaks.generate _ _)
    exact invents.bind (failsOnly_follow speaks) s fault failed

end Sessions

/-- Whatever a sound system reports can be seen. -/
theorem speaks_engine (draws : Random.Draws) : Speaks (SoundSystem.engine draws) where
  parse source fault failed := by
    obtain ⟨cause, -, rfl⟩ := mapError_error_iff.mp failed
    exact visible_some (legible_compile cause)
  generate count repartition s fault failed := by
    obtain ⟨cause, -, rfl⟩ := mapError_error_iff.mp failed
    exact visible_asEngineFault cause
  apply words s fault failed := by
    obtain ⟨cause, -, rfl⟩ := mapError_error_iff.mp failed
    exact visible_some (legible_transformation cause)
  transcribe word s fault failed := by
    obtain ⟨cause, -, rfl⟩ := mapError_error_iff.mp failed
    exact visible_some (legible_transcription cause)

end SoundChange.FaultMessages
