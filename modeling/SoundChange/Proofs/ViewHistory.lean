import SoundChange.View

/-! Whatever happened to a view before, it shows the outcome of the last operation and nothing else:
the table of a generation, the message of a fault, or nothing. Engines are arbitrary and may differ
from one submission to the next, and an engine may also stop the program in a submission. -/
namespace SoundChange.ViewHistory

/-- One operation on a view. -/
inductive Operation : Type 1 where
  | clear
  | submit {system : Type} (engine : Engine system) (form : Form)

/-- The view after an operation. -/
def perform (view : View) : Operation → View
  | .clear => view.clear
  | .submit engine form => (view.submit engine form).2

/-- The view after operations in turn, the first one on an empty view. -/
def run (operations : List Operation) : View :=
  operations.foldl perform .empty

/-- A view never has both a table and a message. -/
def Exclusive (view : View) : Prop :=
  ¬ (view.table.isSome ∧ view.fault.isSome)

/-- A view with the table of a generation or the message of its fault, and nothing else. -/
def Shows (view : View) : Except RequestFault Generation → Prop
  | .ok generation => view = ⟨some generation.table, none⟩
  | .error fault => view = ⟨none, fault.message⟩

variable {system : Type}

/-- Every fault has something to say but a stop. -/
theorem message_eq_none_iff (fault : RequestFault) : fault.message = none ↔ fault.stops = true := by
  cases fault with
  | input fault => simp [RequestFault.message, RequestFault.stops]
  | contract fault => simp [RequestFault.message, RequestFault.stops]
  | engine fault =>
    cases fault <;> simp [RequestFault.message, RequestFault.stops, EngineFault.message]

/-- Submitting shows the run of the form, whatever the view showed before. -/
theorem submit_shows (view : View) (engine : Engine system) (form : Form) :
    Shows (view.submit engine form).2 (View.runOfForm engine form).answer := by
  cases outcome : (View.runOfForm engine form).answer with
  | ok generation => simp [View.submit, outcome, Shows, View.clear]
  | error fault => simp [View.submit, outcome, Shows, View.clear]

/-- A submission answers as the run of its form does. -/
theorem submit_answer (view : View) (engine : Engine system) (form : Form) :
    (view.submit engine form).1.answer =
      (View.runOfForm engine form).answer.map fun _ => () := by
  cases outcome : (View.runOfForm engine form).answer with
  | ok generation => simp [View.submit, outcome, Except.map]
  | error fault => simp [View.submit, outcome, Except.map]

/-- The fault that a submission returns is the one that the view has the message of. -/
theorem fault_of_submit (view : View) (engine : Engine system) (form : Form) {fault : RequestFault}
    (failed : (view.submit engine form).1.answer = .error fault) :
    (view.submit engine form).2.fault = fault.message := by
  have shows := submit_shows view engine form
  rw [submit_answer] at failed
  cases outcome : (View.runOfForm engine form).answer with
  | ok generation => rw [outcome] at failed; cases failed
  | error fault' =>
    rw [outcome] at failed shows
    cases failed
    rw [shows]

theorem submit_forgets (view : View) (engine : Engine system) (form : Form) :
    view.submit engine form = View.empty.submit engine form := rfl

theorem perform_forgets (view : View) (operation : Operation) :
    perform view operation = perform .empty operation := by
  cases operation with
  | clear => rfl
  | submit engine form => exact congrArg Prod.snd (submit_forgets view engine form)

theorem exclusive_of_shows {view : View} {outcome : Except RequestFault Generation}
    (shows : Shows view outcome) : Exclusive view := by
  cases outcome with
  | ok generation => rw [shows]; simp [Exclusive]
  | error fault => rw [shows]; simp [Exclusive]

/-- Every operation leaves at most one thing to show. -/
theorem perform_exclusive (view : View) (operation : Operation) :
    Exclusive (perform view operation) := by
  cases operation with
  | clear => simp [Exclusive, perform, View.clear]
  | submit engine form => exact exclusive_of_shows (submit_shows view engine form)

theorem run_concat (operations : List Operation) (next : Operation) :
    run (operations ++ [next]) = perform (run operations) next := by
  rw [run, List.foldl_append]
  rfl

theorem run_exclusive (operations : List Operation) : Exclusive (run operations) := by
  rcases List.eq_nil_or_concat operations with rfl | ⟨earlier, last, rfl⟩
  · simp [Exclusive, run, View.empty]
  · rw [List.concat_eq_append, run_concat]
    exact perform_exclusive _ _

theorem run_submit (operations : List Operation) (engine : Engine system) (form : Form) :
    Shows (run (operations ++ [.submit engine form])) (View.runOfForm engine form).answer := by
  rw [run_concat]
  exact submit_shows (run operations) engine form

/-- After any operations a view shows at most one thing, and the next operation does what it does on
an empty view. Clearing leaves nothing. A submission that comes back leaves a table exactly when it
succeeds, the one of the generation that was made, and otherwise the message of the very fault that it
returns. Where the program stops in a submission, it has shown nothing. -/
theorem view_shows_last_operation (operations : List Operation) :
    Exclusive (run operations) ∧
      (∀ next, run (operations ++ [next]) = perform .empty next) ∧
      run (operations ++ [.clear]) = ⟨none, none⟩ ∧
      ∀ {system : Type} (engine : Engine system) (form : Form),
        let submission := ((run operations).submit engine form).1
        let after := run (operations ++ [.submit engine form])
        submission = (View.empty.submit engine form).1 ∧
          (after.table.isSome ↔ submission.answer = .ok ()) ∧
          (∀ fault, submission.answer = .error fault → after.fault = fault.message) ∧
          (∀ generation, (View.runOfForm engine form).answer = .ok generation →
            after.table = some generation.table) ∧
          (submission.stops = false → (after.table.isSome ↔ ¬ after.fault.isSome)) ∧
          (submission.stops = true → after = ⟨none, none⟩) := by
  refine ⟨run_exclusive operations, ?_, ?_, ?_⟩
  · intro next
    rw [run_concat, perform_forgets]
  · rw [run_concat]
    rfl
  · intro system engine form
    have shows := run_submit operations engine form
    have answers := submit_answer (run operations) engine form
    refine ⟨congrArg Prod.fst (submit_forgets _ _ _), ?_⟩
    cases outcome : (View.runOfForm engine form).answer with
    | ok generation =>
      rw [outcome] at shows answers
      rw [shows, Run.stops, answers]
      simp [Except.map]
    | error fault =>
      rw [outcome] at shows answers
      rw [shows, Run.stops, answers]
      have silent := message_eq_none_iff fault
      simp only [Except.map]
      cases said : fault.message with
      | none => simp [silent.mp said, said]
      | some text =>
        have goes_on : fault.stops = false := by simpa [said] using silent
        simp [goes_on, said]

end SoundChange.ViewHistory
