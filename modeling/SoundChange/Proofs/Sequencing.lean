import SoundChange.Engine
import Mathlib.Data.List.Forall2

/-! Traced computations obey the laws of a monad, and renaming events and faults commutes with
sequencing. Running the same computation over a list answers exactly when each single one does, and
a fault of such a run is the fault of one of its members, in `Except` of the first one that is
refused. -/
namespace SoundChange.Sequencing

variable {event event' state fault fault' value other third : Type}

@[ext]
theorem result_ext {first second : Traced.Result event state fault value}
    (answer : first.answer = second.answer) (final : first.state = second.state)
    (events : first.events = second.events) : first = second := by
  cases first
  cases second
  cases answer
  cases final
  cases events
  rfl

theorem run_pure (v : value) (s : state) :
    (pure v : Traced event state fault value) s = ⟨.ok v, s, []⟩ := rfl

/-- A sequence whose first part answers goes on in the state that this part leaves. -/
theorem run_bind_ok {first : Traced event state fault value} {s : state} {v : value}
    (answered : (first s).answer = .ok v) (second : value → Traced event state fault other) :
    (first >>= second) s =
      ⟨(second v (first s).state).answer, (second v (first s).state).state,
        (first s).events ++ (second v (first s).state).events⟩ := by
  simp [bind, Traced.andThen, answered]

/-- A sequence whose first part fails ends there. -/
theorem run_bind_error {first : Traced event state fault value} {s : state} {f : fault}
    (failed : (first s).answer = .error f) (second : value → Traced event state fault other) :
    (first >>= second) s = ⟨.error f, (first s).state, (first s).events⟩ := by
  simp [bind, Traced.andThen, failed]

theorem pure_bind (v : value) (second : value → Traced event state fault other) :
    (pure v >>= second) = second v := rfl

theorem bind_pure (first : Traced event state fault value) : (first >>= pure) = first := by
  funext s
  cases answered : (first s).answer with
  | ok v =>
    rw [run_bind_ok answered]
    refine result_ext answered.symm rfl ?_
    exact List.append_nil _
  | error f =>
    rw [run_bind_error answered]
    exact result_ext answered.symm rfl rfl

theorem bind_assoc (first : Traced event state fault value)
    (second : value → Traced event state fault other)
    (last : other → Traced event state fault third) :
    (first >>= second >>= last) = first >>= fun v => second v >>= last := by
  funext s
  cases answered : (first s).answer with
  | error f =>
    rw [run_bind_error answered, run_bind_error]
    · rw [run_bind_error answered]
    · rw [run_bind_error answered]
  | ok v =>
    rw [run_bind_ok answered]
    cases continued : (second v (first s).state).answer with
    | error f =>
      rw [run_bind_error continued, run_bind_error]
      · rw [run_bind_ok answered]
      · rw [run_bind_ok answered]; exact continued
    | ok w =>
      rw [run_bind_ok continued, run_bind_ok (v := w)]
      · rw [run_bind_ok answered]
        simp only [List.append_assoc]
      · rw [run_bind_ok answered]; exact continued

instance : LawfulMonad (Traced event state fault) :=
  LawfulMonad.mk' _ bind_pure pure_bind bind_assoc

/-- A sequence answers exactly when both its parts do, one after the other. -/
theorem answer_bind_ok_iff (first : Traced event state fault value)
    (second : value → Traced event state fault other) (s : state) (w : other) :
    ((first >>= second) s).answer = .ok w ↔
      ∃ v, (first s).answer = .ok v ∧ (second v (first s).state).answer = .ok w := by
  cases answered : (first s).answer with
  | ok v => simp [run_bind_ok answered]
  | error f => simp [run_bind_error answered]

/-- Sequences answer alike if their first parts do, and so do their second parts in the states that
the first ones leave. -/
theorem answer_bind_congr {state' : Type} {first : Traced event state fault value}
    {first' : Traced event' state' fault value} {second : value → Traced event state fault other}
    {second' : value → Traced event' state' fault other} {s : state} {s' : state'}
    (same : (first s).answer = (first' s').answer)
    (continued : ∀ v, (first s).answer = .ok v →
      (second v (first s).state).answer = (second' v (first' s').state).answer) :
    ((first >>= second) s).answer = ((first' >>= second') s').answer := by
  cases answered : (first s).answer with
  | error f => rw [run_bind_error answered, run_bind_error (same.symm.trans answered)]
  | ok v =>
    rw [run_bind_ok answered, run_bind_ok (same.symm.trans answered)]
    exact continued v answered

/-! Renaming events and faults. -/

theorem rename_pure (onEvent : event → event') (onFault : fault → fault') (v : value) :
    Traced.rename onEvent onFault (pure v : Traced event state fault value) = pure v := rfl

/-- Renaming the events and faults of a sequence renames those of its parts. -/
theorem rename_bind (onEvent : event → event') (onFault : fault → fault')
    (first : Traced event state fault value) (second : value → Traced event state fault other) :
    Traced.rename onEvent onFault (first >>= second) =
      Traced.rename onEvent onFault first >>= fun v =>
        Traced.rename onEvent onFault (second v) := by
  funext s
  cases answered : (first s).answer with
  | error f =>
    have renamed : (Traced.rename onEvent onFault first s).answer = .error (onFault f) := by
      rw [Traced.rename, answered]
      rfl
    rw [run_bind_error renamed, Traced.rename, run_bind_error answered]
    rfl
  | ok v =>
    have renamed : (Traced.rename onEvent onFault first s).answer = .ok v := by
      rw [Traced.rename, answered]
      rfl
    rw [run_bind_ok renamed, Traced.rename, run_bind_ok answered]
    refine result_ext rfl rfl ?_
    exact List.map_append

theorem rename_mapM (onEvent : event → event') (onFault : fault → fault')
    (each : value → Traced event state fault other) (values : List value) :
    Traced.rename onEvent onFault (values.mapM each) =
      values.mapM fun v => Traced.rename onEvent onFault (each v) := by
  induction values with
  | nil => rfl
  | cons v values ih =>
    simp only [List.mapM_cons, rename_bind, rename_pure, ih]

theorem rename_perform (onEvent : event → event') (onFault : fault → fault') (e : event)
    (act : state → Except fault value × state) :
    Traced.rename onEvent onFault (Traced.perform e act) =
      Traced.perform (onEvent e) fun s => ((act s).1.mapError onFault, (act s).2) := rfl

/-! Running one computation over a list. -/

/-- The answer of a run over a list that changes no state, from the answers in that state. -/
theorem answer_mapM_of_steady {each : value → Traced event state fault other} {s : state}
    (steady : ∀ v, (each v s).state = s) (values : List value) :
    ((values.mapM each) s).answer = values.mapM fun v => (each v s).answer := by
  induction values with
  | nil => rfl
  | cons v values ih =>
    rw [List.mapM_cons, List.mapM_cons]
    cases answered : (each v s).answer with
    | error f => rw [run_bind_error answered]; rfl
    | ok w =>
      rw [run_bind_ok answered, steady, ← ih]
      cases rest : ((values.mapM each) s).answer with
      | error f => rw [run_bind_error rest]; rfl
      | ok ws => rw [run_bind_ok rest]; rfl

/-- A run over a list leaves the state as it is, if its members do. -/
theorem state_mapM_of_steady {each : value → Traced event state fault other} {s : state}
    (steady : ∀ v, (each v s).state = s) (values : List value) :
    ((values.mapM each) s).state = s := by
  induction values with
  | nil => rfl
  | cons v values ih =>
    rw [List.mapM_cons]
    cases answered : (each v s).answer with
    | error f => rw [run_bind_error answered, steady]
    | ok w =>
      rw [run_bind_ok answered, steady]
      cases rest : ((values.mapM each) s).answer with
      | error f => rw [run_bind_error rest, ih]
      | ok ws => rw [run_bind_ok rest]; exact ih

theorem length_of_mapM {each : value → Traced event state fault other} {values : List value}
    {s : state} {images : List other} (answered : ((values.mapM each) s).answer = .ok images) :
    images.length = values.length := by
  induction values generalizing s images with
  | nil => cases answered; rfl
  | cons v values ih =>
    rw [List.mapM_cons, answer_bind_ok_iff] at answered
    obtain ⟨image, _, answered⟩ := answered
    obtain ⟨rest, restAnswered, same⟩ := (answer_bind_ok_iff _ _ _ _).mp answered
    cases same
    rw [List.length_cons, List.length_cons, ih restAnswered]

/-- In `Except`, running over a list answers with the answers of its members. -/
theorem mapM_ok_iff {each : value → Except fault other} {values : List value}
    {images : List other} :
    values.mapM each = .ok images ↔
      List.Forall₂ (fun v image => each v = .ok image) values images := by
  induction values generalizing images with
  | nil =>
    rw [List.mapM_nil, List.forall₂_nil_left_iff]
    constructor
    · rintro ⟨⟩
      rfl
    · rintro rfl
      rfl
  | cons v values ih =>
    rw [List.mapM_cons, List.forall₂_cons_left_iff]
    constructor
    · intro answered
      cases first : each v with
      | error f => rw [first] at answered; cases answered
      | ok image =>
        cases rest : values.mapM each with
        | error f => rw [first, rest] at answered; cases answered
        | ok others =>
          rw [first, rest] at answered
          cases answered
          exact ⟨image, others, rfl, ih.mp rest, rfl⟩
    · rintro ⟨image, others, first, rest, rfl⟩
      rw [first, ih.mpr rest]
      rfl

/-- Each value has an image exactly when all of them have, in order. -/
theorem exists_images_iff {Image : value → other → Prop} {values : List value} :
    (∃ images, List.Forall₂ Image values images) ↔ ∀ v ∈ values, ∃ image, Image v image := by
  induction values with
  | nil => exact ⟨fun _ _ member => absurd member List.not_mem_nil, fun _ => ⟨[], .nil⟩⟩
  | cons v values ih =>
    constructor
    · rintro ⟨_, _ | ⟨first, rest⟩⟩ v member
      rcases List.mem_cons.mp member with rfl | member
      · exact ⟨_, first⟩
      · exact ih.mp ⟨_, rest⟩ v member
    · intro each
      obtain ⟨image, first⟩ := each v List.mem_cons_self
      obtain ⟨images, rest⟩ := ih.mpr fun w member => each w (List.mem_cons_of_mem _ member)
      exact ⟨image :: images, .cons first rest⟩

/-- Each image comes from one of the values. -/
theorem exists_value_of_image {Image : value → other → Prop} {values : List value}
    {images : List other} (all : List.Forall₂ Image values images) {image : other}
    (member : image ∈ images) : ∃ v ∈ values, Image v image := by
  induction all with
  | nil => cases member
  | cons first rest ih =>
    rcases List.mem_cons.mp member with rfl | member
    · exact ⟨_, List.mem_cons_self, first⟩
    · obtain ⟨v, found, image⟩ := ih member
      exact ⟨v, List.mem_cons_of_mem _ found, image⟩

/-- A fault of a run over a list is the fault of one of its members. -/
theorem error_of_mapM {each : value → Traced event state fault other} {values : List value}
    {s : state} {f : fault} (failed : ((values.mapM each) s).answer = .error f) :
    ∃ v ∈ values, ∃ s', (each v s').answer = .error f := by
  induction values generalizing s with
  | nil => cases failed
  | cons v values ih =>
    rw [List.mapM_cons] at failed
    cases answered : (each v s).answer with
    | error f' =>
      rw [run_bind_error answered] at failed
      cases failed
      exact ⟨v, List.mem_cons_self, s, answered⟩
    | ok w =>
      rw [run_bind_ok answered] at failed
      cases rest : ((values.mapM each) (each v s).state).answer with
      | error f' =>
        rw [run_bind_error rest] at failed
        cases failed
        obtain ⟨v', member, found⟩ := ih rest
        exact ⟨v', List.mem_cons_of_mem _ member, found⟩
      | ok ws => rw [run_bind_ok rest] at failed; cases failed

theorem bind_ok_iff {first : Except fault value} {second : value → Except fault other}
    {w : other} : (first >>= second) = .ok w ↔ ∃ v, first = .ok v ∧ second v = .ok w := by
  cases first with
  | error f => simp [bind, Except.bind]
  | ok v => simp [bind, Except.bind]

/-- A sequence in `Except` fails with the first of its parts that fails. -/
theorem bind_error_iff {first : Except fault value} {second : value → Except fault other}
    {f : fault} :
    (first >>= second) = .error f ↔ first = .error f ∨ ∃ v, first = .ok v ∧ second v = .error f := by
  cases first with
  | error f' => simp [bind, Except.bind]
  | ok v => simp [bind, Except.bind]

/-- The value at this place is the first one that is refused, with this fault. -/
def FirstRefused (each : value → Except fault other) (values : List value) (place : Nat)
    (f : fault) : Prop :=
  ∃ v, values[place]? = some v ∧ each v = .error f ∧
    ∀ earlier ∈ values.take place, ∃ image, each earlier = .ok image

/-- In `Except`, running over a list stops at the first member that is refused. -/
theorem mapM_error_iff {each : value → Except fault other} {values : List value} {f : fault} :
    values.mapM each = .error f ↔ ∃ place, FirstRefused each values place f := by
  induction values with
  | nil =>
    constructor
    · rintro ⟨⟩
    · rintro ⟨place, v, found, -⟩
      simp at found
  | cons v values ih =>
    rw [List.mapM_cons, bind_error_iff]
    constructor
    · rintro (refused | ⟨image, answered, rest⟩)
      · exact ⟨0, v, rfl, refused, by simp⟩
      · have failed : values.mapM each = .error f := by
          rcases bind_error_iff.mp rest with failed | ⟨images, -, ended⟩
          · exact failed
          · cases ended
        obtain ⟨place, w, found, refused, before⟩ := ih.mp failed
        refine ⟨place + 1, w, found, refused, ?_⟩
        intro earlier member
        rw [List.take_succ_cons] at member
        rcases List.mem_cons.mp member with rfl | member
        · exact ⟨image, answered⟩
        · exact before earlier member
    · rintro ⟨place, w, found, refused, before⟩
      cases place with
      | zero =>
        have same : v = w := by simpa using found
        exact .inl (same ▸ refused)
      | succ place =>
        obtain ⟨image, answered⟩ := before v (by simp)
        have later : FirstRefused each values place f := by
          refine ⟨w, by simpa using found, refused, ?_⟩
          intro earlier member
          exact before earlier (by simp [member])
        exact .inr ⟨image, answered, bind_error_iff.mpr (.inl (ih.mpr ⟨place, later⟩))⟩

theorem map_bind {first : Except fault value} {second : value → Except fault other}
    (f : other → third) : (first >>= second).map f = first >>= fun v => (second v).map f := by
  cases first <;> rfl

theorem mapError_bind (onFault : fault → fault') (first : Except fault value)
    (second : value → Except fault other) :
    (first.bind second).mapError onFault =
      (first.mapError onFault).bind fun v => (second v).mapError onFault := by
  cases first <;> rfl

theorem mapError_map (onFault : fault → fault') (first : Except fault value) (f : value → other) :
    (first.map f).mapError onFault = (first.mapError onFault).map f := by
  cases first <;> rfl

theorem mapError_ok_iff {onFault : fault → fault'} {first : Except fault value} {v : value} :
    first.mapError onFault = .ok v ↔ first = .ok v := by
  cases first with
  | error f => simp [Except.mapError]
  | ok w => simp [Except.mapError]

theorem mapError_error_iff {onFault : fault → fault'} {first : Except fault value} {f' : fault'} :
    first.mapError onFault = .error f' ↔ ∃ f, first = .error f ∧ onFault f = f' := by
  cases first with
  | error f => simp [Except.mapError]
  | ok w => simp [Except.mapError]

end SoundChange.Sequencing
