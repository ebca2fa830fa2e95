import SoundChange.History.Reconcile
import Mathlib.Data.List.Forall2

/-! What reconciling a transformation with its words comes to, for lists of any lengths. The outcome
is described by positions in the lists, without the search that finds it: the first fault in the
order output length, step lengths, final forms, and otherwise the matrix. The same checks with every
form read by its position give the same outcome, so no position is ever out of range. -/
namespace SoundChange.Reconciliation

/-- The form of a word right after a step. -/
def formAfter? (history : List Step) (step index : Nat) : Option Word :=
  history[step]?.bind fun taken => taken.words[index]?

/-- The form of a word just before a step: the word itself, or its form after the step before. -/
def formBefore? (words : List Word) (history : List Step) (index : Nat) : Nat → Option Word
  | 0 => words[index]?
  | step + 1 => formAfter? history step index

/-- Every list is as long as the list of words, and the last step, if there is one, made the
output. -/
structure Aligned (words : List Word) (result : Transformation) : Prop where
  output : result.output.length = words.length
  steps : ∀ step ∈ result.history, step.words.length = words.length
  final : ∀ last, result.history.getLast? = some last → last.words = result.output

/-- The fault that is reported of lists that do not line up. Earlier checks win over later ones, and
within a check the least position does. -/
inductive Misaligned (words : List Word) (result : Transformation) : ContractFault → Prop
  | outputLength (misfit : result.output.length ≠ words.length) :
    Misaligned words result (.outputLength words.length result.output.length)
  | stepLength {index : Nat} {step : Step} (output : result.output.length = words.length)
      (found : result.history[index]? = some step) (misfit : step.words.length ≠ words.length)
      (least : ∀ earlier < index, ∀ before, result.history[earlier]? = some before →
        before.words.length = words.length) :
    Misaligned words result (.stepLength index step.rule words.length step.words.length)
  | finalMismatch {index : Nat} {last : Step} {form final : Word}
      (output : result.output.length = words.length)
      (steps : ∀ step ∈ result.history, step.words.length = words.length)
      (ends : result.history.getLast? = some last)
      (form_at : last.words[index]? = some form) (final_at : result.output[index]? = some final)
      (differ : form ≠ final)
      (least : ∀ earlier < index, last.words[earlier]? = result.output[earlier]?) :
    Misaligned words result (.finalMismatch index final form)

/-- One row for each word, and in it one state for each step: the form after the step, marked as
changed exactly when it is not the form just before. -/
structure Follows (words : List Word) (result : Transformation) (matrix : Matrix) : Prop where
  height : matrix.rows.length = words.length
  width : ∀ row ∈ matrix.rows, row.steps.length = result.history.length
  final : ∀ (index : Nat) (row : ReconciledRow), matrix.rows[index]? = some row →
    result.output[index]? = some row.final
  state : ∀ (index step : Nat) (row : ReconciledRow) (state : StepState),
    matrix.rows[index]? = some row → row.steps[step]? = some state →
      formAfter? result.history step index = some state.current ∧
        ∃ before, formBefore? words result.history index step = some before ∧
          (state.changed = true ↔ state.current ≠ before)

/-- The outcome of reconciling. -/
inductive Outcome (words : List Word) (result : Transformation) :
    Except ContractFault Matrix → Prop
  | fault {fault : ContractFault} (misaligned : Misaligned words result fault) :
    Outcome words result (.error fault)
  | matrix {matrix : Matrix} (aligned : Aligned words result)
      (follows : Follows words result matrix) : Outcome words result (.ok matrix)

/-! Lists compared position by position. -/

theorem forall₂_of_getElem? {α β : Type} {Related : α → β → Prop} {values : List α}
    {images : List β} (level : values.length = images.length)
    (each : ∀ (index : Nat) (value : α) (image : β), values[index]? = some value →
      images[index]? = some image → Related value image) :
    List.Forall₂ Related values images := by
  apply List.forall₂_iff_get.mpr
  refine ⟨level, ?_⟩
  intro index inValues inImages
  exact each index _ _ (List.getElem?_eq_getElem inValues) (List.getElem?_eq_getElem inImages)

theorem related_of_getElem? {α β : Type} {Related : α → β → Prop} {values : List α}
    {images : List β} (each : List.Forall₂ Related values images) {index : Nat} {value : α}
    {image : β} (valueAt : values[index]? = some value) (imageAt : images[index]? = some image) :
    Related value image := by
  obtain ⟨inValues, rfl⟩ := List.getElem?_eq_some_iff.mp valueAt
  obtain ⟨inImages, rfl⟩ := List.getElem?_eq_some_iff.mp imageAt
  exact (List.forall₂_iff_get.mp each).2 index inValues inImages

theorem mapM_eq_some {α β : Type} {f : α → Option β} {values : List α} {images : List β}
    (each : List.Forall₂ (fun value image => f value = some image) values images) :
    values.mapM f = some images := by
  induction each with
  | nil => rfl
  | cons first _ rest =>
    rw [List.mapM_cons, first, rest]
    rfl

theorem filterMap_eq {α β : Type} {f : α → Option β} {values : List α} {images : List β}
    (each : List.Forall₂ (fun value image => f value = some image) values images) :
    values.filterMap f = images := by
  induction each with
  | nil => rfl
  | cons first _ rest => rw [List.filterMap_cons_some first, rest]

/-! The checks, as searches for a position. -/

theorem firstMisalignedStep_eq (expected start : Nat) (history : List Step) :
    firstMisalignedStep expected start history =
      (history.findIdx? fun step => step.words.length != expected).bind fun index =>
        history[index]?.map fun step =>
          .stepLength (start + index) step.rule expected step.words.length := by
  induction history generalizing start with
  | nil => rfl
  | cons step later ih =>
    by_cases fits : step.words.length = expected
    · rw [firstMisalignedStep, if_pos fits, ih, List.findIdx?_cons]
      simp only [fits, bne_self_eq_false, Bool.false_eq_true, ↓reduceIte, Option.bind_map]
      congr 1
      funext index
      simp only [Function.comp_apply, List.getElem?_cons_succ]
      rw [show start + 1 + index = start + (index + 1) by omega]
    · rw [firstMisalignedStep, if_neg fits, List.findIdx?_cons]
      simp [fits]

theorem firstFinalMismatch_eq (start : Nat) (lasts outputs : List Word) :
    firstFinalMismatch start lasts outputs =
      ((lasts.zip outputs).findIdx? fun pair => pair.1 != pair.2).bind fun index =>
        (lasts.zip outputs)[index]?.map fun pair =>
          .finalMismatch (start + index) pair.2 pair.1 := by
  induction lasts generalizing start outputs with
  | nil => rfl
  | cons last lasts ih =>
    cases outputs with
    | nil => rfl
    | cons output outputs =>
      by_cases same : last = output
      · rw [firstFinalMismatch, if_pos same, ih, List.zip_cons_cons, List.findIdx?_cons]
        simp only [same, bne_self_eq_false, Bool.false_eq_true, ↓reduceIte, Option.bind_map]
        congr 1
        funext index
        simp only [Function.comp_apply, List.getElem?_cons_succ]
        rw [show start + 1 + index = start + (index + 1) by omega]
      · rw [firstFinalMismatch, if_neg same, List.zip_cons_cons, List.findIdx?_cons]
        simp [same]

private theorem findIdx?_bind_eq_none_iff {α β : Type} (values : List α) (bad : α → Bool)
    (report : Nat → α → β) :
    ((values.findIdx? bad).bind fun index => values[index]?.map (report index)) = none ↔
      ∀ value ∈ values, bad value = false := by
  cases found : values.findIdx? bad with
  | none => simpa using List.findIdx?_eq_none_iff.mp found
  | some index =>
    obtain ⟨inside, isBad, _⟩ := List.findIdx?_eq_some_iff_getElem.mp found
    simp only [Option.bind_some, List.getElem?_eq_getElem inside, Option.map_some,
      reduceCtorEq, false_iff]
    exact fun good => absurd (good _ (List.getElem_mem inside)) (by simp [isBad])

private theorem findIdx?_bind_eq_some_iff {α β : Type} (values : List α) (bad : α → Bool)
    (report : Nat → α → β) (reported : β) :
    ((values.findIdx? bad).bind fun index => values[index]?.map (report index)) =
        some reported ↔
      ∃ index value, values[index]? = some value ∧ bad value = true ∧
        (∀ earlier < index, ∀ before, values[earlier]? = some before → bad before = false) ∧
        report index value = reported := by
  simp only [Option.bind_eq_some_iff, Option.map_eq_some_iff,
    List.findIdx?_eq_some_iff_getElem]
  constructor
  · rintro ⟨index, ⟨inside, isBad, least⟩, value, found, reports⟩
    obtain rfl := (List.getElem_eq_iff inside).mpr found
    refine ⟨index, _, found, isBad, ?_, reports⟩
    intro earlier before value found
    obtain ⟨within, rfl⟩ := List.getElem?_eq_some_iff.mp found
    simpa using least earlier before
  · rintro ⟨index, value, found, isBad, least, reports⟩
    obtain ⟨inside, rfl⟩ := List.getElem?_eq_some_iff.mp found
    refine ⟨index, ⟨inside, isBad, ?_⟩, _, found, reports⟩
    intro earlier before
    simpa using least earlier before _ (List.getElem?_eq_getElem (by omega))

theorem firstMisalignedStep_eq_none_iff (expected start : Nat) (history : List Step) :
    firstMisalignedStep expected start history = none ↔
      ∀ step ∈ history, step.words.length = expected := by
  rw [firstMisalignedStep_eq, findIdx?_bind_eq_none_iff]
  simp

theorem firstMisalignedStep_eq_some_iff (expected start : Nat) (history : List Step)
    (fault : ContractFault) :
    firstMisalignedStep expected start history = some fault ↔
      ∃ index step, history[index]? = some step ∧ step.words.length ≠ expected ∧
        (∀ earlier < index, ∀ before, history[earlier]? = some before →
          before.words.length = expected) ∧
        .stepLength (start + index) step.rule expected step.words.length = fault := by
  rw [firstMisalignedStep_eq, findIdx?_bind_eq_some_iff]
  simp

theorem firstFinalMismatch_eq_none_iff {lasts outputs : List Word} (start : Nat)
    (level : lasts.length = outputs.length) :
    firstFinalMismatch start lasts outputs = none ↔ lasts = outputs := by
  rw [firstFinalMismatch_eq, findIdx?_bind_eq_none_iff]
  constructor
  · intro same
    apply List.ext_getElem level
    intro index inLasts inOutputs
    have member : (lasts[index], outputs[index]) ∈ lasts.zip outputs :=
      List.mem_of_getElem? (List.getElem?_zip_eq_some.mpr
        ⟨List.getElem?_eq_getElem inLasts, List.getElem?_eq_getElem inOutputs⟩)
    simpa using same _ member
  · rintro rfl pair member
    obtain ⟨index, found⟩ := List.mem_iff_getElem?.mp member
    obtain ⟨first, second⟩ := List.getElem?_zip_eq_some.mp found
    simpa using Option.some.inj (first.symm.trans second)

theorem firstFinalMismatch_eq_some_iff {lasts outputs : List Word} (start : Nat)
    (level : lasts.length = outputs.length) (fault : ContractFault) :
    firstFinalMismatch start lasts outputs = some fault ↔
      ∃ index form final, lasts[index]? = some form ∧ outputs[index]? = some final ∧
        form ≠ final ∧ (∀ earlier < index, lasts[earlier]? = outputs[earlier]?) ∧
        .finalMismatch (start + index) final form = fault := by
  rw [firstFinalMismatch_eq, findIdx?_bind_eq_some_iff]
  simp only [List.getElem?_zip_eq_some, bne_iff_ne, bne_eq_false_iff_eq, Prod.exists]
  constructor
  · rintro ⟨index, form, final, ⟨formAt, finalAt⟩, differ, least, reports⟩
    refine ⟨index, form, final, formAt, finalAt, differ, ?_, reports⟩
    intro earlier before
    have inside := (List.getElem?_eq_some_iff.mp formAt).1
    have first := List.getElem?_eq_getElem (show earlier < lasts.length by omega)
    have second := List.getElem?_eq_getElem (show earlier < outputs.length by omega)
    rw [first, second, Option.some.injEq]
    exact least earlier before (_, _) ⟨first, second⟩
  · rintro ⟨index, form, final, formAt, finalAt, differ, least, reports⟩
    refine ⟨index, form, final, ⟨formAt, finalAt⟩, differ, ?_, reports⟩
    rintro earlier before ⟨first, second⟩ ⟨firstAt, secondAt⟩
    exact Option.some.inj (firstAt.symm.trans ((least earlier before).trans secondAt))

/-- Nothing is reported exactly of lists that line up. -/
theorem alignmentFault?_eq_none_iff (words : List Word) (result : Transformation) :
    alignmentFault? words result = none ↔ Aligned words result := by
  constructor
  · intro clean
    rw [alignmentFault?] at clean
    split at clean
    · cases clean
    · rename_i output
      have output := not_not.mp output
      cases misfit : firstMisalignedStep words.length 0 result.history with
      | some fault => rw [misfit] at clean; cases clean
      | none =>
        have steps := (firstMisalignedStep_eq_none_iff words.length 0 result.history).mp misfit
        refine ⟨output, steps, ?_⟩
        intro last ends
        have level := (steps last (List.mem_of_getLast? ends)).trans output.symm
        rw [misfit, ends] at clean
        exact (firstFinalMismatch_eq_none_iff 0 level).mp clean
  · intro aligned
    have steps := (firstMisalignedStep_eq_none_iff words.length 0 result.history).mpr aligned.steps
    rw [alignmentFault?, if_neg (not_not.mpr aligned.output), steps]
    cases ends : result.history.getLast? with
    | none => rfl
    | some last =>
      have same := aligned.final last ends
      exact (firstFinalMismatch_eq_none_iff 0 (congrArg List.length same)).mpr same

/-- What is reported of lists that do not line up is their fault by position. -/
theorem alignmentFault?_eq_some_iff (words : List Word) (result : Transformation)
    (fault : ContractFault) :
    alignmentFault? words result = some fault ↔ Misaligned words result fault := by
  constructor
  · intro reported
    rw [alignmentFault?] at reported
    split at reported
    · rename_i misfit
      cases reported
      exact .outputLength misfit
    · rename_i output
      have output := not_not.mp output
      cases early : firstMisalignedStep words.length 0 result.history with
      | some short =>
        rw [early] at reported
        cases reported
        obtain ⟨index, step, found, misfit, least, rfl⟩ :=
          (firstMisalignedStep_eq_some_iff _ _ _ _).mp early
        rw [Nat.zero_add]
        exact .stepLength output found misfit least
      | none =>
        have steps := (firstMisalignedStep_eq_none_iff words.length 0 result.history).mp early
        rw [early] at reported
        cases ends : result.history.getLast? with
        | none => rw [ends] at reported; cases reported
        | some last =>
          have level := (steps last (List.mem_of_getLast? ends)).trans output.symm
          rw [ends] at reported
          obtain ⟨index, form, final, formAt, finalAt, differ, least, rfl⟩ :=
            (firstFinalMismatch_eq_some_iff 0 level fault).mp reported
          rw [Nat.zero_add]
          exact .finalMismatch output steps ends formAt finalAt differ least
  · intro misaligned
    cases misaligned with
    | outputLength misfit => rw [alignmentFault?, if_pos misfit]
    | stepLength output found misfit least =>
      have reported := (firstMisalignedStep_eq_some_iff words.length 0 result.history _).mpr
        ⟨_, _, found, misfit, least, rfl⟩
      rw [alignmentFault?, if_neg (not_not.mpr output), reported, Nat.zero_add]
    | finalMismatch output steps ends formAt finalAt differ least =>
      have level := (steps _ (List.mem_of_getLast? ends)).trans output.symm
      have misfit := (firstMisalignedStep_eq_none_iff words.length 0 result.history).mpr steps
      have reported := (firstFinalMismatch_eq_some_iff 0 level _).mpr
        ⟨_, _, _, formAt, finalAt, differ, least, rfl⟩
      rw [alignmentFault?, if_neg (not_not.mpr output), misfit, ends]
      simpa using reported

/-- Lists that line up have no fault. -/
theorem Aligned.not_misaligned {words : List Word} {result : Transformation}
    (aligned : Aligned words result) (fault : ContractFault) : ¬ Misaligned words result fault := by
  intro misaligned
  have clean := (alignmentFault?_eq_none_iff words result).mpr aligned
  rw [(alignmentFault?_eq_some_iff words result fault).mpr misaligned] at clean
  cases clean

/-! The rows, by position. -/

theorem length_wordStates (previous : Word) (forms : List Word) :
    (wordStates previous forms).length = forms.length := by
  induction forms generalizing previous with
  | nil => rfl
  | cons current later ih => rw [wordStates, List.length_cons, ih, List.length_cons]

/-- Each state holds its own form, compared with the one just before it. -/
theorem getElem?_wordStates (previous : Word) (forms : List Word) (step : Nat)
    (state : StepState) :
    (wordStates previous forms)[step]? = some state ↔
      forms[step]? = some state.current ∧
        ∃ before, (previous :: forms)[step]? = some before ∧
          state.changed = (before != state.current) := by
  induction forms generalizing previous step with
  | nil => simp [wordStates]
  | cons current later ih =>
    cases step with
    | zero =>
      simp only [wordStates, List.getElem?_cons_zero, Option.some.injEq, exists_eq_left']
      constructor
      · rintro rfl
        exact ⟨rfl, rfl⟩
      · rintro ⟨rfl, changed⟩
        rw [← changed]
    | succ step => simpa [wordStates] using ih current step

theorem getElem?_reconciledRows (columns : List (List Word)) (words finals : List Word)
    (index : Nat) :
    (reconciledRows columns words finals)[index]? =
      (words.zip finals)[index]?.map fun pair =>
        ⟨wordStates pair.1 (columns.filterMap fun column => column[index]?), pair.2⟩ := by
  induction words generalizing columns finals index with
  | nil => simp [reconciledRows]
  | cons word words ih =>
    cases finals with
    | nil => simp [reconciledRows]
    | cons final finals =>
      cases index with
      | zero => simp [reconciledRows, List.head?_eq_getElem?]
      | succ index =>
        simp [reconciledRows, ih, List.filterMap_map]

theorem length_reconciledRows (columns : List (List Word)) (words finals : List Word) :
    (reconciledRows columns words finals).length = min words.length finals.length := by
  induction words generalizing columns finals with
  | nil => simp [reconciledRows]
  | cons word words ih =>
    cases finals with
    | nil => simp [reconciledRows]
    | cons final finals => simp [reconciledRows, ih]

/-- The forms of one word after each step. -/
def formsOf (history : List Step) (index : Nat) : List Word :=
  history.filterMap fun step => step.words[index]?

private theorem formsOf_cons {taken : Step} {index : Nat} {form : Word}
    (found : taken.words[index]? = some form) (later : List Step) :
    formsOf (taken :: later) index = form :: formsOf later index :=
  List.filterMap_cons_some (f := fun step : Step => step.words[index]?) found

/-- Where every step has a form of a word, no step is skipped. -/
theorem getElem?_formsOf {history : List Step} {index : Nat}
    (inside : ∀ step ∈ history, index < step.words.length) (step : Nat) :
    (formsOf history index)[step]? = formAfter? history step index := by
  induction history generalizing step with
  | nil => rfl
  | cons taken later ih =>
    have found := List.getElem?_eq_getElem (inside taken List.mem_cons_self)
    have rest := ih fun step member => inside step (List.mem_cons_of_mem _ member)
    rw [formsOf_cons found]
    cases step with
    | zero => simp [formAfter?, found]
    | succ step => simpa [formAfter?] using rest step

theorem length_formsOf {history : List Step} {index : Nat}
    (inside : ∀ step ∈ history, index < step.words.length) :
    (formsOf history index).length = history.length := by
  induction history with
  | nil => rfl
  | cons taken later ih =>
    have found := List.getElem?_eq_getElem (inside taken List.mem_cons_self)
    have rest := ih fun step member => inside step (List.mem_cons_of_mem _ member)
    rw [formsOf_cons found, List.length_cons, rest, List.length_cons]

variable {words : List Word} {result : Transformation}

/-- In lists that line up, every step has a form of every word. -/
theorem Aligned.inside (aligned : Aligned words result) {index : Nat}
    (bound : index < words.length) : ∀ step ∈ result.history, index < step.words.length := by
  intro step member
  rw [aligned.steps step member]
  exact bound

/-- The forms of a word before its steps are the word itself and its forms after them. -/
theorem getElem?_cons_formsOf {index : Nat} {word : Word}
    (inside : ∀ step ∈ result.history, index < step.words.length)
    (wordAt : words[index]? = some word) (step : Nat) :
    (word :: formsOf result.history index)[step]? =
      formBefore? words result.history index step := by
  cases step with
  | zero => exact wordAt.symm
  | succ step => exact getElem?_formsOf inside step

/-- The row of one word, whether or not the lists line up. -/
theorem getElem?_rows (index : Nat) (row : ReconciledRow) :
    (reconciledRows (result.history.map Step.words) words result.output)[index]? = some row ↔
      ∃ word final, words[index]? = some word ∧ result.output[index]? = some final ∧
        row = ⟨wordStates word (formsOf result.history index), final⟩ := by
  simp only [getElem?_reconciledRows, Option.map_eq_some_iff, List.getElem?_zip_eq_some,
    List.filterMap_map, Prod.exists]
  constructor
  · rintro ⟨word, final, ⟨wordAt, finalAt⟩, rfl⟩
    exact ⟨word, final, wordAt, finalAt, rfl⟩
  · rintro ⟨word, final, wordAt, finalAt, rfl⟩
    exact ⟨word, final, ⟨wordAt, finalAt⟩, rfl⟩

/-- Lists that line up give a matrix that follows them. -/
theorem Aligned.follows (aligned : Aligned words result) :
    Follows words result
      ⟨reconciledRows (result.history.map Step.words) words result.output⟩ where
  height := by rw [length_reconciledRows, aligned.output, Nat.min_self]
  width := by
    intro row member
    obtain ⟨index, found⟩ := List.mem_iff_getElem?.mp member
    obtain ⟨word, final, wordAt, _, rfl⟩ := (getElem?_rows index row).mp found
    have bound := (List.getElem?_eq_some_iff.mp wordAt).1
    rw [length_wordStates, length_formsOf (aligned.inside bound)]
  final := by
    intro index row found
    obtain ⟨word, final, _, finalAt, rfl⟩ := (getElem?_rows index row).mp found
    exact finalAt
  state := by
    intro index step row state found stateAt
    obtain ⟨word, final, wordAt, _, rfl⟩ := (getElem?_rows index row).mp found
    have bound := (List.getElem?_eq_some_iff.mp wordAt).1
    obtain ⟨formAt, before, beforeAt, changed⟩ := (getElem?_wordStates _ _ _ _).mp stateAt
    rw [getElem?_formsOf (aligned.inside bound)] at formAt
    rw [getElem?_cons_formsOf (aligned.inside bound) wordAt] at beforeAt
    refine ⟨formAt, before, beforeAt, ?_⟩
    rw [changed, bne_iff_ne, ne_comm]

/-- Two states at the same place are the same. -/
private theorem state_unique {index step : Nat} {one other : StepState} {first second : Matrix}
    {row row' : ReconciledRow} (left : Follows words result first)
    (right : Follows words result second) (rowAt : first.rows[index]? = some row)
    (rowAt' : second.rows[index]? = some row') (oneAt : row.steps[step]? = some one)
    (otherAt : row'.steps[step]? = some other) : one = other := by
  obtain ⟨currentAt, before, beforeAt, changed⟩ := left.state index step row one rowAt oneAt
  obtain ⟨currentAt', before', beforeAt', changed'⟩ :=
    right.state index step row' other rowAt' otherAt
  have current : one.current = other.current := Option.some.inj (currentAt.symm.trans currentAt')
  obtain rfl := Option.some.inj (beforeAt.symm.trans beforeAt')
  have flag : one.changed = other.changed := by
    rw [Bool.eq_iff_iff, changed, changed', current]
  cases one
  cases other
  cases current
  cases flag
  rfl

/-- No two matrices follow the same lists. -/
theorem Follows.unique {first second : Matrix} (left : Follows words result first)
    (right : Follows words result second) : first = second := by
  have rows : first.rows = second.rows := by
    apply List.ext_getElem (left.height.trans right.height.symm)
    intro index inFirst inSecond
    have rowAt := List.getElem?_eq_getElem inFirst
    have rowAt' := List.getElem?_eq_getElem inSecond
    have steps : first.rows[index].steps = second.rows[index].steps := by
      apply List.ext_getElem
      · rw [left.width _ (List.getElem_mem inFirst), right.width _ (List.getElem_mem inSecond)]
      · intro step inOne inOther
        exact state_unique left right rowAt rowAt' (List.getElem?_eq_getElem inOne)
          (List.getElem?_eq_getElem inOther)
    have final := Option.some.inj
      ((left.final index _ rowAt).symm.trans (right.final index _ rowAt'))
    cases one : first.rows[index]
    cases other : second.rows[index]
    rw [one, other] at steps final
    cases steps
    cases final
    rfl
  cases first
  cases second
  cases rows
  rfl

theorem reconcile_ok_iff (matrix : Matrix) :
    reconcile words result = .ok matrix ↔
      Aligned words result ∧
        matrix = ⟨reconciledRows (result.history.map Step.words) words result.output⟩ := by
  rw [← alignmentFault?_eq_none_iff, reconcile]
  cases alignmentFault? words result with
  | none => simp [eq_comm]
  | some fault => simp

theorem reconcile_error_iff (fault : ContractFault) :
    reconcile words result = .error fault ↔ Misaligned words result fault := by
  rw [← alignmentFault?_eq_some_iff, reconcile]
  cases alignmentFault? words result with
  | none => simp
  | some reported => simp

/-! Reading every form by its position. Each reading is absent when its position is out of range, and
one absent reading makes the whole outcome absent. -/

def faultByPosition? (words : List Word) (result : Transformation) :
    Option (Option ContractFault) :=
  if result.output.length ≠ words.length then
    some (some (.outputLength words.length result.output.length))
  else
    match result.history.findIdx? fun step => step.words.length != words.length with
    | some index => do
      let step ← result.history[index]?
      return some (.stepLength index step.rule words.length step.words.length)
    | none =>
      match result.history.getLast? with
      | none => some none
      | some last =>
        match (last.words.zip result.output).findIdx? fun pair => pair.1 != pair.2 with
        | none => some none
        | some index => do
          let final ← result.output[index]?
          let form ← last.words[index]?
          return some (.finalMismatch index final form)

def rowByPosition? (result : Transformation) (word : Word) (index : Nat) :
    Option ReconciledRow := do
  let forms ← result.history.mapM fun step => step.words[index]?
  let final ← result.output[index]?
  return ⟨wordStates word forms, final⟩

def reconcileByPosition? (words : List Word) (result : Transformation) :
    Option (Except ContractFault Matrix) := do
  match ← faultByPosition? words result with
  | some fault => return .error fault
  | none =>
    let rows ← words.zipIdx.mapM fun entry => rowByPosition? result entry.1 entry.2
    return .ok ⟨rows⟩

private theorem faultByPosition?_eq (words : List Word) (result : Transformation) :
    faultByPosition? words result = some (alignmentFault? words result) := by
  rw [faultByPosition?, alignmentFault?]
  split
  · rfl
  · rw [firstMisalignedStep_eq]
    cases found : result.history.findIdx? fun step => step.words.length != words.length with
    | some index =>
      obtain ⟨inside, _⟩ := List.findIdx?_eq_some_iff_getElem.mp found
      simp [List.getElem?_eq_getElem inside]
    | none =>
      cases result.history.getLast? with
      | none => rfl
      | some last =>
        simp only [firstFinalMismatch_eq, Option.bind_none]
        cases found : (last.words.zip result.output).findIdx? fun pair => pair.1 != pair.2 with
        | none => rfl
        | some index =>
          obtain ⟨inside, _⟩ := List.findIdx?_eq_some_iff_getElem.mp found
          have pairAt := List.getElem?_eq_getElem inside
          obtain ⟨formAt, finalAt⟩ := List.getElem?_zip_eq_some.mp pairAt
          simp [pairAt, formAt, finalAt]

private theorem rowByPosition?_eq (aligned : Aligned words result) {index : Nat}
    {word final : Word} (bound : index < words.length)
    (finalAt : result.output[index]? = some final) :
    rowByPosition? result word index =
      some ⟨wordStates word (formsOf result.history index), final⟩ := by
  have inside := aligned.inside bound
  have forms : (result.history.mapM fun step => step.words[index]?) =
      some (formsOf result.history index) := by
    apply mapM_eq_some
    apply forall₂_of_getElem? (length_formsOf inside).symm
    intro step taken form takenAt formAt
    rw [getElem?_formsOf inside, formAfter?, takenAt] at formAt
    exact formAt
  rw [rowByPosition?, forms, finalAt]
  rfl

/-- Read by position, reconciling has the same outcome; in particular it has one. -/
theorem reconcileByPosition?_eq (words : List Word) (result : Transformation) :
    reconcileByPosition? words result = some (reconcile words result) := by
  rw [reconcileByPosition?, faultByPosition?_eq, reconcile]
  cases clean : alignmentFault? words result with
  | some fault => rfl
  | none =>
    have aligned := (alignmentFault?_eq_none_iff words result).mp clean
    have rows : (words.zipIdx.mapM fun entry => rowByPosition? result entry.1 entry.2) =
        some (reconciledRows (result.history.map Step.words) words result.output) := by
      apply mapM_eq_some
      apply forall₂_of_getElem?
      · rw [List.length_zipIdx, length_reconciledRows, aligned.output, Nat.min_self]
      · intro index entry row entryAt rowAt
        obtain ⟨word, final, wordAt, finalAt, rfl⟩ := (getElem?_rows index row).mp rowAt
        rw [List.getElem?_zipIdx, wordAt, Option.map_some, Nat.zero_add] at entryAt
        cases entryAt
        exact rowByPosition?_eq aligned (List.getElem?_eq_some_iff.mp wordAt).1 finalAt
    simp [rows]

/-- Reconciling never reads outside a list, and comes to exactly the outcome of its lists: their
first fault, or the matrix that follows them. -/
theorem reconcile_exact (words : List Word) (result : Transformation) :
    reconcileByPosition? words result = some (reconcile words result) ∧
      ∀ outcome, reconcile words result = outcome ↔ Outcome words result outcome := by
  refine ⟨reconcileByPosition?_eq words result, ?_⟩
  intro outcome
  cases outcome with
  | error fault =>
    rw [reconcile_error_iff]
    constructor
    · exact .fault
    · rintro ⟨misaligned⟩
      exact misaligned
  | ok matrix =>
    rw [reconcile_ok_iff]
    constructor
    · rintro ⟨aligned, rfl⟩
      exact .matrix aligned aligned.follows
    · rintro (_ | ⟨aligned, follows⟩)
      exact ⟨aligned, follows.unique aligned.follows⟩

end SoundChange.Reconciliation
