import SoundChange.History.Transcript
import SoundChange.Proofs.Tabulation

/-! A history table keeps everything it was made from. Replaying a row from its first cell, where an
unchanged cell keeps the running form and a changed one replaces it, gives back the form after every
step; so the words and the whole transformation can be read off the table, and no two inputs have
the same table. -/
namespace SoundChange.Replay
open Reconciliation Tabulation

/-- The forms after each change cell, replayed from the form before the first one. The first cell of
another kind ends the changes. -/
def replay (running : Word) : List Cell → List Word
  | .unchanged :: cells => running :: replay running cells
  | .changed form :: cells => form :: replay form cells
  | _ => []

/-- The word that a row starts from. -/
def rowWord? : List Cell → Option Word
  | .word word :: _ => some word
  | _ => none

/-- The forms of the word of a row after each step. -/
def rowForms : List Cell → List Word
  | .word word :: cells => replay word cells
  | _ => []

def finalForm? : Cell → Option Word
  | .final form => some form
  | _ => none

/-- The headings between the first one and the last two. -/
def middle (headings : List String) : List String :=
  headings.tail.dropLast.dropLast

/-- The words and the transformation that a table shows, read from its headings and cells. -/
def transcriptOf (table : Table) : Transcript where
  words := table.rows.filterMap rowWord?
  result :=
    { history := (middle table.headings).mapIdx fun step label =>
        ⟨label, table.rows.filterMap fun row => (rowForms row)[step]?⟩
      output := table.rows.filterMap fun row => row.findSome? finalForm? }

/-- A row that tells the whole course of a word: what it was, what each step made of it and what it
ended as. Only forms that differ from the running form are written down. -/
def Tells (words : List Word) (result : Transformation) (index : Nat) (row : List Cell) : Prop :=
  ∃ word changes final sound,
    row = .word word :: (changes ++ [.final final, .ipa sound]) ∧
    words[index]? = some word ∧ result.output[index]? = some final ∧
    changes.length = result.history.length ∧
    (replay word changes).length = result.history.length ∧
    (∀ step, (replay word changes)[step]? = formAfter? result.history step index) ∧
    (∀ (step : Nat) (form : Word), changes[step]? = some (.changed form) →
      ∃ before, (word :: replay word changes)[step]? = some before ∧ form ≠ before) ∧
    (result.history ≠ [] → (replay word changes).getLast? = some final)

variable {system : Type} {words : List Word} {result : Transformation}

theorem middle_headingsOf (result : Transformation) :
    middle (Table.headingsOf result) = result.rules := by
  rw [middle, Table.headingsOf, List.tail_cons, List.dropLast_append_of_ne_nil (by simp),
    List.dropLast_append_of_ne_nil (by simp)]
  exact List.append_nil _

/-- Replaying the cells of some states gives their forms back, whatever else follows in the row. -/
theorem replay_states {rest : List Cell} (ends : ∀ running, replay running rest = [])
    (running : Word) (forms : List Word) :
    replay running ((wordStates running forms).map Cell.ofState ++ rest) = forms := by
  induction forms generalizing running with
  | nil => exact ends running
  | cons form forms ih =>
    rw [wordStates, List.map_cons, List.cons_append]
    by_cases same : running = form
    · subst same
      have kept : Cell.ofState ⟨running, running != running⟩ = .unchanged := by
        simp [Cell.ofState]
      rw [kept, replay, ih]
    · have written : Cell.ofState ⟨form, running != form⟩ = .changed form := by
        simp [Cell.ofState, same]
      rw [written, replay, ih]

/-- A form is only written down where it differs from the one just before. -/
theorem written_differs {word : Word} {forms : List Word} {step : Nat} {form : Word}
    (written : ((wordStates word forms).map Cell.ofState)[step]? = some (.changed form)) :
    ∃ before, (word :: forms)[step]? = some before ∧ form ≠ before := by
  rw [List.getElem?_map, Option.map_eq_some_iff] at written
  obtain ⟨state, stateAt, shown⟩ := written
  obtain ⟨_, before, beforeAt, changed⟩ := (getElem?_wordStates _ _ _ _).mp stateAt
  refine ⟨before, beforeAt, ?_⟩
  rw [Cell.ofState] at shown
  split at shown
  · rename_i flag
    cases shown
    rw [changed, bne_iff_ne] at flag
    exact flag.symm
  · cases shown

/-- The last form of a word is its final form, once a step was taken. -/
theorem getLast?_formsOf (aligned : Aligned words result) {index : Nat} {final : Word}
    (bound : index < words.length) (finalAt : result.output[index]? = some final)
    (taken : result.history ≠ []) : (formsOf result.history index).getLast? = some final := by
  have inside := aligned.inside bound
  have ends := List.getLast?_eq_some_getLast taken
  rw [List.getLast?_eq_getElem?, length_formsOf inside, getElem?_formsOf inside, formAfter?,
    ← List.getLast?_eq_getElem?, ends, Option.bind_some, aligned.final _ ends, finalAt]

theorem tells_of_aligned (aligned : Aligned words result) {sounds : List String} {index : Nat}
    {row : List Cell} (rowAt : (assembled words result sounds).rows[index]? = some row) :
    Tells words result index row := by
  obtain ⟨word, final, sound, wordAt, finalAt, _, rfl⟩ :=
    (getElem?_assembled_rows sounds index row).mp rowAt
  have bound := (List.getElem?_eq_some_iff.mp wordAt).1
  have inside := aligned.inside bound
  have replayed : replay word ((wordStates word (formsOf result.history index)).map Cell.ofState) =
      formsOf result.history index := by
    have nothing : ∀ running, replay running [] = [] := fun _ => rfl
    simpa using replay_states nothing word (formsOf result.history index)
  refine ⟨word, (wordStates word (formsOf result.history index)).map Cell.ofState, final, sound,
    rfl, wordAt, finalAt, ?_, ?_, ?_, ?_, ?_⟩
  · rw [List.length_map, length_wordStates, length_formsOf inside]
  · rw [replayed, length_formsOf inside]
  · intro step
    rw [replayed, getElem?_formsOf inside]
  · intro step form written
    rw [replayed]
    exact written_differs written
  · intro taken
    rw [replayed]
    exact getLast?_formsOf aligned bound finalAt taken

theorem rowForms_cellsOf (word final : Word) (forms : List Word) (sound : String) :
    rowForms (Table.cellsOf word ⟨wordStates word forms, final⟩ sound) = forms :=
  replay_states (fun _ => rfl) word forms

theorem findSome?_cellsOf (word : Word) (row : ReconciledRow) (sound : String) :
    (Table.cellsOf word row sound).findSome? finalForm? = some row.final := by
  have none_in_changes : (row.steps.map Cell.ofState).findSome? finalForm? = none := by
    rw [List.findSome?_eq_none_iff]
    intro cell member
    obtain ⟨state, _, rfl⟩ := List.mem_map.mp member
    rw [Cell.ofState]
    split <;> rfl
  rw [Table.cellsOf, List.findSome?_cons_of_isNone rfl, List.findSome?_append, none_in_changes]
  rfl

private theorem words_of_rows (aligned : Aligned words result) {sounds : List String}
    (level : sounds.length = result.output.length) :
    (assembled words result sounds).rows.filterMap rowWord? = words := by
  apply filterMap_eq
  apply forall₂_of_getElem? (length_assembled_rows aligned level)
  intro index row word rowAt wordAt
  obtain ⟨word', final, sound, wordAt', _, _, rfl⟩ :=
    (getElem?_assembled_rows sounds index row).mp rowAt
  exact wordAt'.symm.trans wordAt

private theorem output_of_rows (aligned : Aligned words result) {sounds : List String}
    (level : sounds.length = result.output.length) :
    ((assembled words result sounds).rows.filterMap fun row => row.findSome? finalForm?) =
      result.output := by
  apply filterMap_eq
  apply forall₂_of_getElem? ((length_assembled_rows aligned level).trans aligned.output.symm)
  intro index row final rowAt finalAt
  obtain ⟨word, final', sound, _, finalAt', _, rfl⟩ :=
    (getElem?_assembled_rows sounds index row).mp rowAt
  rw [findSome?_cellsOf, ← finalAt, ← finalAt']

private theorem step_of_rows (aligned : Aligned words result) {sounds : List String}
    (level : sounds.length = result.output.length) {step : Nat} {taken : Step}
    (takenAt : result.history[step]? = some taken) :
    ((assembled words result sounds).rows.filterMap fun row => (rowForms row)[step]?) =
      taken.words := by
  have member := List.mem_of_getElem? takenAt
  apply filterMap_eq
  apply forall₂_of_getElem?
    ((length_assembled_rows aligned level).trans (aligned.steps taken member).symm)
  intro index row form rowAt formAt
  obtain ⟨word, final, sound, wordAt, _, _, rfl⟩ :=
    (getElem?_assembled_rows sounds index row).mp rowAt
  have inside := aligned.inside (List.getElem?_eq_some_iff.mp wordAt).1
  rw [rowForms_cellsOf, getElem?_formsOf inside, formAfter?, takenAt]
  exact formAt

private theorem history_of_rows (aligned : Aligned words result) {sounds : List String}
    (level : sounds.length = result.output.length) :
    (result.rules.mapIdx fun step label =>
      (⟨label, (assembled words result sounds).rows.filterMap fun row =>
        (rowForms row)[step]?⟩ : Step)) = result.history := by
  apply List.ext_getElem?
  intro step
  rw [List.getElem?_mapIdx, Transformation.rules, List.getElem?_map]
  cases takenAt : result.history[step]? with
  | none => rfl
  | some taken => rw [Option.map_some, Option.map_some, step_of_rows aligned level takenAt]

/-- The transcript of an assembled table is the one it was assembled from. -/
theorem transcriptOf_assembled (aligned : Aligned words result) {sounds : List String}
    (level : sounds.length = result.output.length) :
    transcriptOf (assembled words result sounds) = ⟨words, result⟩ := by
  have labels : middle (assembled words result sounds).headings = result.rules :=
    middle_headingsOf result
  rw [transcriptOf, labels, words_of_rows aligned level, history_of_rows aligned level,
    output_of_rows aligned level]

theorem transcriptOf_tabulate {engine : Engine system} {s : system} {table : Table}
    (tabulated : (engine.tabulate words result s).answer = .ok table) :
    transcriptOf table = ⟨words, result⟩ := by
  obtain ⟨aligned, sounds, pronounced, rfl⟩ := (tabulate_ok_iff engine s table).mp tabulated
  exact transcriptOf_assembled aligned (Sequencing.length_of_mapM pronounced)

/-- A table keeps the words and the transformation it was made of: every row tells the whole course
of its word, the middle headings are the labels of the steps, and another input with the same table,
tabulated by whatever engine, is the same input. -/
theorem tabulate_loses_nothing {engine : Engine system} {s : system} {table : Table}
    (tabulated : (engine.tabulate words result s).answer = .ok table) :
    transcriptOf table = ⟨words, result⟩ ∧
      middle table.headings = result.rules ∧
      table.rows.length = words.length ∧
      (∀ index row, table.rows[index]? = some row → Tells words result index row) ∧
      ∀ {system' : Type} (engine' : Engine system') (s' : system') (words' : List Word)
        (result' : Transformation), (engine'.tabulate words' result' s').answer = .ok table →
          words' = words ∧ result' = result := by
  obtain ⟨aligned, sounds, pronounced, rfl⟩ := (tabulate_ok_iff engine s table).mp tabulated
  refine ⟨transcriptOf_tabulate tabulated, middle_headingsOf result,
    length_assembled_rows aligned (Sequencing.length_of_mapM pronounced), ?_, ?_⟩
  · intro index row rowAt
    exact tells_of_aligned aligned rowAt
  · intro system' engine' s' words' result' tabulated'
    have same := (transcriptOf_tabulate tabulated').symm.trans (transcriptOf_tabulate tabulated)
    cases same
    exact ⟨rfl, rfl⟩

/-- An engine without rules, which pronounces words as they are spelled. -/
def spelled : Engine Unit where
  parse _ := .ok ()
  generate _ _ s := (.ok [], s)
  apply words s := (.ok (.untouched words), s)
  transcribe word s := (.ok word, s)
  release := id

/-- A change that a later step takes back leaves two cells, and both steps are read off them. -/
theorem reverted_change_recovered :
    let result : Transformation := ⟨[⟨"a", ["pila"]⟩, ⟨"b", ["pira"]⟩], ["pira"]⟩
    let table : Table := ⟨["Words", "a", "b", "Final", "IPA"],
      [[.word "pira", .changed "pila", .changed "pira", .final "pira", .ipa "pira"]]⟩
    (spelled.tabulate ["pira"] result ()).answer = .ok table ∧
      transcriptOf table = ⟨["pira"], result⟩ := by
  intro result table
  have answers : (spelled.tabulate ["pira"] result ()).answer.toOption = some table := by
    decide +kernel
  cases tabulated : (spelled.tabulate ["pira"] result ()).answer with
  | error fault => rw [tabulated] at answers; cases answers
  | ok given =>
    rw [tabulated] at answers
    obtain rfl := Option.some.inj answers
    exact ⟨rfl, (tabulate_loses_nothing tabulated).1⟩

end SoundChange.Replay
