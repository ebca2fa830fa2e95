import SoundChange.Proofs.Reconciliation
import SoundChange.Proofs.Sequencing

/-! Tabulating a transformation. Lists that do not line up are refused before any word is
transcribed; for lists that do, the engine is asked once for each final form, in order, and the
table is assembled from its answers. No row can come out too narrow or too wide. -/
namespace SoundChange.Tabulation
open Reconciliation Sequencing

variable {system state : Type} {words : List Word} {result : Transformation}

theorem length_cellsOf (word : Word) (row : ReconciledRow) (sound : String) :
    (Table.cellsOf word row sound).length = row.steps.length + 3 := by
  simp [Table.cellsOf]

theorem length_headingsOf (result : Transformation) :
    (Table.headingsOf result).length = result.history.length + 3 := by
  simp [Table.headingsOf, Transformation.rules]

/-- The rows of words with their states, given how the final forms are pronounced. -/
def rowsOf (words : List Word) (rows : List ReconciledRow) (sounds : List String) :
    List (List Cell) :=
  List.zipWith (fun entry sound => Table.cellsOf entry.1 entry.2 sound) (words.zip rows) sounds

/-- The table of a transformation, given how its final forms are pronounced. -/
def assembled (words : List Word) (result : Transformation) (sounds : List String) : Table :=
  ⟨Table.headingsOf result,
    rowsOf words (reconciledRows (result.history.map Step.words) words result.output) sounds⟩

/-- Rows that are as wide as the headings only fail where a lookup does. -/
theorem buildRows_of_fits {width : Nat} (lookup : Table.Lookup state) (index : Nat)
    {words : List Word} {rows : List ReconciledRow} (level : words.length = rows.length)
    (fits : ∀ row ∈ rows, row.steps.length + 3 = width) :
    Table.buildRows width lookup index words rows = do
      let sounds ← (rows.map ReconciledRow.final).mapM (Table.look lookup)
      return rowsOf words rows sounds := by
  induction words generalizing rows index with
  | nil =>
    rw [List.eq_nil_of_length_eq_zero level.symm]
    rfl
  | cons word words ih =>
    cases rows with
    | nil => cases level
    | cons row rows =>
      have rest := ih (index + 1) (Nat.succ.inj level)
        fun row member => fits row (List.mem_cons_of_mem _ member)
      simp only [Table.buildRows, length_cellsOf, fits row List.mem_cons_self, ↓reduceIte, rest,
        List.map_cons, List.mapM_cons, LawfulMonad.bind_assoc, LawfulMonad.pure_bind]
      rfl

/-- Asking an engine how a word is pronounced. -/
def pronouncing (engine : Engine system) (word : Word) : Session system String :=
  Engine.calling (.transcribe word) (engine.transcribe word)

theorem rename_look (engine : Engine system) (word : Word) :
    Traced.rename Call.transcribe id (Table.look engine.transcribe word) =
      pronouncing engine word := by
  funext s
  refine result_ext ?_ rfl rfl
  simp only [Table.look, pronouncing, Engine.calling, rename_perform, Traced.perform]
  cases (engine.transcribe word s).1 <;> rfl

private theorem map_final_reconciledRows (columns : List (List Word)) {words finals : List Word}
    (level : finals.length = words.length) :
    (reconciledRows columns words finals).map ReconciledRow.final = finals := by
  induction words generalizing columns finals with
  | nil => rw [List.eq_nil_of_length_eq_zero level]; rfl
  | cons word words ih =>
    cases finals with
    | nil => cases level
    | cons final finals => rw [reconciledRows, List.map_cons, ih _ (Nat.succ.inj level)]

/-- Of lists that line up, every final form is asked for once and in order, and nothing but such a
question can fail. -/
theorem tabulate_of_aligned (engine : Engine system) (aligned : Aligned words result) :
    engine.tabulate words result = do
      let sounds ← result.output.mapM (pronouncing engine)
      return assembled words result sounds := by
  have follows := aligned.follows
  have fits : ∀ row ∈ reconciledRows (result.history.map Step.words) words result.output,
      row.steps.length + 3 = (Table.headingsOf result).length := by
    intro row member
    rw [follows.width row member, length_headingsOf]
  rw [Engine.tabulate, (reconcile_ok_iff _).mpr ⟨aligned, rfl⟩]
  simp only [Table.build, if_pos follows.height,
    buildRows_of_fits engine.transcribe 0 follows.height.symm fits,
    map_final_reconciledRows _ aligned.output, LawfulMonad.bind_assoc, LawfulMonad.pure_bind,
    rename_bind, rename_mapM, rename_look, rename_pure]
  rfl

theorem tabulate_of_misaligned (engine : Engine system) {fault : ContractFault}
    (misaligned : Misaligned words result fault) :
    engine.tabulate words result = Traced.fail (.contract fault) := by
  rw [Engine.tabulate, (reconcile_error_iff fault).mpr misaligned]

/-- A table is the sign that the lists line up and that every final form has a pronunciation. -/
theorem tabulate_ok_iff (engine : Engine system) (s : system) (table : Table) :
    (engine.tabulate words result s).answer = .ok table ↔
      Aligned words result ∧ ∃ sounds,
        ((result.output.mapM (pronouncing engine)) s).answer = .ok sounds ∧
          table = assembled words result sounds := by
  constructor
  · intro tabulated
    cases outcome : reconcile words result with
    | error fault =>
      rw [tabulate_of_misaligned engine ((reconcile_error_iff fault).mp outcome)] at tabulated
      cases tabulated
    | ok matrix =>
      have aligned := ((reconcile_ok_iff matrix).mp outcome).1
      rw [tabulate_of_aligned engine aligned, answer_bind_ok_iff] at tabulated
      obtain ⟨sounds, pronounced, same⟩ := tabulated
      cases same
      exact ⟨aligned, sounds, pronounced, rfl⟩
  · rintro ⟨aligned, sounds, pronounced, rfl⟩
    rw [tabulate_of_aligned engine aligned, answer_bind_ok_iff]
    exact ⟨sounds, pronounced, rfl⟩

/-- Only lists that do not line up break the contract; a failed lookup is the engine's own fault. -/
theorem tabulate_contract_iff (engine : Engine system) (s : system) (fault : ContractFault) :
    (engine.tabulate words result s).answer = .error (.contract fault) ↔
      Misaligned words result fault := by
  constructor
  · intro failed
    cases outcome : reconcile words result with
    | error fault' =>
      have misaligned := (reconcile_error_iff fault').mp outcome
      rw [tabulate_of_misaligned engine misaligned] at failed
      cases failed
      exact misaligned
    | ok matrix =>
      have aligned := ((reconcile_ok_iff matrix).mp outcome).1
      rw [tabulate_of_aligned engine aligned] at failed
      cases asked : ((result.output.mapM (pronouncing engine)) s).answer with
      | ok sounds => rw [run_bind_ok asked] at failed; cases failed
      | error fault' =>
        rw [run_bind_error asked] at failed
        cases failed
        obtain ⟨word, _, s', refused⟩ := error_of_mapM asked
        simp only [pronouncing, Engine.calling, rename_perform, Traced.perform] at refused
        cases answered : (engine.transcribe word s').1 with
        | ok sound => rw [answered] at refused; cases refused
        | error report => rw [answered] at refused; cases refused
  · intro misaligned
    rw [tabulate_of_misaligned engine misaligned]
    rfl

/-- The cells of one word. -/
theorem getElem?_assembled_rows (sounds : List String) (index : Nat) (cells : List Cell) :
    (assembled words result sounds).rows[index]? = some cells ↔
      ∃ word final sound, words[index]? = some word ∧ result.output[index]? = some final ∧
        sounds[index]? = some sound ∧
          cells = Table.cellsOf word ⟨wordStates word (formsOf result.history index), final⟩
            sound := by
  simp only [assembled, rowsOf, List.getElem?_zipWith_eq_some, List.getElem?_zip_eq_some,
    getElem?_rows, Prod.exists]
  constructor
  · rintro ⟨word, row, sound, ⟨wordAt, word', final, wordAt', finalAt, rfl⟩, soundAt, rfl⟩
    obtain rfl := Option.some.inj (wordAt.symm.trans wordAt')
    exact ⟨word, final, sound, wordAt, finalAt, soundAt, rfl⟩
  · rintro ⟨word, final, sound, wordAt, finalAt, soundAt, rfl⟩
    exact ⟨word, _, sound, ⟨wordAt, word, final, wordAt, finalAt, rfl⟩, soundAt, rfl⟩

/-- The cell of a word under a step. -/
theorem getElem?_cellsOf_step {word : Word} {row : ReconciledRow} {sound : String} {step : Nat}
    {state : StepState} (stateAt : row.steps[step]? = some state) :
    (Table.cellsOf word row sound)[step + 1]? = some (Cell.ofState state) := by
  have bound := (List.getElem?_eq_some_iff.mp stateAt).1
  rw [Table.cellsOf, List.getElem?_cons_succ, List.getElem?_append_left (by simpa using bound),
    List.getElem?_map, stateAt]
  rfl

theorem getElem?_cellsOf_end (word : Word) (row : ReconciledRow) (sound : String) (place : Nat) :
    (Table.cellsOf word row sound)[row.steps.length + 1 + place]? =
      [Cell.final row.final, .ipa sound][place]? := by
  rw [Table.cellsOf, show row.steps.length + 1 + place = row.steps.length + place + 1 by omega,
    List.getElem?_cons_succ, List.getElem?_append_right (by simp)]
  simp

theorem length_assembled_rows {sounds : List String} (aligned : Aligned words result)
    (level : sounds.length = result.output.length) :
    (assembled words result sounds).rows.length = words.length := by
  simp [assembled, rowsOf, length_reconciledRows, aligned.output, level]

end SoundChange.Tabulation
