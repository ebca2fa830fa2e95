import SoundChange.Proofs.EngineCalls
import SoundChange.Proofs.RecordReading
import SoundChange.Proofs.Sessions
import SoundChange.Proofs.Stages

/-! The shape of the history table. Whatever an engine answers, a table that is made has one heading
and one cell in each row for the word, every step, the final form and its pronunciation. So every
format can be written, and the faults that would report another shape never occur. -/
namespace SoundChange.TableShape
open EngineCalls Reconciliation Sequencing Sessions Stages Tabulation

variable {system : Type}

/-- A cell that says what a rule did to a word. -/
inductive StepCell : Cell → Prop
  | unchanged : StepCell .unchanged
  | changed (form : String) : StepCell (.changed form)

/-- The row of one word over so many steps. -/
inductive IsRow (steps : Nat) : List Cell → Prop
  | row (word : String) {marks : List Cell} (final sound : String) (count : marks.length = steps)
      (each : ∀ cell ∈ marks, StepCell cell) :
    IsRow steps (.word word :: (marks ++ [.final final, .ipa sound]))

/-- A table with three columns beside those of the steps, and one row for each word. -/
structure Shaped (words : List Word) (result : Transformation) (table : Table) : Prop where
  headings : table.headings.length = result.history.length + 3
  height : table.rows.length = words.length
  rows : ∀ cells ∈ table.rows, IsRow result.history.length cells

theorem IsRow.length {steps : Nat} {cells : List Cell} (row : IsRow steps cells) :
    cells.length = steps + 3 := by
  obtain ⟨word, final, sound, rfl, _⟩ := row
  simp

theorem stepCell_ofState (state : StepState) : StepCell (Cell.ofState state) := by
  rw [Cell.ofState]
  split
  · exact .changed _
  · exact .unchanged

theorem isRow_cellsOf (word : Word) (row : ReconciledRow) (sound : String) :
    IsRow row.steps.length (Table.cellsOf word row sound) := by
  refine .row word row.final sound (by simp) ?_
  intro cell member
  obtain ⟨state, _, rfl⟩ := List.mem_map.mp member
  exact stepCell_ofState state

/-- The table of lists that line up has the shape, whatever the pronunciations are. -/
theorem shaped_assembled {words : List Word} {result : Transformation} {sounds : List String}
    (aligned : Aligned words result) (level : sounds.length = result.output.length) :
    Shaped words result (assembled words result sounds) where
  headings := length_headingsOf result
  height := length_assembled_rows aligned level
  rows cells member := by
    obtain ⟨index, found⟩ := List.mem_iff_getElem?.mp member
    obtain ⟨word, final, sound, wordAt, _, _, rfl⟩ :=
      (getElem?_assembled_rows sounds index cells).mp found
    have inside := (List.getElem?_eq_some_iff.mp wordAt).1
    have steps : (wordStates word (formsOf result.history index)).length =
        result.history.length := by
      rw [length_wordStates, length_formsOf (aligned.inside inside)]
    rw [← steps]
    exact isRow_cellsOf word ⟨wordStates word (formsOf result.history index), final⟩ sound

theorem shaped_of_tabulate {engine : Engine system} {words : List Word} {result : Transformation}
    {s : system} {table : Table}
    (tabulated : (engine.tabulate words result s).answer = .ok table) :
    Shaped words result table := by
  obtain ⟨aligned, sounds, pronounced, rfl⟩ := (tabulate_ok_iff engine s table).mp tabulated
  exact shaped_assembled aligned (length_of_mapM pronounced)

/-! Reasons for no table. -/

/-- Pronunciations are asked for up to the first refusal. -/
theorem pronouncingCalls_of_refused {engine : Engine system} {place : Nat} {forms : List Word}
    {s : system} {fault : EngineFault} (refused : Refused engine place forms s fault) :
    pronouncingCalls engine forms s = (forms.take (place + 1)).map .transcribe := by
  induction refused with
  | here forms refused => simp only [pronouncingCalls, askingFirst, refused, List.take_succ_cons,
      List.take_zero, List.map_cons, List.map_nil]
  | later answered _ ih => simp only [pronouncingCalls, askingFirst, answered, ih,
      List.take_succ_cons, List.map_cons]

/-- Lists that do not line up are refused before any form is asked for, and no fault speaks of the
rows of a table. -/
theorem untabled_of_misaligned {engine : Engine system} {words : List Word}
    {result : Transformation} {contract : ContractFault} (s : system)
    (misaligned : Misaligned words result contract) :
    (engine.tabulate words result s).events = [] ∧
      (∀ expected actual, contract ≠ .rowCount expected actual) ∧
      ∀ row expected actual, contract ≠ .rowWidth row expected actual := by
  refine ⟨?_, ?_, ?_⟩
  · rw [tabulate_of_misaligned engine misaligned]
    rfl
  · rintro expected actual rfl
    cases misaligned
  · rintro row expected actual rfl
    cases misaligned

/-- However a generation was made, its table has the shape. -/
theorem shaped_of_generation {engine : Engine system} {source : String}
    {material : Batch.Material} {generation : Generation}
    (made : (Batch.generation engine source material).answer = .ok generation) :
    Shaped generation.words generation.result generation.table := by
  have finished {words : List Word} {result : Transformation} {s : system}
      (answered : (engine.finish words result s).answer = .ok generation) :
      Shaped generation.words generation.result generation.table := by
    obtain ⟨table, tabulated, rfl⟩ := (answer_finish_ok_iff engine words result s _).mp answered
    exact shaped_of_tabulate tabulated
  have followed {words : List Word} {s : system}
      (answered : (engine.follow words s).answer = .ok generation) :
      Shaped generation.words generation.result generation.table := by
    obtain ⟨result, _, answered⟩ := (answer_bind_ok_iff _ _ _ _).mp answered
    exact finished answered
  cases material with
  | words count repartition untouched =>
    cases untouched with
    | true =>
      obtain ⟨s, _, answered⟩ := answer_withSystem_ok made
      obtain ⟨words, _, answered⟩ := (answer_bind_ok_iff _ _ _ _).mp answered
      exact finished answered
    | false =>
      obtain ⟨s, _, answered⟩ := answer_withSystem_ok made
      obtain ⟨words, _, answered⟩ := (answer_bind_ok_iff _ _ _ _).mp answered
      exact followed answered
  | list words =>
    obtain ⟨s, _, answered⟩ := answer_withSystem_ok made
    exact followed answered
  | transcript transcript =>
    obtain ⟨s, _, answered⟩ := answer_withSystem_ok made
    exact finished answered

/-! Formats. -/

section Columns
open Text.Width

/-- A character hides at most the columns that it takes itself. -/
theorem hiddenIn_le (c : Char) : hiddenIn c ≤ columns c := by
  rw [hiddenIn, isHidden]
  split
  · rename_i hides
    have taken : columns c ≠ 0 := by
      intro none
      simp [none] at hides
    omega
  · exact Nat.zero_le _

theorem hidden_le (place : Escape) (line : List Char) :
    hidden place line ≤ line.foldr (fun c others => columns c + others) 0 := by
  induction line generalizing place with
  | nil => simp [Text.Width.hidden]
  | cons c rest ih =>
    have here := hiddenIn_le c
    rw [List.foldr_cons]
    cases place with
    | outside =>
      have later := ih (if c = '\x1b' then .escaped else .outside)
      rw [Text.Width.hidden]
      omega
    | escaped =>
      rw [Text.Width.hidden]
      split
      · have later := ih .inside
        omega
      · have later := ih .outside
        omega
    | inside =>
      have later := ih (if c = 'm' then .outside else .inside)
      rw [Text.Width.hidden]
      omega

/-- The columns of a line are those of its characters without the hidden ones. There are always
enough of them to take the hidden ones away, so aligned text can be written for any cells. -/
theorem lineColumns_add_hidden (line : List Char) :
    lineColumns line + hidden .outside line =
      line.foldr (fun c others => columns c + others) 0 :=
  Nat.sub_add_cancel (hidden_le .outside line)

end Columns

theorem csv_of_shaped {words : List Word} {result : Transformation} {table : Table}
    (shaped : Shaped words result table) : ∃ text, table.csv = .ok text := by
  refine (RecordReading.exists_csv_iff table).mpr fun cells row => ?_
  rw [shaped.headings]
  exact (shaped.rows cells row).length

/-- A table of this shape can be written in every format. -/
theorem format_of_shaped {generation : Generation}
    (shaped : Shaped generation.words generation.result generation.table)
    (format : OutputFormat) : ∃ text, generation.format format = .ok text := by
  cases format with
  | csv => exact csv_of_shaped shaped
  | text | plain | html | json => exact ⟨_, rfl⟩

/-! Batch runs, on a machine of any kind. -/

variable {machine : Type}

/-- Nothing is formatted while the words of a task are read. -/
theorem readMaterial_fault {host : Host (StateM machine)} {task : Task} {s : machine}
    {fault : BatchFault} (failed : (Batch.readMaterial host task s).1 = .error fault)
    (refused : RenderFault) : fault ≠ .render refused := by
  cases task with
  | words count repartition untouched => cases failed
  | sounds source =>
    have read : ∃ bytes : Except IoFault (List UInt8),
        (Batch.readMaterial host (.sounds source) s).1 =
          ((bytes.bind WordList.read).mapError
            (.access (source.getD Batch.inputName))).map Batch.Material.list := by
      cases source <;> exact ⟨_, rfl⟩
    obtain ⟨bytes, read⟩ := read
    rw [read] at failed
    cases words : bytes.bind WordList.read with
    | ok list => rw [words] at failed; cases failed
    | error reason =>
      rw [words] at failed
      cases failed
      exact BatchFault.noConfusion
  | render path =>
    have loaded : (Batch.readMaterial host (.render path) s).1 =
        ((Transcript.load host path s).1.mapError BatchFault.saved).map
          Batch.Material.transcript := rfl
    rw [loaded] at failed
    cases transcript : (Transcript.load host path s).1 with
    | ok found => rw [transcript] at failed; cases failed
    | error reason =>
      rw [transcript] at failed
      cases failed
      exact BatchFault.noConfusion

/-- What a job makes is a run on what was read, or a fault of reading. -/
theorem make_outcome (host : Host (StateM machine)) (engine : Engine system) (job : Job)
    (s : machine) :
    (∃ source material, (Batch.make host engine job s).1 =
      .ok (Batch.generation engine source material)) ∨
    ∃ fault, (Batch.make host engine job s).1 = .error fault ∧
      ∀ refused, fault ≠ .render refused := by
  rw [Batch.make, BatchRuns.run_bind]
  cases (host.readText job.rules s).1 with
  | error fault => exact .inr ⟨_, rfl, fun _ => BatchFault.noConfusion⟩
  | ok source =>
    have made {s : machine} : ((do
        return (← Batch.readMaterial host job.task).map (Batch.generation engine source) :
          StateM machine _) s).1 =
        (Batch.readMaterial host job.task s).1.map (Batch.generation engine source) := rfl
    simp only [made]
    cases material : (Batch.readMaterial host job.task (host.readText job.rules s).2).1 with
    | ok found => exact .inl ⟨source, found, rfl⟩
    | error fault => exact .inr ⟨fault, rfl, readMaterial_fault material⟩

theorem deliver_fault {host : Host (StateM machine)} {output : Option String} {text : String}
    {s : machine} (refused : RenderFault) :
    (Batch.deliver host output text s).1 ≠ .error (.render refused) := by
  intro failed
  cases output with
  | none =>
    have printed : (Batch.deliver host none text s).1 =
        (host.print text s).1.mapError BatchFault.print := rfl
    rw [printed] at failed
    obtain ⟨_, _, same⟩ := mapError_error_iff.mp failed
    cases same
  | some path =>
    have written : (Batch.deliver host (some path) text s).1 =
        (host.write path text s).1.mapError (BatchFault.access path) := rfl
    rw [written] at failed
    obtain ⟨_, _, same⟩ := mapError_error_iff.mp failed
    cases same

/-- A table of the right shape is never refused by its format. -/
theorem emit_fault {host : Host (StateM machine)} {format : OutputFormat} {output : Option String}
    {generation : Generation} {s : machine}
    (shaped : Shaped generation.words generation.result generation.table)
    (refused : RenderFault) :
    (Batch.emit host format output generation s).1 ≠ .error (.render refused) := by
  rw [Batch.emit]
  split
  · intro failed
    have printed : ((do
        return (← Batch.printAll host generation.table.alignedPieces).mapError BatchFault.print :
          StateM machine _) s).1 =
        (Batch.printAll host generation.table.alignedPieces s).1.mapError BatchFault.print := rfl
    rw [printed] at failed
    obtain ⟨_, _, same⟩ := mapError_error_iff.mp failed
    cases same
  · obtain ⟨text, formatted⟩ := format_of_shaped shaped format
    rw [formatted]
    exact deliver_fault refused

theorem run_fault (host : Host (StateM machine)) (engine : Engine system) (job : Job)
    (s : machine) (refused : RenderFault) :
    (Batch.run host engine job s).1 ≠ .error (.render refused) := by
  rw [Batch.run, BatchRuns.run_bind]
  rcases make_outcome host engine job s with ⟨source, material, made⟩ | ⟨fault, failed, other⟩
  · rw [made]
    simp only
    cases answered : (Batch.generation engine source material).answer with
    | error fault =>
      simp only [BatchRuns.run_pure]
      exact fun failed => by cases failed
    | ok generation => exact emit_fault (shaped_of_generation answered) refused
  · rw [failed]
    simp only [BatchRuns.run_pure]
    intro same
    cases same
    exact other refused rfl

/-- Every engine, also one that answers with lists of the wrong lengths, and every transcript lead
to tables of the right shape only, and these can be written in every format. Where there is no table,
the lists did not line up and no word was transcribed, or some final form was the first to be
refused. A batch run on any machine never ends in a format that cannot be written. -/
theorem tables_are_shaped (engine : Engine system) :
    (∀ source material generation,
      (Batch.generation engine source material).answer = .ok generation →
        Shaped generation.words generation.result generation.table ∧
          ∀ format, ∃ text, generation.format format = .ok text) ∧
    (∀ words result s,
      let tabulated := engine.tabulate words result s
      (∀ table, tabulated.answer = .ok table → Shaped words result table) ∧
      ∀ fault, tabulated.answer = .error fault →
        (∃ contract, fault = .contract contract ∧ Misaligned words result contract ∧
          tabulated.events = [] ∧
          (∀ expected actual, contract ≠ .rowCount expected actual) ∧
          ∀ row expected actual, contract ≠ .rowWidth row expected actual) ∨
        ∃ place report, fault = .engine report ∧
          Refused engine place result.output s report ∧
          tabulated.events = (result.output.take (place + 1)).map .transcribe) ∧
    ∀ (machine : Type) (host : Host (StateM machine)) job s refused,
      (Batch.run host engine job s).1 ≠ .error (.render refused) := by
  refine ⟨?_, ?_, ?_⟩
  · intro source material generation made
    have shaped := shaped_of_generation made
    exact ⟨shaped, format_of_shaped shaped⟩
  · intro words result s
    refine ⟨fun table => shaped_of_tabulate, ?_⟩
    intro fault failed
    cases untabled_of_answer failed with
    | @misaligned contract misaligned =>
      exact .inl ⟨contract, rfl, misaligned, untabled_of_misaligned s misaligned⟩
    | @refused place report aligned refused =>
      have events := events_tabulate engine words result s
      rw [tabulatingCalls, if_pos aligned, pronouncingCalls_of_refused refused] at events
      exact .inr ⟨place, report, rfl, refused, events⟩
  · intro machine host job s refused
    exact run_fault host engine job s refused

end SoundChange.TableShape
