import SoundChange.Proofs.Tabulation

/-! Building a table from any rows at all, also from rows that no history gives. The rows are taken in
order, and each has its final form looked up before its width is checked; the first row that fails
either way ends the building, with no later lookup and without a table. A table is built exactly when
there is one row for each word and every row fits. -/
namespace SoundChange.TableBuilding
open Sequencing Tabulation

variable {state : Type} {lookup : Table.Lookup state} {result : Transformation}
  {rows before : List ReconciledRow} {row : ReconciledRow} {words : List Word} {word : Word}
  {s : state}

/-- The state after the final forms of some rows were looked up, whatever the answers were. -/
def stateAfter (lookup : Table.Lookup state) (rows : List ReconciledRow) (s : state) : state :=
  rows.foldl (fun s row => (lookup row.final s).2) s

/-- The answer for a row, once those before it were looked up. -/
def answerFor (lookup : Table.Lookup state) (before : List ReconciledRow) (row : ReconciledRow)
    (s : state) : Except EngineFault String :=
  (lookup row.final (stateAfter lookup before s)).1

/-- A row that fits: its final form has a pronunciation, and it has one state for each step. -/
def Fits (lookup : Table.Lookup state) (result : Transformation) (before : List ReconciledRow)
    (row : ReconciledRow) (s : state) : Prop :=
  (∃ sound, answerFor lookup before row s = .ok sound) ∧
    row.steps.length = result.history.length

/-- Every row fits, each after the rows before it. -/
def AllFit (lookup : Table.Lookup state) (result : Transformation) (rows : List ReconciledRow)
    (s : state) : Prop :=
  ∀ place row, rows[place]? = some row → Fits lookup result (rows.take place) row s

/-- The first row that does not fit. -/
structure FirstMisfit (lookup : Table.Lookup state) (result : Transformation)
    (rows : List ReconciledRow) (s : state) (place : Nat) (row : ReconciledRow) : Prop where
  rowAt : rows[place]? = some row
  misfit : ¬ Fits lookup result (rows.take place) row s
  fitBefore : ∀ earlier < place, ∀ other, rows[earlier]? = some other →
    Fits lookup result (rows.take earlier) other s

/-- What a row that does not fit is blamed for: its lookup, if that failed, and its width otherwise. -/
def blame (lookup : Table.Lookup state) (result : Transformation) (place : Nat)
    (before : List ReconciledRow) (row : ReconciledRow) (s : state) : RequestFault :=
  match answerFor lookup before row s with
  | .error fault => .engine fault
  | .ok _ =>
    .contract (.rowWidth place (Table.headingsOf result).length (row.steps.length + 3))

/-! One row. -/

theorem run_look (word : Word) (s : state) :
    Table.look lookup word s =
      ⟨(lookup word s).1.mapError .engine, (lookup word s).2, [word]⟩ := rfl

/-- The row that is looked up first is answered in the state at the start. -/
theorem answer_look (lookup : Table.Lookup state) (row : ReconciledRow) (s : state) :
    (Table.look lookup row.final s).answer = (answerFor lookup [] row s).mapError .engine := rfl

/-- A row that does not fit ends the building right after its lookup. -/
theorem buildRows_of_head_misfit (index : Nat) (misfit : ¬ Fits lookup result [] row s) :
    Table.buildRows (Table.headingsOf result).length lookup index (word :: words) (row :: rows) s =
      ⟨.error (blame lookup result index [] row s), (lookup row.final s).2, [row.final]⟩ := by
  cases answered : answerFor lookup [] row s with
  | error fault =>
    have refused : (Table.look lookup row.final s).answer = .error (.engine fault) := by
      rw [answer_look, answered]
      rfl
    rw [Table.buildRows, run_bind_error refused, blame, answered]
    rfl
  | ok sound =>
    have looked : (Table.look lookup row.final s).answer = .ok sound := by
      rw [answer_look, answered]
      rfl
    have uneven : row.steps.length + 3 ≠ (Table.headingsOf result).length := by
      intro even
      rw [length_headingsOf] at even
      exact misfit ⟨⟨sound, answered⟩, by omega⟩
    rw [Table.buildRows, run_bind_ok looked, blame, answered]
    simp only [length_cellsOf, if_neg uneven]
    rfl

/-- A row that fits stands above those that are built after it. -/
theorem buildRows_of_head_fits (index : Nat) {sound : String}
    (answered : answerFor lookup [] row s = .ok sound)
    (width : row.steps.length = result.history.length) :
    Table.buildRows (Table.headingsOf result).length lookup index (word :: words) (row :: rows) s =
      let rest := Table.buildRows (Table.headingsOf result).length lookup (index + 1) words rows
        (lookup row.final s).2
      ⟨rest.answer.map (Table.cellsOf word row sound :: ·), rest.state,
        row.final :: rest.events⟩ := by
  have looked : (Table.look lookup row.final s).answer = .ok sound := by
    rw [answer_look, answered]
    rfl
  have even : row.steps.length + 3 = (Table.headingsOf result).length := by
    rw [length_headingsOf, width]
  rw [Table.buildRows, run_bind_ok looked]
  simp only [length_cellsOf, if_pos even, run_look]
  cases rest : (Table.buildRows (Table.headingsOf result).length lookup (index + 1) words rows
      (lookup row.final s).2).answer with
  | error fault => rw [run_bind_error rest]; rfl
  | ok others =>
    rw [run_bind_ok rest]
    simp [run_pure, Except.map]

/-! Rows in order. -/

theorem allFit_cons :
    AllFit lookup result (row :: rows) s ↔
      Fits lookup result [] row s ∧ AllFit lookup result rows (lookup row.final s).2 := by
  constructor
  · intro fits
    refine ⟨fits 0 row rfl, ?_⟩
    intro place other otherAt
    exact fits (place + 1) other otherAt
  · rintro ⟨first, rest⟩ place other otherAt
    cases place with
    | zero =>
      obtain rfl : row = other := by simpa using otherAt
      exact first
    | succ place => exact rest place other otherAt

/-- A first misfit behind a row that fits is the first misfit of the rows behind that row. -/
theorem FirstMisfit.tail {place : Nat} {other : ReconciledRow}
    (first : FirstMisfit lookup result (row :: rows) s (place + 1) other) :
    Fits lookup result [] row s ∧
      FirstMisfit lookup result rows (lookup row.final s).2 place other := by
  refine ⟨first.fitBefore 0 (Nat.succ_pos _) row rfl, first.rowAt, first.misfit, ?_⟩
  intro earlier bound another anotherAt
  exact first.fitBefore (earlier + 1) (Nat.succ_lt_succ bound) another anotherAt

/-- Rows fit all, or one of them is the first that does not. -/
theorem allFit_or_misfit (lookup : Table.Lookup state) (result : Transformation)
    (rows : List ReconciledRow) (s : state) :
    AllFit lookup result rows s ∨ ∃ place row, FirstMisfit lookup result rows s place row := by
  induction rows generalizing s with
  | nil =>
    left
    intro place row rowAt
    simp at rowAt
  | cons row rows ih =>
    by_cases fits : Fits lookup result [] row s
    · rcases ih (lookup row.final s).2 with all | ⟨place, other, first⟩
      · exact .inl (allFit_cons.mpr ⟨fits, all⟩)
      · right
        refine ⟨place + 1, other, first.rowAt, first.misfit, ?_⟩
        intro earlier bound another anotherAt
        cases earlier with
        | zero =>
          obtain rfl : row = another := by simpa using anotherAt
          exact fits
        | succ earlier =>
          exact first.fitBefore earlier (Nat.lt_of_succ_lt_succ bound) another anotherAt
    · right
      refine ⟨0, row, rfl, fits, ?_⟩
      intro earlier bound
      exact absurd bound (Nat.not_lt_zero earlier)

/-- Rows that fit are all built, each with the answer of its lookup. -/
theorem buildRows_of_allFit (index : Nat) (level : rows.length = words.length)
    (fits : AllFit lookup result rows s) :
    ∃ sounds : List String, sounds.length = rows.length ∧
      (∀ place row, rows[place]? = some row → ∃ sound, sounds[place]? = some sound ∧
        answerFor lookup (rows.take place) row s = .ok sound) ∧
      Table.buildRows (Table.headingsOf result).length lookup index words rows s =
        ⟨.ok (rowsOf words rows sounds), stateAfter lookup rows s,
          rows.map ReconciledRow.final⟩ := by
  induction rows generalizing words index s with
  | nil =>
    obtain rfl := List.eq_nil_of_length_eq_zero level.symm
    exact ⟨[], rfl, by simp, rfl⟩
  | cons row rows ih =>
    cases words with
    | nil => cases level
    | cons word words =>
      obtain ⟨⟨⟨sound, answered⟩, width⟩, rest⟩ := allFit_cons.mp fits
      obtain ⟨sounds, size, answers, built⟩ := ih (index + 1) (Nat.succ.inj level) rest
      refine ⟨sound :: sounds, by simp [size], ?_, ?_⟩
      · intro place other otherAt
        cases place with
        | zero =>
          obtain rfl : row = other := by simpa using otherAt
          exact ⟨sound, rfl, answered⟩
        | succ place => exact answers place other otherAt
      · rw [buildRows_of_head_fits index answered width, built]
        rfl

/-- The first row that does not fit ends the building right after its lookup. -/
theorem buildRows_of_misfit {place : Nat} (index : Nat) (level : rows.length = words.length)
    (first : FirstMisfit lookup result rows s place row) :
    Table.buildRows (Table.headingsOf result).length lookup index words rows s =
      ⟨.error (blame lookup result (index + place) (rows.take place) row s),
        stateAfter lookup (rows.take (place + 1)) s,
        (rows.take (place + 1)).map ReconciledRow.final⟩ := by
  induction rows generalizing words index place s with
  | nil => simpa using first.rowAt
  | cons head rows ih =>
    cases words with
    | nil => cases level
    | cons word words =>
      cases place with
      | zero =>
        obtain rfl : head = row := by simpa using first.rowAt
        exact buildRows_of_head_misfit index first.misfit
      | succ place =>
        obtain ⟨⟨⟨sound, answered⟩, width⟩, later⟩ := first.tail
        have number : index + 1 + place = index + (place + 1) := by omega
        rw [buildRows_of_head_fits index answered width,
          ih (index + 1) (Nat.succ.inj level) later, number]
        rfl

/-! Tables. -/

variable {matrix : Matrix}

/-- Without one row for each word nothing is looked up. -/
theorem build_of_uneven (uneven : matrix.rows.length ≠ words.length) :
    Table.build words result matrix lookup s =
      ⟨.error (.contract (.rowCount words.length matrix.rows.length)), s, []⟩ := by
  rw [Table.build, if_neg uneven]
  rfl

/-- The headings are put around the rows that are built. -/
theorem build_of_level (level : matrix.rows.length = words.length) :
    Table.build words result matrix lookup s =
      let built :=
        Table.buildRows (Table.headingsOf result).length lookup 0 words matrix.rows s
      ⟨built.answer.map (Table.mk (Table.headingsOf result)), built.state, built.events⟩ := by
  rw [Table.build, if_pos level]
  cases built : (Table.buildRows (Table.headingsOf result).length lookup 0 words matrix.rows
      s).answer with
  | error fault =>
    rw [run_bind_error built]
    simp [built, Except.map]
  | ok cells =>
    rw [run_bind_ok built]
    simp [run_pure, built, Except.map]

theorem build_of_misfit {place : Nat} (level : matrix.rows.length = words.length)
    (first : FirstMisfit lookup result matrix.rows s place row) :
    Table.build words result matrix lookup s =
      ⟨.error (blame lookup result place (matrix.rows.take place) row s),
        stateAfter lookup (matrix.rows.take (place + 1)) s,
        (matrix.rows.take (place + 1)).map ReconciledRow.final⟩ := by
  have stops := buildRows_of_misfit 0 level first
  rw [Nat.zero_add] at stops
  rw [build_of_level level, stops]
  rfl

theorem build_of_allFit (level : matrix.rows.length = words.length)
    (fits : AllFit lookup result matrix.rows s) :
    ∃ sounds : List String, sounds.length = matrix.rows.length ∧
      (∀ place row, matrix.rows[place]? = some row → ∃ sound, sounds[place]? = some sound ∧
        answerFor lookup (matrix.rows.take place) row s = .ok sound) ∧
      Table.build words result matrix lookup s =
        ⟨.ok ⟨Table.headingsOf result, rowsOf words matrix.rows sounds⟩,
          stateAfter lookup matrix.rows s, matrix.rows.map ReconciledRow.final⟩ := by
  obtain ⟨sounds, size, answers, built⟩ := buildRows_of_allFit 0 level fits
  refine ⟨sounds, size, answers, ?_⟩
  rw [build_of_level level, built]
  rfl

/-- Rows that fit are as wide as the headings. -/
theorem length_of_mem_rowsOf {sounds : List String} {cells : List Cell}
    (fits : AllFit lookup result rows s) (member : cells ∈ rowsOf words rows sounds) :
    cells.length = (Table.headingsOf result).length := by
  obtain ⟨place, cellsAt⟩ := List.mem_iff_getElem?.mp member
  simp only [rowsOf, List.getElem?_zipWith_eq_some, List.getElem?_zip_eq_some, Prod.exists]
    at cellsAt
  obtain ⟨word, row, sound, ⟨-, rowAt⟩, -, rfl⟩ := cellsAt
  rw [length_cellsOf, length_headingsOf, (fits place row rowAt).2]

/-- A table is built exactly if every word has a row and all rows fit. -/
theorem build_ok_iff :
    (∃ table, (Table.build words result matrix lookup s).answer = .ok table) ↔
      matrix.rows.length = words.length ∧ AllFit lookup result matrix.rows s := by
  constructor
  · rintro ⟨table, built⟩
    by_cases level : matrix.rows.length = words.length
    · rcases allFit_or_misfit lookup result matrix.rows s with fits | ⟨place, row, first⟩
      · exact ⟨level, fits⟩
      · rw [build_of_misfit level first] at built
        cases built
    · rw [build_of_uneven level] at built
      cases built
  · rintro ⟨level, fits⟩
    obtain ⟨sounds, -, -, built⟩ := build_of_allFit level fits
    exact ⟨_, congrArg Traced.Result.answer built⟩

/-- Building a table from any words, any transformation, any rows and any lookup. Unless there is one
row for each word, nothing is looked up and the numbers are reported. Otherwise the first row whose
lookup fails, or whose states are not as many as the steps, ends the building: the final forms up to
its own have been looked up in order and no others, and the fault is that of its lookup, if this
failed, and otherwise its width. If there is no such row, each final form was looked up once, in order,
and the table has the answers. There is a table in no other case, and never a part of one. -/
theorem build_stops_at_first_misfit (words : List Word) (result : Transformation) (matrix : Matrix)
    (lookup : Table.Lookup state) (s : state) :
    let rows := matrix.rows
    let run := Table.build words result matrix lookup s
    (rows.length ≠ words.length →
      run = ⟨.error (.contract (.rowCount words.length rows.length)), s, []⟩) ∧
    (rows.length = words.length → ∀ place row, FirstMisfit lookup result rows s place row →
      let before := rows.take place
      (∀ fault, answerFor lookup before row s = .error fault →
        run.answer = .error (.engine fault)) ∧
      (∀ sound, answerFor lookup before row s = .ok sound →
        run.answer = .error (.contract
          (.rowWidth place (Table.headingsOf result).length (row.steps.length + 3)))) ∧
      run.events = (rows.take (place + 1)).map ReconciledRow.final ∧
      run.events.length = place + 1 ∧
      run.state = stateAfter lookup (rows.take (place + 1)) s) ∧
    (rows.length = words.length → AllFit lookup result rows s →
      run.events = rows.map ReconciledRow.final ∧ run.events.length = words.length ∧
      run.state = stateAfter lookup rows s ∧
      ∃ sounds : List String, sounds.length = words.length ∧
        (∀ place row, rows[place]? = some row → ∃ sound, sounds[place]? = some sound ∧
          answerFor lookup (rows.take place) row s = .ok sound) ∧
        run.answer = .ok ⟨Table.headingsOf result, rowsOf words rows sounds⟩) ∧
    ((∃ table, run.answer = .ok table) ↔
      rows.length = words.length ∧ AllFit lookup result rows s) ∧
    ∀ table, run.answer = .ok table → table.rows.length = words.length ∧
      ∀ cells ∈ table.rows, cells.length = table.headings.length := by
  intro rows run
  refine ⟨build_of_uneven, ?_, ?_, build_ok_iff, ?_⟩
  · intro level place row first before
    have stopped := build_of_misfit level first
    have bound : place < matrix.rows.length := (List.getElem?_eq_some_iff.mp first.rowAt).1
    refine ⟨?_, ?_, ?_, ?_, ?_⟩
    · intro fault refused
      simp [run, stopped, blame, refused, before, rows]
    · intro sound answered
      simp [run, stopped, blame, answered, before, rows]
    · simp [run, stopped, rows]
    · simp only [run, stopped, List.length_map, List.length_take]
      omega
    · simp [run, stopped, rows]
  · intro level fits
    obtain ⟨sounds, size, answers, built⟩ := build_of_allFit level fits
    refine ⟨?_, ?_, ?_, sounds, size.trans level, answers, ?_⟩
    · simp [run, built, rows]
    · simpa [run, built] using level
    · simp [run, built, rows]
    · simp [run, built, rows]
  · intro table answered
    obtain ⟨level, fits⟩ := build_ok_iff.mp ⟨table, answered⟩
    obtain ⟨sounds, size, -, built⟩ := build_of_allFit level fits
    have made : table = ⟨Table.headingsOf result, rowsOf words rows sounds⟩ := by
      simpa [run, built, eq_comm] using answered
    subst made
    refine ⟨?_, fun cells member => length_of_mem_rowsOf fits member⟩
    simp [rowsOf, rows, size, level]

end SoundChange.TableBuilding
