import SoundChange.Window
import SoundChange.Proofs.BatchRuns
import SoundChange.Proofs.FaultMessages
import SoundChange.Proofs.InventedWords
import SoundChange.Proofs.Sessions
import SoundChange.Proofs.ViewHistory

/-! Runs of the window. Whatever the settings and the files hold, whatever is typed, picked and
clicked, and whatever is drawn, the central panel shows one thing: the history table, a note that the
generation failed, or a hint. The note stands there exactly when the reason is seen in the side panel,
a choice of a repartition is never lost, and nothing but a choice that was never made is missing. -/
namespace SoundChange.WindowRuns
open BatchRuns FaultMessages Reconciliation Sequencing Sessions Tabulation Text Window

/-- An action of the user, with the rule files and the random draws that it meets. -/
structure Move where
  reader : Reader
  draws : Random.Draws
  action : WindowAction

variable {machine : Type}

/-- The window when it opens, on a machine of any kind. -/
def opened (host : Host (StateM machine)) (start : machine) (settingsFile : String)
    (reader : Reader) : Window :=
  .initial reader (Settings.load host settingsFile start).1

def step (window : Window) (move : Move) : Window :=
  window.act move.reader (SoundSystem.engine move.draws) move.action

/-- The window after moves, one after the other. -/
def after (window : Window) (moves : List Move) : Window :=
  moves.foldl step window

/-! What is seen. -/

def seen (paint : Paint) : Bool :=
  !paint.text.isEmpty

/-- The texts above the lines of a fault: the menu, and the side panel with nothing to report. -/
def controls (window : Window) : List Paint :=
  ([button "File" .menu] ++ { window with view := .empty }.sidePanel).filter seen

/-- The lines of the fault in the view, below the other texts of the side panel. -/
def faultLines (window : Window) : List Paint :=
  (window.view.faultLines.map (inert .red)).filter seen

/-- The texts of the central panel. -/
def central (window : Window) : List Paint :=
  (results window.view).filter seen

/-- What the central panel can be filled with. -/
inductive Content where
  | history
  | failure
  | hint

/-- What the end of a request fills it with. A request that the program stopped in reported nothing. -/
def contentOf : Except RequestFault Unit → Content
  | .ok () => .history
  | .error fault => if fault.stops then .hint else .failure

/-- The texts of the central panel are those of a history table, whose lists line up, or a single
note. -/
inductive Shows (window : Window) : Content → Prop
  | history {words : List Word} {result : Transformation} {sounds : List String}
      (aligned : Aligned words result)
      (painted : central window = (ofTable (assembled words result sounds)).filter seen) :
    Shows window .history
  | failure (painted : central window = [inert .plain failureNote]) : Shows window .failure
  | hint (painted : central window = [inert .plain initialHint]) : Shows window .hint

theorem paints_eq (window : Window) :
    window.paints = controls window ++ faultLines window ++
      [inert .plain "Transformation History"] ++ central window ++ window.menuItems := by
  have menu : window.menuItems.filter seen = window.menuItems := by
    rw [menuItems]
    split <;> decide
  have heading : [inert .plain "Transformation History"].filter seen =
      [inert .plain "Transformation History"] := by decide
  have panel : window.sidePanel = { window with view := .empty }.sidePanel ++
      window.view.faultLines.map (inert .red) := by
    simp [sidePanel, View.faultLines, View.empty]
  have shown : window.paints = List.filter seen ([button "File" .menu] ++ window.sidePanel ++
      [inert .plain "Transformation History"] ++ results window.view ++ window.menuItems) := rfl
  rw [shown, panel, ← List.append_assoc]
  simp only [List.filter_append, menu, heading, controls, faultLines, central]

/-- A history table starts with its first heading. -/
theorem painted_assembled (words : List Word) (result : Transformation) (sounds : List String) :
    ∃ others, (ofTable (assembled words result sounds)).filter seen =
      inert .strong Table.wordsHeading :: others := by
  have first : seen (inert .strong Table.wordsHeading) = true := by decide
  exact ⟨_, List.filter_cons_of_pos first⟩

/-- The central panel is never filled with two things. -/
theorem Shows.unique {window : Window} {content content' : Content} (shows : Shows window content)
    (shows' : Shows window content') : content = content' := by
  -- A table is told from a note by its first heading, which is painted in strong letters.
  have single {words : List Word} {result : Transformation} {sounds : List String} {text : String}
      (table : central window = (ofTable (assembled words result sounds)).filter seen) :
      central window ≠ [inert .plain text] := by
    obtain ⟨others, starts⟩ := painted_assembled words result sounds
    rw [table, starts]
    intro same
    cases same
  have notes : [inert .plain failureNote] ≠ [inert .plain initialHint] := by decide
  cases shows with
  | history _ table =>
    cases shows' with
    | history => rfl
    | failure painted => exact absurd painted (single table)
    | hint painted => exact absurd painted (single table)
  | failure painted =>
    cases shows' with
    | history _ table => exact absurd painted (single table)
    | failure => rfl
    | hint painted' => exact absurd (painted.symm.trans painted') notes
  | hint painted =>
    cases shows' with
    | history _ table => exact absurd painted (single table)
    | failure painted' => exact absurd (painted'.symm.trans painted) notes
    | hint => rfl

/-! Views. -/

/-- What a view holds: nothing, the table of lists that line up, or a message that can be seen. -/
inductive Holds : View → Content → Prop
  | hint : Holds ⟨none, none⟩ .hint
  | history {words : List Word} {result : Transformation} (sounds : List String)
      (aligned : Aligned words result) :
    Holds ⟨some (assembled words result sounds), none⟩ .history
  | failure {message : String} (legible : Legible message) :
    Holds ⟨none, some message⟩ .failure

/-- The lines of a message that can be seen are seen. -/
theorem faultLines_ne_nil {window : Window} {message : String}
    (reported : window.view.fault = some message) (legible : Legible message) :
    faultLines window ≠ [] := by
  obtain ⟨line, listed, inhabited⟩ := legible.line
  have among : line ∈ window.view.faultLines := by
    rw [View.faultLines, reported]
    exact listed
  have shown : seen (inert .red line) = true := by simpa [seen, inert] using inhabited
  exact List.ne_nil_of_mem (List.mem_filter.mpr ⟨List.mem_map_of_mem among, shown⟩)

/-- A view fills the central panel with what it holds, and this is the note of a failure exactly when
the side panel has lines of a fault. -/
theorem shows_of_holds {window : Window} {content : Content} (holds : Holds window.view content) :
    Shows window content ∧ (content = .failure ↔ faultLines window ≠ []) := by
  have silent (quiet : window.view.fault = none) : faultLines window = [] := by
    rw [faultLines, View.faultLines, quiet]
    rfl
  generalize view_eq : window.view = view at holds
  cases holds with
  | hint =>
    have painted : central window = [inert .plain initialHint] := by
      rw [central, view_eq]
      decide
    have quiet := silent (by rw [view_eq])
    exact ⟨.hint painted, by simp [quiet]⟩
  | @history words result sounds aligned =>
    have painted : central window = (ofTable (assembled words result sounds)).filter seen := by
      rw [central, view_eq]
      rfl
    have quiet := silent (by rw [view_eq])
    exact ⟨.history aligned painted, by simp [quiet]⟩
  | failure legible =>
    have note : seen (inert .plain failureNote) = true := by decide
    have painted : central window = [inert .plain failureNote] := by
      rw [central, view_eq]
      exact List.filter_cons_of_pos note
    have lines := faultLines_ne_nil (by rw [view_eq]) legible
    exact ⟨.failure painted, by simp [lines]⟩

/-- One content is all there is to see, and the failure is told from the others by its lines. -/
theorem shows_exactly {window : Window} {content : Content} (holds : Holds window.view content) :
    (∃! content, Shows window content) ∧ (Shows window .failure ↔ faultLines window ≠ []) := by
  obtain ⟨shows, told⟩ := shows_of_holds holds
  refine ⟨⟨content, shows, fun _ other => other.unique shows⟩, ?_⟩
  rw [← told]
  constructor
  · intro failure
    exact shows.unique failure
  · rintro rfl
    exact shows

/-! Submitting a form. -/

section Submission
variable {draws : Random.Draws} {form : Form}

/-- A form that is refused makes no run, and the run of a form never blames it. -/
theorem fault_of_form {fault : RequestFault}
    (failed : (View.runOfForm (SoundSystem.engine draws) form).answer = .error fault) :
    (∃ input, form.validate = .error input ∧ fault = .input input) ∨ Reported fault := by
  rw [View.runOfForm] at failed
  cases judged : form.validate with
  | error input =>
    rw [judged] at failed
    cases failed
    exact .inl ⟨input, rfl, rfl⟩
  | ok request =>
    rw [judged] at failed
    exact .inr (reported_of_runRequest (speaks_engine draws) failed)

/-- The table of a run is the history of lists that line up. -/
theorem history_of_form {generation : Generation}
    (made : (View.runOfForm (SoundSystem.engine draws) form).answer = .ok generation) :
    ∃ sounds, Aligned generation.words generation.result ∧
      generation.table = assembled generation.words generation.result sounds := by
  rw [View.runOfForm] at made
  cases judged : form.validate with
  | error input => rw [judged] at made; cases made
  | ok request =>
    rw [judged] at made
    obtain ⟨system, -, answered⟩ := answer_withSystem_ok made
    obtain ⟨words, -, answered⟩ := (answer_bind_ok_iff _ _ _ _).mp answered
    obtain ⟨result, -, finished⟩ := (answer_bind_ok_iff _ _ _ _).mp answered
    obtain ⟨table, tabulated, rfl⟩ := (answer_finish_ok_iff _ _ _ _ _).mp finished
    obtain ⟨aligned, sounds, -, same⟩ := (tabulate_ok_iff _ _ _).mp tabulated
    exact ⟨sounds, aligned, same⟩

/-- What a form leaves in the view goes by how its submission ends. -/
theorem holds_submit (view : View) :
    Holds (view.submit (SoundSystem.engine draws) form).2
      (contentOf (view.submit (SoundSystem.engine draws) form).1.answer) := by
  have shows := ViewHistory.submit_shows view (SoundSystem.engine draws) form
  rw [ViewHistory.submit_answer]
  cases outcome : (View.runOfForm (SoundSystem.engine draws) form).answer with
  | error fault =>
    have visible : Visible fault.message := by
      rcases fault_of_form outcome with ⟨input, -, rfl⟩ | reported
      · exact visible_some (legible_input input)
      · exact reported.visible
    have silent := ViewHistory.message_eq_none_iff fault
    rw [outcome] at shows
    rw [shows, Except.map, contentOf]
    cases said : fault.message with
    | none =>
      rw [if_pos (silent.mp said)]
      exact .hint
    | some message =>
      have goes_on : ¬ fault.stops = true := by simp [← silent, said]
      rw [if_neg goes_on]
      exact .failure (visible message said)
  | ok generation =>
    obtain ⟨sounds, aligned, same⟩ := history_of_form outcome
    rw [outcome] at shows
    rw [shows, same]
    exact .history sounds aligned

/-- A submission ends in an input fault exactly when its form has this fault. -/
theorem submit_input_iff (view : View) (input : InputFault) :
    (view.submit (SoundSystem.engine draws) form).1.answer = .error (.input input) ↔
      form.validate = .error input := by
  rw [ViewHistory.submit_answer]
  constructor
  · intro failed
    cases outcome : (View.runOfForm (SoundSystem.engine draws) form).answer with
    | ok generation => rw [outcome] at failed; cases failed
    | error fault =>
      rw [outcome] at failed
      cases failed
      rcases fault_of_form outcome with ⟨input', judged, same⟩ | reported
      · cases same
        exact judged
      · exact absurd rfl (reported.ne_input input)
  · intro judged
    rw [View.runOfForm, judged]
    rfl

end Submission

/-! The choice of a repartition. -/

/-- The repartition that an action picks. -/
def picked? : WindowAction → Option Repartition
  | .choose repartition => some repartition
  | _ => none

theorem ofLabel?_label (repartition : Repartition) :
    Repartition.ofLabel? repartition.label = some repartition := by
  cases repartition <;> decide

/-- A word count is refused for what it is, never for the repartition. -/
theorem fault_of_readWordCount {raw : String} {fault : InputFault}
    (refused : readWordCount raw = .error fault) :
    fault ≠ .missingRepartition ∧ ∀ label, fault ≠ .unknownRepartition label := by
  rw [readWordCount] at refused
  split at refused
  · cases refused
    simp
  · split at refused
    · cases refused
      simp
    · split at refused
      · cases refused
      · cases refused
        simp

/-- The form of a window has no other label than that of a repartition, and lacks one only where none
was chosen. -/
theorem validate_form (window : Window) :
    (∀ label, window.form.validate ≠ .error (.unknownRepartition label)) ∧
      (window.form.validate = .error .missingRepartition ↔
        (∃ count, readWordCount window.wordCount = .ok count) ∧ window.chosen = none) := by
  have words : window.form.wordCount = window.wordCount := rfl
  rw [Form.validate, words]
  cases counted : readWordCount window.wordCount with
  | error fault =>
    obtain ⟨notMissing, notUnknown⟩ := fault_of_readWordCount counted
    simp [notMissing, notUnknown]
  | ok count =>
    cases chosen : window.chosen with
    | none =>
      have missing : window.form.chosenRepartition = .error .missingRepartition := by
        simp [Form.chosenRepartition, form, chosen]
      simp [missing]
    | some repartition =>
      have known : window.form.chosenRepartition = .ok repartition := by
        simp [Form.chosenRepartition, form, chosen, ofLabel?_label]
      simp [known]

/-- Settings with the label of a repartition, or with an empty one. -/
def Labelled (settings : Settings) : Prop :=
  settings.repartition = some "" ∨ ∃ repartition : Repartition,
    settings.repartition = some repartition.label

theorem labelled_builtIn : Labelled .builtIn := .inr ⟨.lessFrequent, rfl⟩

/-- Some label is always given, by the text or else by the built-in settings. -/
theorem exists_label {entries : List (String × Toml.Value)} {settings : Settings}
    (given : Settings.ofEntries? entries = some settings) :
    ∃ label, settings.repartition = some label := by
  simp only [Settings.ofEntries?, Option.bind_eq_bind, Option.bind_eq_some_iff,
    Option.pure_def, Option.some.injEq] at given
  obtain ⟨fields, -, count, -, repartition, taken, file, -, window, -, width, -, height, -, rfl⟩ :=
    given
  rw [Toml.optional?] at taken
  split at taken
  · obtain ⟨label, -, same⟩ := Option.map_eq_some_iff.mp taken
    exact ⟨label, same.symm⟩
  · exact ⟨_, (Option.some.inj taken).symm⟩

/-- A document that is read has the shape that was asked for. -/
theorem shape_of_read {α : Type} {shape? : List (String × Toml.Value) → Option α} {text : String}
    {value : α} (read : Toml.read shape? text = .ok value) :
    ∃ entries, shape? entries = some value := by
  rw [Toml.read] at read
  cases parsed : Toml.parse? text with
  | none => rw [parsed] at read; cases read
  | some entries =>
    simp only [parsed] at read
    cases shaped : shape? entries with
    | none => rw [shaped] at read; cases read
    | some found =>
      rw [shaped] at read
      cases read
      exact ⟨entries, shaped⟩

theorem labelled_ofText {path text : String} {settings : Settings}
    (accepted : Settings.ofText path text = .ok settings) : Labelled settings := by
  rw [Settings.ofText] at accepted
  cases read : Toml.read Settings.ofEntries? text with
  | error fault => rw [read] at accepted; cases accepted
  | ok found =>
    simp only [read] at accepted
    cases unknown : found.unknownLabel? with
    | some label => rw [unknown] at accepted; cases accepted
    | none =>
      rw [unknown] at accepted
      cases accepted
      obtain ⟨entries, given⟩ := shape_of_read read
      obtain ⟨label, labelled⟩ := exists_label given
      rw [Settings.unknownLabel?, labelled] at unknown
      by_cases empty : label = ""
      · subst empty
        exact .inl labelled
      · have known : Repartition.ofLabel? label ≠ none := by simpa [empty] using unknown
        obtain ⟨repartition, found⟩ := Option.ne_none_iff_exists'.mp known
        have same : repartition.label = label := by simpa using List.find?_some found
        exact .inr ⟨repartition, same ▸ labelled⟩

/-- Settings that are loaded have a label; those that are missing or invalid are replaced. -/
theorem labelled_load (host : Host (StateM machine)) (start : machine) (path : String) :
    Labelled ((Settings.load host path start).1.toOption.getD Settings.builtIn) := by
  rw [Settings.load, run_bind]
  rcases (host.readText path start).1 with fault | text
  · cases fault <;> exact labelled_builtIn
  · change Labelled ((Settings.ofText path text).toOption.getD Settings.builtIn)
    cases accepted : Settings.ofText path text with
    | error fault => exact labelled_builtIn
    | ok settings => exact labelled_ofText accepted

/-- Of settings with a label none is chosen only by the empty one. -/
theorem Labelled.chosen_none_iff {settings : Settings} (labelled : Labelled settings) :
    settings.chosenRepartition = none ↔ settings.repartition = some "" := by
  rcases labelled with empty | ⟨repartition, named⟩
  · have unknown : Repartition.ofLabel? "" = none := by decide
    simp [Settings.chosenRepartition, empty, unknown]
  · have inhabited : repartition.label ≠ "" := by cases repartition <;> decide
    simp [Settings.chosenRepartition, named, ofLabel?_label, inhabited]

/-! Moves. -/

theorem load_keeps (reader : Reader) (window : Window) :
    (window.load reader).view = window.view ∧ (window.load reader).chosen = window.chosen := by
  rw [load]
  cases reader (trimmed window.path) <;> exact ⟨rfl, rfl⟩

/-- A window opens with nothing to show, and with the choice of its settings. -/
theorem initial_keeps (reader : Reader) (loaded : Except SettingsFault Settings) :
    (Window.initial reader loaded).view = .empty ∧
      (Window.initial reader loaded).chosen =
        (loaded.toOption.getD Settings.builtIn).chosenRepartition := by
  simp only [Window.initial]
  cases (loaded.toOption.getD Settings.builtIn).rulesFile with
  | none => exact ⟨rfl, rfl⟩
  | some path => exact load_keeps _ _

/-- Words asked for are those of the form as it is filled in. -/
theorem answer_generate {system : Type} (engine : Engine system) (window : Window) :
    (window.generate engine).1.answer =
      (View.runOfForm engine window.form).answer.map fun _ => () :=
  ViewHistory.submit_answer window.view engine window.form

/-- Words asked for leave in the view what the request ends in. -/
theorem holds_generate (window : Window) (reader : Reader) (draws : Random.Draws) :
    Holds (step window ⟨reader, draws, .generate⟩).view
      (contentOf (window.generate (SoundSystem.engine draws)).1.answer) :=
  holds_submit window.view

/-- A move leaves one thing in the view, or nothing. -/
theorem holds_step {window : Window} {content : Content} (holds : Holds window.view content)
    (move : Move) : ∃ content, Holds (step window move).view content := by
  obtain ⟨reader, draws, action⟩ := move
  cases action with
  | set field text => cases field <;> exact ⟨content, holds⟩
  | choose repartition => exact ⟨content, holds⟩
  | load =>
    have kept : (step window ⟨reader, draws, .load⟩).view = window.view :=
      (load_keeps reader window).1
    rw [kept]
    exact ⟨content, holds⟩
  | generate => exact ⟨_, holds_generate window reader draws⟩
  | clear => exact ⟨_, .hint⟩
  | menu => exact ⟨content, holds⟩

/-- A move keeps the choice, unless it makes another one. -/
theorem chosen_step (window : Window) (move : Move) :
    (step window move).chosen = (picked? move.action).or window.chosen := by
  obtain ⟨reader, draws, action⟩ := move
  cases action with
  | set field text => cases field <;> rfl
  | load => exact (load_keeps reader window).2
  | choose repartition => rfl
  | generate => rfl
  | clear => rfl
  | menu => rfl

theorem holds_after {window : Window} {content : Content} (holds : Holds window.view content)
    (moves : List Move) : ∃ content, Holds (after window moves).view content := by
  induction moves generalizing window content with
  | nil => exact ⟨content, holds⟩
  | cons move moves ih =>
    obtain ⟨next, kept⟩ := holds_step holds move
    exact ih kept

/-- No choice is there only where none was there before and no move has made one. -/
theorem chosen_after_none_iff (window : Window) (moves : List Move) :
    (after window moves).chosen = none ↔
      window.chosen = none ∧ ∀ move ∈ moves, picked? move.action = none := by
  induction moves generalizing window with
  | nil => simp [after]
  | cons move moves ih =>
    have first : after window (move :: moves) = after (step window move) moves := rfl
    rw [first, ih, chosen_step, Option.or_eq_none_iff, List.forall_mem_cons]
    tauto

/-- From the start, with any settings, and after any moves, the window paints its controls, the lines
of its fault, the heading and the content of the central panel, which is a history table, the note of
a failure or the hint, never two of them. The note is painted exactly when lines of a fault are. A
move changes the choice of a repartition only by making another one, so a choice is never lost.
Generating from here runs the form as it is filled in, and fills the panel by how the run ends: with
its table, or with the note of its fault. It never ends in an unknown repartition, and in a missing one
only if the number of words is in order, the label in the settings is empty and no move has made a
choice. -/
theorem window_shows_one_content (host : Host (StateM machine)) (start : machine)
    (settingsFile : String) (reader : Reader) (moves : List Move) :
    let window := after (opened host start settingsFile reader) moves
    let settings := (Settings.load host settingsFile start).1.toOption.getD Settings.builtIn
    window.paints = controls window ++ faultLines window ++
        [inert .plain "Transformation History"] ++ central window ++ window.menuItems ∧
      (∃! content, Shows window content) ∧
      (Shows window .failure ↔ faultLines window ≠ []) ∧
      (∀ move, (step window move).chosen = (picked? move.action).or window.chosen) ∧
      (∀ later, window.chosen ≠ none → (after window later).chosen ≠ none) ∧
      ∀ reader draws,
        let outcome := (window.generate (SoundSystem.engine draws)).1.answer
        let shown := step window ⟨reader, draws, .generate⟩
        outcome = (View.runOfForm (SoundSystem.engine draws) window.form).answer.map (fun _ => ()) ∧
        Shows shown (contentOf outcome) ∧
        (∀ fault, outcome = .error fault → shown.view.fault = fault.message) ∧
        (∀ label, outcome ≠ .error (.input (.unknownRepartition label))) ∧
        (outcome = .error (.input .missingRepartition) ↔
          (∃ count, readWordCount window.wordCount = .ok count) ∧
            settings.repartition = some "" ∧ ∀ move ∈ moves, picked? move.action = none) := by
  intro window settings
  obtain ⟨blank, configured⟩ := initial_keeps reader (Settings.load host settingsFile start).1
  obtain ⟨content, holds⟩ : ∃ content, Holds window.view content := by
    apply holds_after
    rw [opened, blank]
    exact .hint
  obtain ⟨one, told⟩ := shows_exactly holds
  refine ⟨paints_eq window, one, told, chosen_step window, ?_, ?_⟩
  · intro later chosen lost
    exact chosen ((chosen_after_none_iff window later).mp lost).1
  · intro reader draws outcome shown
    obtain ⟨neverUnknown, missing_iff⟩ := validate_form window
    have unchosen : window.chosen = none ↔
        settings.repartition = some "" ∧ ∀ move ∈ moves, picked? move.action = none := by
      rw [chosen_after_none_iff, opened, configured,
        (labelled_load host start settingsFile).chosen_none_iff]
    refine ⟨answer_generate _ window, (shows_of_holds (holds_generate window reader draws)).1,
      ?_, ?_, ?_⟩
    · exact fun fault => ViewHistory.fault_of_submit window.view _ _
    · intro label failed
      exact neverUnknown label ((submit_input_iff window.view _).mp failed)
    · rw [← unchosen, ← missing_iff]
      exact submit_input_iff window.view .missingRepartition

/-- A machine with settings that pick no repartition. -/
def undecided : World :=
  { files := Files.empty.put ["config.toml"]
      (.file (Text.Utf8.encode "[defaults]\nrepartition = \"\"\n".toList))
    input := [], output := "", seed := 0 }

/-- A user with the small rule file, whose words are invented from the same draws every time. -/
def small (action : WindowAction) : Move :=
  ⟨fun _ => .ok RuleFiles.voicedText, InventedWords.firstDraws, action⟩

/-- Whatever was there before, the small file gives a word when it is loaded, one word is asked for
and a repartition is picked. -/
theorem generate_of_small (window : Window) :
    let filled := after window [small .load, small (.set .wordCount "1"), small (.choose .always)]
    (filled.generate (SoundSystem.engine InventedWords.firstDraws)).1.answer = .ok () := by
  intro filled
  obtain ⟨generation, made⟩ := InventedWords.runRequest_voicedText
  have valid : filled.form.validate = .ok ⟨RuleFiles.voicedText, 1, .always⟩ := by
    have form : filled.form = ⟨RuleFiles.voicedText, "1", some Repartition.always.label⟩ := rfl
    rw [form]
    decide +kernel
  rw [answer_generate, View.runOfForm, valid]
  simp only [made]
  rfl

/-- Generating at once misses the choice, and is refused. Generating again leaves a history, once
rules are loaded, one word is asked for and a repartition is picked. -/
theorem choice_missed_and_made :
    ∃ window, window = opened World.host undecided "config.toml" (small .load).reader ∧
      let refused := step window (small .generate)
      let filled := after refused
        [small .load, small (.set .wordCount "1"), small (.choose .always)]
      Shows refused .failure ∧
        faultLines refused = [inert .red "Select a monosyllable repartition"] ∧
        (filled.generate (SoundSystem.engine InventedWords.firstDraws)).1.answer = .ok () ∧
        Shows (step filled (small .generate)) .history := by
  have unlabelled : ((Settings.load World.host "config.toml" undecided).1.toOption.getD
      Settings.builtIn).repartition = some "" := by decide +kernel
  have counted : readWordCount (opened World.host undecided "config.toml"
      (small .load).reader).wordCount = .ok 10 := by decide +kernel
  have first :=
    window_shows_one_content World.host undecided "config.toml" (small .load).reader []
  have later :=
    window_shows_one_content World.host undecided "config.toml" (small .load).reader
      [small .generate, small .load, small (.set .wordCount "1"), small (.choose .always)]
  -- How the window came to be is known by now, and is not unfolded again.
  obtain ⟨window, opens⟩ : ∃ window,
      window = opened World.host undecided "config.toml" (small .load).reader := ⟨_, rfl⟩
  rw [← opens] at counted first later
  refine ⟨window, opens, ?_⟩
  clear opens
  obtain ⟨-, -, -, -, -, first⟩ := first
  obtain ⟨-, -, -, -, -, later⟩ := later
  obtain ⟨-, shown, said, -, missing⟩ := first (small .load).reader InventedWords.firstDraws
  obtain ⟨-, made, -⟩ := later (small .load).reader InventedWords.firstDraws
  have missed := missing.mpr ⟨⟨10, counted⟩, unlabelled, by simp⟩
  have succeeds := generate_of_small (step window (small .generate))
  have unrolled (moves : List Move) :
      after window (small .generate :: moves) = after (step window (small .generate)) moves := rfl
  rw [missed] at shown
  rw [unrolled, succeeds] at made
  refine ⟨shown, ?_, succeeds, made⟩
  have lines : (step window (small .generate)).view.fault =
      some "Select a monosyllable repartition" := said _ missed
  rw [faultLines, View.faultLines, lines]
  decide

end SoundChange.WindowRuns
