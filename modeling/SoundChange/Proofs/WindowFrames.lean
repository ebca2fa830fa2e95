import SoundChange.Proofs.WindowRuns

/-! What each action of the window changes, and what it goes by. An action changes its own part of the
window and leaves every other part as it was, whether it succeeds or not; all actions but those of the
menu close the menu besides. Words are generated from the rules, the number and the choice that are
shown, and from nothing else that the window holds. -/
namespace SoundChange.WindowFrames
open ViewHistory WindowRuns Window

/-- The parts of a window. -/
inductive Part where
  | settingsFault
  | path
  | rules
  | rulesFault
  | wordCount
  | chosen
  | view
  | menu
  deriving DecidableEq

/-- Two windows that have a part in common. -/
def Same (window other : Window) : Part → Prop
  | .settingsFault => window.settingsFault = other.settingsFault
  | .path => window.path = other.path
  | .rules => window.rules = other.rules
  | .rulesFault => window.rulesFault = other.rulesFault
  | .wordCount => window.wordCount = other.wordCount
  | .chosen => window.chosen = other.chosen
  | .view => window.view = other.view
  | .menu => window.menuOpen = other.menuOpen

/-- The part that a field is. -/
def partOf : WindowField → Part
  | .path => .path
  | .rules => .rules
  | .wordCount => .wordCount

/-- The text in a field. -/
def fieldText (window : Window) : WindowField → String
  | .path => window.path
  | .rules => window.rules
  | .wordCount => window.wordCount

/-- The parts that an action may change. -/
def changes : WindowAction → List Part
  | .set field _ => [partOf field, .menu]
  | .choose _ => [.chosen, .menu]
  | .load => [.rules, .rulesFault, .menu]
  | .generate => [.view, .menu]
  | .clear => [.view]
  | .menu => [.menu]

variable {machine : Type} {window other : Window} {part : Part} {reader : Reader}
  {draws : Random.Draws}

theorem Same.refl (window : Window) (part : Part) : Same window window part := by
  cases part <;> rfl

theorem Same.trans {third : Window} (first : Same window other part)
    (second : Same other third part) : Same window third part := by
  cases part <;> exact Eq.trans first second

/-! One action. -/

/-- Loading a file that can be read puts its text into the editor. -/
theorem load_ok {text : String} (read : reader (Text.trimmed window.path) = .ok text) :
    window.load reader = { window with rulesFault := none, rules := text } := by
  rw [load, read]

/-- Loading a file that cannot be read only reports why, under the path as it was typed. -/
theorem load_error {fault : IoFault}
    (failed : reader (Text.trimmed window.path) = .error fault) :
    window.load reader =
      { window with
        rulesFault := some ("Failed to read " ++ window.path ++ ": " ++ fault.message) } := by
  rw [load, failed]

theorem same_load (outside : part ∉ changes .load) : Same (window.load reader) window part := by
  cases outcome : reader (Text.trimmed window.path) with
  | ok text =>
    rw [load_ok outcome]
    cases part <;> simp_all [Same, changes]
  | error fault =>
    rw [load_error outcome]
    cases part <;> simp_all [Same, changes]

theorem same_closeMenu (outside : part ≠ .menu) : Same window.closeMenu window part := by
  cases part <;> simp_all [Same, closeMenu]

theorem same_setField {field : WindowField} (text : String) (outside : part ≠ partOf field) :
    Same (window.setField field text) window part := by
  cases field <;> cases part <;> simp_all [Same, setField, partOf]

/-- An action leaves every part alone that is not its own. -/
theorem same_step (window : Window) {move : Move} (outside : part ∉ changes move.action) :
    Same (step window move) window part := by
  obtain ⟨reader, draws, action⟩ := move
  cases action with
  | set field text =>
    obtain ⟨elsewhere, kept⟩ : part ≠ partOf field ∧ part ≠ .menu := by
      simpa [changes] using outside
    exact (same_closeMenu kept).trans (same_setField text elsewhere)
  | choose repartition => cases part <;> simp_all [Same, changes, step, act, closeMenu]
  | load =>
    have kept : part ≠ .menu := by
      rintro rfl
      simp [changes] at outside
    exact (same_closeMenu kept).trans (same_load outside)
  | generate => cases part <;> simp_all [Same, changes, step, act, generate, closeMenu]
  | clear => cases part <;> simp_all [Same, changes, step, act]
  | menu => cases part <;> simp_all [Same, changes, step, act]

/-- What is generated is what the form shows on an empty view. -/
theorem view_generate (window : Window) (reader : Reader) (draws : Random.Draws) :
    (step window ⟨reader, draws, .generate⟩).view =
      (View.empty.submit (SoundSystem.engine draws) window.form).2 :=
  congrArg Prod.snd (submit_forgets window.view _ _)

/-- A click does what an action does, or it only closes the menu, if the window is there after it. -/
theorem click_stays {text : String} {next : Window}
    (clicked : window.click reader (SoundSystem.engine draws) text = .stays next) :
    next = window.closeMenu ∨ ∃ action, next = step window ⟨reader, draws, action⟩ := by
  rw [click] at clicked
  cases found : window.paints.find? (fun paint => paint.text == text) with
  | none => simp [found] at clicked
  | some paint =>
    cases controlled : paint.control with
    | none =>
      left
      simpa [found, controlled, eq_comm] using clicked
    | some control =>
      cases control with
      | exit => simp [found, controlled] at clicked
      | action action =>
        simp only [found, controlled] at clicked
        split at clicked
        · cases clicked
        · cases clicked
          exact .inr ⟨action, rfl⟩

/-! Runs. -/

/-- Moves leave every part alone that none of them changes. -/
theorem same_after {moves : List Move} (window : Window)
    (outside : ∀ move ∈ moves, part ∉ changes move.action) :
    Same (after window moves) window part := by
  induction moves generalizing window with
  | nil => exact .refl window part
  | cons move moves ih =>
    obtain ⟨first, later⟩ := List.forall_mem_cons.mp outside
    have rest : Same (after (step window move) moves) (step window move) part :=
      ih (step window move) later
    exact rest.trans (same_step window first)

/-- No action changes the report on the settings. -/
theorem settingsFault_notMem_changes (action : WindowAction) :
    Part.settingsFault ∉ changes action := by
  cases action with
  | set field text => cases field <;> simp [changes, partOf]
  | _ => simp [changes]

/-- Every action of the window, after any moves from the start. It leaves every part alone that is
not its own, so setting a field, picking a repartition or clearing the results changes that part and
at most the menu. Loading puts the text of the file at the trimmed path into the editor and takes the
report away, or it keeps the editor as it was and reports the path as it was typed. Generating shows
what any window with the same rules, number and choice would show with the same draws, whatever its
files, its reports and its earlier results are. Clicks do nothing but these actions, and the report on
the settings is the one that the window opened with. -/
theorem actions_keep_to_their_parts (host : Host (StateM machine)) (start : machine)
    (settingsFile : String) (reader : Reader) (moves : List Move) :
    let window := after (opened host start settingsFile reader) moves
    (∀ (move : Move) (part : Part), part ∉ changes move.action →
      Same (step window move) window part) ∧
    (∀ reader draws,
      let loaded := step window ⟨reader, draws, .load⟩
      (∀ text, reader (Text.trimmed window.path) = .ok text →
        loaded.rules = text ∧ loaded.rulesFault = none) ∧
      ∀ fault, reader (Text.trimmed window.path) = .error fault →
        loaded.rules = window.rules ∧ loaded.rulesFault =
          some ("Failed to read " ++ window.path ++ ": " ++ fault.message)) ∧
    (∀ (other : Window) (reader reader' : Reader) (draws : Random.Draws),
      other.rules = window.rules → other.wordCount = window.wordCount →
        other.chosen = window.chosen →
        (step other ⟨reader', draws, .generate⟩).view =
          (step window ⟨reader, draws, .generate⟩).view) ∧
    (∀ reader draws,
      (step window ⟨reader, draws, .clear⟩).view = .empty ∧
      (∀ repartition,
        (step window ⟨reader, draws, .choose repartition⟩).chosen = some repartition) ∧
      ∀ field text, fieldText (step window ⟨reader, draws, .set field text⟩) field = text) ∧
    (∀ reader draws text next,
      window.click reader (SoundSystem.engine draws) text = .stays next →
        next = window.closeMenu ∨ ∃ action, next = step window ⟨reader, draws, action⟩) ∧
    window.settingsFault = (opened host start settingsFile reader).settingsFault := by
  intro window
  refine ⟨fun move part => same_step window, ?_, ?_, ?_, ?_, ?_⟩
  · intro reader draws loaded
    have shown : loaded = (window.load reader).closeMenu := rfl
    constructor
    · intro text read
      rw [shown, load_ok read]
      exact ⟨rfl, rfl⟩
    · intro fault failed
      rw [shown, load_error failed]
      exact ⟨rfl, rfl⟩
  · intro other reader reader' draws rules count chosen
    have filled : other.form = window.form := by
      rw [form, form, rules, count, chosen]
    rw [view_generate, view_generate, filled]
  · intro reader draws
    refine ⟨rfl, fun repartition => rfl, ?_⟩
    intro field text
    cases field <;> rfl
  · intro reader draws text next
    exact click_stays
  · have kept : Same window (opened host start settingsFile reader) .settingsFault :=
      same_after _ fun move _ => settingsFault_notMem_changes move.action
    exact kept

end SoundChange.WindowFrames
