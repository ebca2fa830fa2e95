import SoundChange.Proofs.SettingsGate

/-! What settings a document gives. Each of the five settings is what the document has under its key, and
otherwise what is built in; nothing else in the document has a part in it. The label of the repartition
is checked when the settings are read, and the repartition that is picked later is the one it names. -/
namespace SoundChange.SettingsOverlay
open BatchRuns SettingsGate WindowRuns

/-- The sides of the window. -/
inductive Side where
  | width
  | height
  deriving DecidableEq, Repr

/-- The settings that a document may give. -/
inductive Setting where
  | wordCount
  | repartition
  | rulesFile
  | size (side : Side)
  deriving DecidableEq, Repr

namespace Setting

/-- The table that holds a setting. -/
def table : Setting → String
  | wordCount | repartition | rulesFile => "defaults"
  | size _ => "window"

/-- The keys of that table, in order. -/
def keys : Setting → List String
  | wordCount | repartition | rulesFile => ["word_count", "repartition", "rules_file"]
  | size _ => ["width", "height"]

def key : Setting → String
  | wordCount => "word_count"
  | repartition => "repartition"
  | rulesFile => "rules_file"
  | size .width => "width"
  | size .height => "height"

def Value : Setting → Type
  | wordCount => Nat
  | repartition | rulesFile => Option String
  | size _ => Float32

end Setting

/-- The value that settings have for a setting. -/
def valueIn (settings : Settings) : (setting : Setting) → setting.Value
  | .wordCount => settings.wordCount
  | .repartition => settings.repartition
  | .rulesFile => settings.rulesFile
  | .size .width => settings.width
  | .size .height => settings.height

/-- A value of the right type for a setting, and what it means there. Numbers are taken in thirty-two
bits for a size. -/
inductive Means : (setting : Setting) → Toml.Value → setting.Value → Prop
  | wordCount (n : Nat) : Means .wordCount (.integer n) n
  | repartition (label : String) : Means .repartition (.text label) (some label)
  | rulesFile (path : String) : Means .rulesFile (.text path) (some path)
  | real (side : Side) (x : Float) : Means (.size side) (.real x) x.toFloat32
  | whole (side : Side) (n : Int) : Means (.size side) (.integer n) (Number.singleOfInt n)

/-- The values that a part of a document may be: a table, or a list of its values in the order of its
keys. A date passes for a table without any of them. -/
inductive Tabular : Toml.Value → Prop
  | table (entries : List (String × Toml.Value)) : Tabular (.table entries)
  | list (items : List Toml.Value) : Tabular (.list items)
  | date (stamp : String) : Tabular (.date stamp)

/-- The entries of a part of a document. -/
def entriesOf (keys : List String) : Toml.Value → List (String × Toml.Value)
  | .table entries => entries
  | .list items => keys.zip items
  | _ => []

/-- The value that a document has under the key of a setting. -/
def given? (entries : List (String × Toml.Value)) (setting : Setting) : Option Toml.Value :=
  (Dictionary.lookup setting.table entries).bind fun part =>
    Dictionary.lookup setting.key (entriesOf setting.keys part)

/-- A document in which what concerns the settings has the right types. -/
structure Typed (entries : List (String × Toml.Value)) : Prop where
  parts : ∀ setting : Setting, ∀ part, Dictionary.lookup setting.table entries = some part →
    Tabular part
  values : ∀ setting value, given? entries setting = some value → ∃ meant, Means setting value meant

/-- The value of a setting is what the document has under its key, or else what is built in. -/
structure Overlaid (entries : List (String × Toml.Value)) (setting : Setting)
    (value : setting.Value) : Prop where
  present : ∀ written, given? entries setting = some written → Means setting written value
  absent : given? entries setting = none → value = valueIn .builtIn setting

/-! What is read. -/

section Reading
variable {entries fields : List (String × Toml.Value)} {setting : Setting}

/-- How the value of a setting is taken apart. -/
def reader : (setting : Setting) → Toml.Value → Option setting.Value
  | .wordCount => Toml.Value.natural?
  | .repartition | .rulesFile => fun v => v.text?.map some
  | .size _ => Toml.Value.single?

theorem natural?_eq_some_iff {v : Toml.Value} {n : Nat} : v.natural? = some n ↔ v = .integer n := by
  constructor
  · intro read
    cases v with
    | integer m =>
      rw [Toml.Value.natural?] at read
      split at read
      · rename_i whole
        cases read
        rw [Int.toNat_of_nonneg whole]
      · cases read
    | _ => cases read
  · rintro rfl
    simp [Toml.Value.natural?]

/-- A value is read for a setting exactly if it means something for it. -/
theorem reader_eq_some_iff {v : Toml.Value} {value : setting.Value} :
    reader setting v = some value ↔ Means setting v value := by
  constructor
  · intro read
    cases setting with
    | wordCount =>
      cases natural?_eq_some_iff.mp read
      exact .wordCount value
    | repartition =>
      cases v with
      | text s => cases read; exact .repartition s
      | _ => cases read
    | rulesFile =>
      cases v with
      | text s => cases read; exact .rulesFile s
      | _ => cases read
    | size side =>
      cases v with
      | integer n => cases read; exact .whole side n
      | real x => cases read; exact .real side x
      | _ => cases read
  · intro means
    cases means with
    | wordCount n => exact natural?_eq_some_iff.mpr rfl
    | _ => rfl

/-- A value means one thing for a setting. -/
theorem Means.unique {v : Toml.Value} {value value' : setting.Value} (means : Means setting v value)
    (means' : Means setting v value') : value = value' := by
  cases means <;> cases means' <;> rfl

/-- The parts that can be read as records are the tabular ones. -/
theorem fields?_isSome_iff (names : List String) (part : Toml.Value) :
    (part.fields? names).isSome = true ↔ Tabular part := by
  constructor
  · intro read
    cases part with
    | table entries => exact .table entries
    | list items => exact .list items
    | date stamp => exact .date stamp
    | _ => cases read
  · rintro ⟨⟩ <;> rfl

theorem lookup_fields? {names : List String} {part : Toml.Value} {key : String}
    (read : part.fields? names = some fields) (other : key ≠ Toml.dateKey) :
    Dictionary.lookup key fields = Dictionary.lookup key (entriesOf names part) := by
  cases part with
  | table entries => cases read; rfl
  | list items => cases read; rfl
  | date stamp =>
    cases read
    exact if_neg other.symm
  | _ => cases read

theorem key_ne_dateKey (setting : Setting) : setting.key ≠ Toml.dateKey := by
  cases setting with
  | size side => cases side <;> decide
  | _ => decide

/-- The part of a document that holds a setting can be read exactly if it is missing or tabular. -/
theorem exists_part_iff :
    (∃ fields, Settings.part? setting.keys setting.table entries = some fields) ↔
      ∀ part, Dictionary.lookup setting.table entries = some part → Tabular part := by
  rw [Settings.part?, Toml.optional?]
  cases Dictionary.lookup setting.table entries with
  | none => simp
  | some part => simp [← fields?_isSome_iff setting.keys, Option.isSome_iff_exists]

/-- What stands under the key of a setting, in the part that was read, is what the document gives. -/
theorem lookup_part (read : Settings.part? setting.keys setting.table entries = some fields) :
    Dictionary.lookup setting.key fields = given? entries setting := by
  rw [Settings.part?, Toml.optional?] at read
  rw [given?]
  cases found : Dictionary.lookup setting.table entries with
  | none =>
    rw [found] at read
    cases read
    rfl
  | some part =>
    rw [found] at read
    exact lookup_fields? read (key_ne_dateKey setting)

/-- In a part that can be read, the value that is taken for a setting is the overlaid one. -/
theorem taken_iff (setting : Setting) {value : setting.Value}
    (read : Settings.part? setting.keys setting.table entries = some fields) :
    Toml.optional? (reader setting) (valueIn .builtIn setting) setting.key fields = some value ↔
      Overlaid entries setting value := by
  rw [Toml.optional?, lookup_part read]
  cases given : given? entries setting with
  | none =>
    constructor
    · intro same
      cases same
      exact ⟨fun _ written => by simp [given] at written, fun _ => rfl⟩
    · exact fun overlaid => congrArg some (overlaid.absent given).symm
  | some v =>
    rw [reader_eq_some_iff]
    constructor
    · refine fun means => ⟨fun written same => ?_, fun none => ?_⟩
      · rw [given] at same
        cases same
        exact means
      · simp [given] at none
    · exact fun overlaid => overlaid.present v given

end Reading

/-! Whole documents. -/

section Documents
variable {entries : List (String × Toml.Value)} {settings : Settings}

/-- A document gives settings if its parts can be read, and then it gives each of them by itself. -/
theorem ofEntries?_eq_some_iff :
    Settings.ofEntries? entries = some settings ↔
      (∀ setting : Setting, ∀ part, Dictionary.lookup setting.table entries = some part →
        Tabular part) ∧
      ∀ setting, Overlaid entries setting (valueIn settings setting) := by
  constructor
  · intro read
    simp only [Settings.ofEntries?, Option.bind_eq_bind, Option.bind_eq_some_iff, Option.pure_def,
      Option.some.injEq] at read
    obtain ⟨defaults, inDefaults, count, counted, label, labelled, path, named, window, inWindow,
      width, wide, height, high, rfl⟩ := read
    constructor
    · intro setting
      cases setting with
      | size side => exact exists_part_iff.mp ⟨window, inWindow⟩
      | _ => exact exists_part_iff.mp ⟨defaults, inDefaults⟩
    · intro setting
      cases setting with
      | wordCount => exact (taken_iff .wordCount inDefaults).mp counted
      | repartition => exact (taken_iff .repartition inDefaults).mp labelled
      | rulesFile => exact (taken_iff .rulesFile inDefaults).mp named
      | size side =>
        cases side with
        | width => exact (taken_iff (.size .width) inWindow).mp wide
        | height => exact (taken_iff (.size .height) inWindow).mp high
  · rintro ⟨tabular, overlaid⟩
    obtain ⟨defaults, inDefaults⟩ := exists_part_iff.mpr (tabular .wordCount)
    obtain ⟨window, inWindow⟩ := exists_part_iff.mpr (tabular (.size .width))
    have counted := (taken_iff .wordCount inDefaults).mpr (overlaid .wordCount)
    have labelled := (taken_iff .repartition inDefaults).mpr (overlaid .repartition)
    have named := (taken_iff .rulesFile inDefaults).mpr (overlaid .rulesFile)
    have wide := (taken_iff (.size .width) inWindow).mpr (overlaid (.size .width))
    have high := (taken_iff (.size .height) inWindow).mpr (overlaid (.size .height))
    simp only [Settings.ofEntries?, Option.bind_eq_bind, Option.bind_eq_some_iff, Option.pure_def,
      Option.some.injEq]
    exact ⟨defaults, inDefaults, _, counted, _, labelled, _, named, window, inWindow, _, wide, _, high,
      rfl⟩

theorem exists_overlaid (typed : Typed entries) (setting : Setting) :
    ∃ value, Overlaid entries setting value := by
  cases given : given? entries setting with
  | none => exact ⟨valueIn .builtIn setting, fun _ written => by simp [given] at written, fun _ => rfl⟩
  | some v =>
    obtain ⟨meant, means⟩ := typed.values setting v given
    refine ⟨meant, fun written same => ?_, fun none => by simp [given] at none⟩
    rw [given] at same
    cases same
    exact means

/-- What a setting comes to depends on nothing but the value under its key. -/
theorem Overlaid.unique {entries' : List (String × Toml.Value)} {setting : Setting}
    {value value' : setting.Value} (overlaid : Overlaid entries setting value)
    (overlaid' : Overlaid entries' setting value')
    (same : given? entries setting = given? entries' setting) : value = value' := by
  cases given : given? entries' setting with
  | none => rw [overlaid.absent (same.trans given), overlaid'.absent given]
  | some v => exact (overlaid.present v (same.trans given)).unique (overlaid'.present v given)

/-- Documents of the right types give settings, and others do not. -/
theorem typed_iff : Typed entries ↔ ∃ settings, Settings.ofEntries? entries = some settings := by
  constructor
  · intro typed
    choose value overlaid using exists_overlaid typed
    refine ⟨⟨value .wordCount, value .repartition, value .rulesFile, value (.size .width),
      value (.size .height)⟩, ofEntries?_eq_some_iff.mpr ⟨typed.parts, fun setting => ?_⟩⟩
    cases setting with
    | size side => cases side <;> exact overlaid _
    | _ => exact overlaid _
  · rintro ⟨settings, read⟩
    obtain ⟨tabular, overlaid⟩ := ofEntries?_eq_some_iff.mp read
    exact ⟨tabular, fun setting value given => ⟨_, (overlaid setting).present value given⟩⟩

end Documents

/-! Texts. -/

section Texts
variable {entries : List (String × Toml.Value)} {settings : Settings} {path text : String}

theorem ofText_of_known (parsed : Toml.parse? text = some entries)
    (read : Settings.ofEntries? entries = some settings) (known : settings.unknownLabel? = none) :
    Settings.ofText path text = .ok settings := by
  simp only [Settings.ofText, Toml.read, parsed, read, known]

theorem ofText_of_unknown {label : String} (parsed : Toml.parse? text = some entries)
    (read : Settings.ofEntries? entries = some settings)
    (unknown : settings.unknownLabel? = some label) :
    Settings.ofText path text = .error (.unknownRepartition path label) := by
  simp only [Settings.ofText, Toml.read, parsed, read, unknown]

/-- A document of the wrong types is a fault of the file, not of one setting. -/
theorem ofText_of_mistyped (parsed : Toml.parse? text = some entries) (mistyped : ¬ Typed entries) :
    Settings.ofText path text = .error (.parse path .mistyped) := by
  have unread : Settings.ofEntries? entries = none := by
    rw [Option.eq_none_iff_forall_ne_some]
    exact fun settings read => mistyped (typed_iff.mpr ⟨settings, read⟩)
  simp only [Settings.ofText, Toml.read, parsed, unread]

theorem ofText_unknown_iff (parsed : Toml.parse? text = some entries)
    (read : Settings.ofEntries? entries = some settings) (label : String) :
    Settings.ofText path text = .error (.unknownRepartition path label) ↔
      settings.repartition = some label ∧ label ≠ "" ∧
        ∀ repartition : Repartition, repartition.label ≠ label := by
  rw [← unknownLabel?_some_iff]
  cases unknown : settings.unknownLabel? with
  | none => simp [ofText_of_known parsed read unknown]
  | some other => simp [ofText_of_unknown parsed read unknown]

theorem ofText_ok_iff (parsed : Toml.parse? text = some entries)
    (read : Settings.ofEntries? entries = some settings) :
    Settings.ofText path text = .ok settings ↔ Labelled settings := by
  constructor
  · exact labelled_ofText
  · intro labelled
    have known : settings.unknownLabel? = none := by
      rw [Option.eq_none_iff_forall_ne_some]
      intro label unknown
      obtain ⟨given, inhabited, nobody⟩ := (unknownLabel?_some_iff _ _).mp unknown
      rcases labelled with empty | ⟨repartition, named⟩
      · exact inhabited (Option.some.inj (given.symm.trans empty))
      · exact nobody repartition (Option.some.inj (named.symm.trans given))
    exact ofText_of_known parsed read known

theorem overlaid_of_accepted (parsed : Toml.parse? text = some entries)
    (accepted : Settings.ofText path text = .ok settings) (setting : Setting) :
    Overlaid entries setting (valueIn settings setting) := by
  by_cases typed : Typed entries
  · obtain ⟨found, read⟩ := typed_iff.mp typed
    cases unknown : found.unknownLabel? with
    | some label => rw [ofText_of_unknown parsed read unknown] at accepted; cases accepted
    | none =>
      rw [ofText_of_known parsed read unknown] at accepted
      cases accepted
      exact (ofEntries?_eq_some_iff.mp read).2 setting
  · rw [ofText_of_mistyped parsed typed] at accepted
    cases accepted

/-- A repartition is picked at first exactly by its label. -/
theorem chosen_some_iff (settings : Settings) (repartition : Repartition) :
    settings.chosenRepartition = some repartition ↔
      settings.repartition = some repartition.label := by
  rw [Settings.chosenRepartition, Option.bind_eq_some_iff]
  constructor
  · rintro ⟨label, given, found⟩
    have same : repartition.label = label := by simpa using List.find?_some found
    rw [same, given]
  · exact fun named => ⟨_, named, ofLabel?_label repartition⟩

theorem load_of_missing {machine : Type} (host : Host (StateM machine)) (start : machine)
    (path : String) (missing : (host.readText path start).1 = .error .notFound) :
    (Settings.load host path start).1 = Settings.ofText path "" := by
  have empty : Settings.ofText path "" = .ok .builtIn := rfl
  rw [Settings.load, run_bind, missing, empty]
  rfl

end Texts

/-- A document of the wrong types gives no settings. One of the right types gives each setting the value
that is under its key, and the built-in one where there is none, so that documents which agree about one
setting agree on its value whatever else they hold. The settings are refused exactly for a label that is
neither empty nor one of the six, and every setting is as the document says otherwise. Of accepted
settings no repartition is picked exactly if the label is empty, and otherwise the one with the label.
A missing file gives what the empty text gives. -/
theorem settings_overlay_builtIn {machine : Type} (host : Host (StateM machine)) (path : String) :
    (∀ text entries, Toml.parse? text = some entries →
      (¬ Typed entries → Settings.ofText path text = .error (.parse path .mistyped)) ∧
      (Typed entries → ∃ settings : Settings,
        (∀ setting, Overlaid entries setting (valueIn settings setting)) ∧
        (∀ label, Settings.ofText path text = .error (.unknownRepartition path label) ↔
          settings.repartition = some label ∧ label ≠ "" ∧
            ∀ repartition : Repartition, repartition.label ≠ label) ∧
        (Settings.ofText path text = .ok settings ↔
          settings.repartition = some "" ∨
            ∃ repartition : Repartition, settings.repartition = some repartition.label))) ∧
    (∀ text text' entries entries' settings settings', Toml.parse? text = some entries →
      Toml.parse? text' = some entries' → Settings.ofText path text = .ok settings →
      Settings.ofText path text' = .ok settings' →
      ∀ setting, given? entries setting = given? entries' setting →
        valueIn settings setting = valueIn settings' setting) ∧
    (∀ text settings, Settings.ofText path text = .ok settings →
      (settings.chosenRepartition = none ↔ settings.repartition = some "") ∧
      ∀ repartition, settings.chosenRepartition = some repartition ↔
        settings.repartition = some repartition.label) ∧
    ∀ start, (host.readText path start).1 = .error .notFound →
      (Settings.load host path start).1 = Settings.ofText path "" := by
  refine ⟨?_, ?_, ?_, ?_⟩
  · intro text entries parsed
    refine ⟨ofText_of_mistyped parsed, fun typed => ?_⟩
    obtain ⟨settings, read⟩ := typed_iff.mp typed
    exact ⟨settings, (ofEntries?_eq_some_iff.mp read).2, ofText_unknown_iff parsed read,
      ofText_ok_iff parsed read⟩
  · intro text text' entries entries' settings settings' parsed parsed' accepted accepted' setting same
    have overlaid := overlaid_of_accepted parsed accepted setting
    exact overlaid.unique (overlaid_of_accepted parsed' accepted' setting) same
  · intro text settings accepted
    exact ⟨(labelled_ofText accepted).chosen_none_iff, chosen_some_iff settings⟩
  · exact fun start => load_of_missing host start path

/-- A document that gives two of the settings, and something else. -/
def partialText : String :=
  "other = 5\n[defaults]\nword_count = 25\nrepartition = \"Rare\"\n"

theorem partial_settings_keep_others :
    ∃ entries settings, Toml.parse? partialText = some entries ∧ Typed entries ∧
      Settings.ofText "config.toml" partialText = .ok settings ∧ settings.wordCount = 25 ∧
      settings.chosenRepartition = some .rare ∧ settings.rulesFile = none ∧
      settings.width = Settings.builtIn.width := by
  have given_count : ((Toml.parse? partialText).bind (given? · .wordCount)).bind
      Toml.Value.natural? = some 25 := by decide +kernel
  have given_label : ((Toml.parse? partialText).bind (given? · .repartition)).bind
      Toml.Value.text? = some "Rare" := by decide +kernel
  have no_file : ((Toml.parse? partialText).bind (given? · .rulesFile)).isNone = true := by
    decide +kernel
  have no_width : ((Toml.parse? partialText).bind (given? · (.size .width))).isNone = true := by
    decide +kernel
  have accepted : (Settings.ofText "config.toml" partialText).toOption.isSome = true := by
    decide +kernel
  obtain ⟨entries, parsed⟩ : ∃ entries, Toml.parse? partialText = some entries := by
    rw [← Option.isSome_iff_exists]
    decide +kernel
  obtain ⟨texts, -, picks, -⟩ := settings_overlay_builtIn World.host "config.toml"
  obtain ⟨mistyped, typed⟩ := texts partialText entries parsed
  have in_order : Typed entries := by
    by_contra wrong
    rw [mistyped wrong] at accepted
    cases accepted
  obtain ⟨settings, overlaid, -, accepts⟩ := typed in_order
  rw [parsed] at given_count given_label no_file no_width
  obtain ⟨count, counted, isNatural⟩ := Option.bind_eq_some_iff.mp given_count
  obtain ⟨label, labelled, isText⟩ := Option.bind_eq_some_iff.mp given_label
  have counts : Means .wordCount count (25 : Nat) := reader_eq_some_iff.mp isNatural
  have labels : Means .repartition label (some "Rare") :=
    reader_eq_some_iff.mp (congrArg (Option.map some) isText)
  have words : settings.wordCount = 25 := ((overlaid .wordCount).present count counted).unique counts
  have named : settings.repartition = some Repartition.rare.label :=
    ((overlaid .repartition).present label labelled).unique labels
  have loaded := accepts.mpr (.inr ⟨.rare, named⟩)
  exact ⟨entries, settings, parsed, in_order, loaded, words, ((picks _ _ loaded).2 .rare).mpr named,
    (overlaid .rulesFile).absent (Option.isNone_iff_eq_none.mp no_file),
    (overlaid (.size .width)).absent (Option.isNone_iff_eq_none.mp no_width)⟩

end SoundChange.SettingsOverlay
