import SoundChange.Settings
import SoundChange.View

/-!
The window. Its side panel holds the path of a rule file, the rules being edited, the number of
words and the choice of a repartition; its central panel shows the view of results. `paints` lists
the texts that are seen, in reading order, each with what a click on it does. An action changes one
part of the window and leaves the others alone; all actions but those of the menu close the menu.
-/
namespace SoundChange

/-- The state of the window. -/
structure Window where
  /-- The message of the settings that could not be loaded. -/
  settingsFault : Option String
  path : String
  rules : String
  rulesFault : Option String
  wordCount : String
  chosen : Option Repartition
  view : View
  menuOpen : Bool
  deriving DecidableEq, Repr

/-- The fields that text can be typed into. -/
inductive WindowField where
  | path
  | rules
  | wordCount
  deriving DecidableEq, Repr

inductive WindowAction where
  | set (field : WindowField) (text : String)
  | choose (repartition : Repartition)
  | load
  | generate
  | clear
  | menu
  deriving DecidableEq, Repr

/-- What a click on a painted text does. -/
inductive Control where
  | action (action : WindowAction)
  | exit
  deriving DecidableEq, Repr

inductive PaintStyle where
  | plain
  | red
  | strong
  | italic
  deriving DecidableEq, Repr

/-- A painted text. -/
structure Paint where
  style : PaintStyle
  text : String
  control : Option Control
  deriving DecidableEq, Repr

namespace Window

def title : String := "SoundShift"

/-- The least width and height. -/
def leastSize : Float32 × Float32 := (900, 600)

/-- How a rule file is read. -/
abbrev Reader : Type := String → Except IoFault String

/-- `load_rules_file`: reads the rule file at the path into the editor, or keeps the editor and
shows the fault. -/
def load (reader : Reader) (window : Window) : Window :=
  match reader (Text.trimmed window.path) with
  | .ok text => { window with rulesFault := none, rules := text }
  | .error fault =>
    { window with
      rulesFault := some ("Failed to read " ++ window.path ++ ": " ++ fault.message) }

/-- The window at the start. A rule file named by the settings is loaded at once; settings that
could not be loaded are replaced by the built-in ones. -/
def initial (reader : Reader) (loaded : Except SettingsFault Settings) : Window :=
  let settings := loaded.toOption.getD Settings.builtIn
  let settingsFault := match loaded with
    | .error fault => some fault.message
    | .ok _ => none
  let window : Window :=
    ⟨settingsFault, "", "", none, toString settings.wordCount, settings.chosenRepartition,
      .empty, false⟩
  match settings.rulesFile with
  | some path => { window with path := path }.load reader
  | none => window

/-- The form as it is filled in. -/
def form (window : Window) : Form :=
  ⟨window.rules, window.wordCount, window.chosen.map Repartition.label⟩

/-- `generate`: submits the form as it is filled in. How that ends, and the window after it. -/
def generate {system : Type} (engine : Engine system) (window : Window) : Run Unit × Window :=
  let (run, view) := window.view.submit engine window.form
  (run, { window with view := view })

def setField (field : WindowField) (text : String) (window : Window) : Window :=
  match field with
  | .path => { window with path := text }
  | .rules => { window with rules := text }
  | .wordCount => { window with wordCount := text }

def closeMenu (window : Window) : Window :=
  { window with menuOpen := false }

/-- The window after an action. -/
def act {system : Type} (reader : Reader) (engine : Engine system) (window : Window) :
    WindowAction → Window
  | .set field text => (window.setField field text).closeMenu
  | .choose repartition => { window with chosen := some repartition }.closeMenu
  | .load => (window.load reader).closeMenu
  | .generate => (window.generate engine).2.closeMenu
  | .clear => { window with view := window.view.clear }
  | .menu => { window with menuOpen := !window.menuOpen }

def inert (style : PaintStyle) (text : String) : Paint :=
  ⟨style, text, none⟩

def button (text : String) (action : WindowAction) : Paint :=
  ⟨.plain, text, some (.action action)⟩

def ofFault (lead : String) (fault : Option String) : List Paint :=
  match fault with
  | some message => [inert .red (lead ++ message)]
  | none => []

def ofCell (cell : Cell) : Paint :=
  let style : PaintStyle := match cell with
    | .word _ | .unchanged => .plain
    | .changed _ => .red
    | .final _ => .strong
    | .ipa _ => .italic
  inert style cell.plain

def ofTable (table : Table) : List Paint :=
  table.headings.map (inert .strong) ++ table.rows.flatMap fun row => row.map ofCell

def failureNote : String := "Generation failed (see side panel)."

def initialHint : String := "Write or load a rule file, then click 'Generate'."

/-- The central panel below its heading. -/
def results (view : View) : List Paint :=
  match view.table, view.fault with
  | some table, _ => ofTable table
  | none, some _ => [inert .plain failureNote]
  | none, none => [inert .plain initialHint]

def sidePanel (window : Window) : List Paint :=
  [inert .plain "Sound System"] ++ ofFault "Config: " window.settingsFault ++
    [inert .plain "Rule file:", inert .plain window.path, button "Load" .load] ++
    ofFault "" window.rulesFault ++
    [inert .plain window.rules, inert .plain "Number of words:", inert .plain window.wordCount,
      inert .plain "Monosyllables:"] ++
    Repartition.all.map (fun repartition => button repartition.label (.choose repartition)) ++
    [button "Generate" .generate] ++ window.view.faultLines.map (inert .red)

def menuItems (window : Window) : List Paint :=
  if window.menuOpen then
    [button "Clear Results" .clear, ⟨.plain, "Exit", some .exit⟩]
  else []

/-- `update`, as far as it is seen: every text in reading order; empty texts are not. -/
def paints (window : Window) : List Paint :=
  ([button "File" .menu] ++ window.sidePanel ++ [inert .plain "Transformation History"] ++
    results window.view ++ window.menuItems).filter fun paint => !paint.text.isEmpty

/-- Whether the program stops in an action. -/
def stops {system : Type} (engine : Engine system) (window : Window) : WindowAction → Bool
  | .generate => (window.generate engine).1.stops
  | _ => false

/-- What a click brings about. -/
inductive Reply where
  /-- No painted text is the one that was to be clicked. -/
  | missed
  | stays (window : Window)
  | closes
  /-- The program stops, and the window is gone with it. -/
  | stops

/-- Clicks the first painted text that is `text`. -/
def click {system : Type} (reader : Reader) (engine : Engine system) (window : Window)
    (text : String) : Reply :=
  match window.paints.find? fun paint => paint.text == text with
  | none => .missed
  | some paint =>
    match paint.control with
    | none => .stays window.closeMenu
    | some (.action action) =>
      if window.stops engine action then .stops else .stays (window.act reader engine action)
    | some .exit => .closes

end Window

end SoundChange
