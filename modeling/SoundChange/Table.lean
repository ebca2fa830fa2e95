import SoundChange.History.Reconcile
import SoundChange.Text.Markup
import SoundChange.Trace

/-!
The history table. Its headings are `Words`, one rule label for each step, `Final` and `IPA`; each
row follows one word through the steps. `Table.build` asks once for each word how its final form is
pronounced, and gives no table at all if any of these lookups fails.
-/
namespace SoundChange

/-- One cell of the history table. -/
inductive Cell where
  /-- The word before any rule ran. -/
  | word (text : String)
  /-- The rule of this column left the word as it was. -/
  | unchanged
  /-- The rule of this column made this new form. -/
  | changed (text : String)
  | final (text : String)
  | ipa (text : String)
  deriving DecidableEq, Repr

namespace Cell

def unchangedMarker : String := "--"

/-- The text of a cell without any emphasis. -/
def plain : Cell → String
  | word text => text
  | unchanged => unchangedMarker
  | changed text => text
  | final text => text
  | ipa text => "/" ++ text ++ "/"

/-- The content of a cell on a page: changes red and bold, finals bold, pronunciations italic. -/
def markup : Cell → String
  | word text => Text.Markup.escaped text
  | unchanged => unchangedMarker
  | changed text => "<b style=\"color: red\">" ++ Text.Markup.escaped text ++ "</b>"
  | final text => "<b>" ++ Text.Markup.escaped text ++ "</b>"
  | ipa text => "<i>/" ++ Text.Markup.escaped text ++ "/</i>"

/-- The cell of a word under the rule that left it in this state. -/
def ofState (state : StepState) : Cell :=
  if state.changed then changed state.current else unchanged

end Cell

structure Table where
  headings : List String
  rows : List (List Cell)
  deriving DecidableEq, Repr

namespace Table

def wordsHeading : String := "Words"
def finalHeading : String := "Final"
def ipaHeading : String := "IPA"

/-- `headings` of the table of a transformation; rules that ran twice have two columns. -/
def headingsOf (result : Transformation) : List String :=
  wordsHeading :: (result.rules ++ [finalHeading, ipaHeading])

/-- The cells of one word, given the pronunciation of its final form. -/
def cellsOf (word : Word) (row : ReconciledRow) (sound : String) : List Cell :=
  .word word :: (row.steps.map Cell.ofState ++ [.final row.final, .ipa sound])

/-- A lookup of pronunciations: it may fail, and it may change the state it works on. -/
abbrev Lookup (state : Type) : Type :=
  Word → state → Except EngineFault String × state

/-- A table under construction; its events are the words looked up. -/
abbrev Building (state value : Type) : Type :=
  Traced Word state RequestFault value

/-- Looks up the pronunciation of one final form. -/
def look {state : Type} (lookup : Lookup state) (word : Word) : Building state String :=
  Traced.rename id .engine (Traced.perform word (lookup word))

/-- The rows from `index` on, each checked to be as wide as the headings. -/
def buildRows {state : Type} (width : Nat) (lookup : Lookup state) (index : Nat) :
    List Word → List ReconciledRow → Building state (List (List Cell))
  | word :: words, row :: rows => do
    let sound ← look lookup row.final
    let cells := cellsOf word row sound
    if cells.length = width then
      let others ← buildRows width lookup (index + 1) words rows
      return cells :: others
    else
      Traced.fail (.contract (.rowWidth index width cells.length))
  | _, _ => return []

/-- `build`: the table of a reconciled history. -/
def build {state : Type} (words : List Word) (result : Transformation) (matrix : Matrix)
    (lookup : Lookup state) : Building state Table :=
  if matrix.rows.length = words.length then do
    let headings := headingsOf result
    let rows ← buildRows headings.length lookup 0 words matrix.rows
    return ⟨headings, rows⟩
  else
    Traced.fail (.contract (.rowCount words.length matrix.rows.length))

end Table

end SoundChange
