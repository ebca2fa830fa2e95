import SoundChange.Generation
import SoundChange.Text.Lines

/-!
The view of results: at most one table and at most one message. Every submission first clears the
view, and then leaves either the table of its generation or the message of its fault, never both.
Where the program stops in between, the view is left cleared.
-/
namespace SoundChange

/-- What a view shows. -/
structure View where
  table : Option Table
  fault : Option String
  deriving DecidableEq, Repr

namespace View

def empty : View := ⟨none, none⟩

/-- The lines of the message. -/
def faultLines (view : View) : List String :=
  match view.fault with
  | some message => Text.textLines message
  | none => []

/-- `error_html`: the message as markup, its lines parted by line breaks. -/
def faultMarkup (view : View) : Option String :=
  view.fault.map Text.Markup.brokenLines

def clear (view : View) : View :=
  { view with table := none, fault := none }

/-- The run that a form asks for; a form that is not valid makes no call. -/
def runOfForm {system : Type} (engine : Engine system) (form : Form) : Run Generation :=
  match form.validate with
  | .error fault => ⟨.error (.input fault), []⟩
  | .ok request => engine.runRequest request

/-- `submit`: the run of a form with its calls, and the view after it. -/
def submit {system : Type} (view : View) (engine : Engine system) (form : Form) :
    Run Unit × View :=
  let run := runOfForm engine form
  let cleared := view.clear
  match run.answer with
  | .ok generation =>
    (⟨.ok (), run.calls⟩, { cleared with table := some generation.table })
  | .error fault =>
    (⟨.error fault, run.calls⟩, { cleared with fault := fault.message })

end View

end SoundChange
