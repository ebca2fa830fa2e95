import SoundChange.Json.Numeral

/-!
Reading JSON values from tokens. The reader keeps the containers that are still open on a stack and
takes one token at a time, so it stops at the first token that does not fit. Values that are kept
may be nested in at most one hundred and twenty-seven containers, must have numbers within the
doubles and no halves of surrogate pairs; values that are skipped only have to be well formed.
-/
namespace SoundChange.Json

/-- The deepest nesting of values that are kept. -/
def depthLimit : Nat := 127

/-- What becomes of the value that is read. -/
inductive Care where
  /-- The value is kept; it stands inside this many containers. -/
  | kept (outer : Nat)
  | skipped
  deriving DecidableEq, Repr

/-- A container that is still open, with what it holds so far, the latest first. -/
inductive Frame where
  | list (items : List Value)
  | record (fields : List (String × Value))
  /-- A record whose next value belongs to this key. -/
  | field (fields : List (String × Value)) (key : String)

/-- What the reader expects next. -/
inductive Mode where
  | value
  /-- A value, or the end of the list that was just opened. -/
  | itemOrClose
  /-- A key, or the end of the record that was just opened. -/
  | keyOrClose
  | key
  | colon (key : String)
  /-- This value is complete. -/
  | done (v : Value)

/-- Whether one more container may be opened. -/
def mayOpen (care : Care) (frames : List Frame) : Bool :=
  match care with
  | .kept outer => outer + frames.length < depthLimit
  | .skipped => true

/-- The value of a number token. -/
def numberValue? (care : Care) (n : Numeral) : Option Value :=
  match care with
  | .kept _ => n.value?
  | .skipped => some .null

/-- The content of a text token. -/
def textValue? (care : Care) (s : Option String) : Option String :=
  match care with
  | .kept _ => s
  | .skipped => some (s.getD "")

/-- A token where a value is expected. -/
def stepValue (care : Care) (frames : List Frame) : Token → Option (Mode × List Frame)
  | .null => some (.done .null, frames)
  | .boolean b => some (.done (.boolean b), frames)
  | .number n => (numberValue? care n).map fun v => (.done v, frames)
  | .text s => (textValue? care s).map fun s => (.done (.text s), frames)
  | .openList => if mayOpen care frames then some (.itemOrClose, .list [] :: frames) else none
  | .openRecord => if mayOpen care frames then some (.keyOrClose, .record [] :: frames) else none
  | _ => none

/-- A token where a key is expected. -/
def stepKey (care : Care) (frames : List Frame) : Token → Option (Mode × List Frame)
  | .text s => (textValue? care s).map fun s => (.colon s, frames)
  | _ => none

/-- What the reader expects after one more token. -/
def step (care : Care) : Mode → List Frame → Token → Option (Mode × List Frame)
  | .value, frames, token => stepValue care frames token
  | .itemOrClose, .list items :: frames, .closeList => some (.done (.list items.reverse), frames)
  | .itemOrClose, frames, token => stepValue care frames token
  | .keyOrClose, .record fields :: frames, .closeRecord =>
    some (.done (.record fields.reverse), frames)
  | .keyOrClose, frames, token => stepKey care frames token
  | .key, frames, token => stepKey care frames token
  | .colon key, .record fields :: frames, .colon => some (.value, .field fields key :: frames)
  | .done v, .list items :: frames, .comma => some (.value, .list (v :: items) :: frames)
  | .done v, .list items :: frames, .closeList =>
    some (.done (.list (v :: items).reverse), frames)
  | .done v, .field fields key :: frames, .comma =>
    some (.key, .record ((key, v) :: fields) :: frames)
  | .done v, .field fields key :: frames, .closeRecord =>
    some (.done (.record ((key, v) :: fields).reverse), frames)
  | _, _, _ => none

/-- Reads on until the value is complete, and hands back the tokens behind it. -/
def run (care : Care) : Mode → List Frame → List Token → Option (Value × List Token)
  | .done v, [], tokens => some (v, tokens)
  | _, _, [] => none
  | mode, frames, token :: tokens =>
    match step care mode frames token with
    | some (mode, frames) => run care mode frames tokens
    | none => none

/-- Reads one value, and hands back the tokens behind it. -/
def readValue (care : Care) (tokens : List Token) : Option (Value × List Token) :=
  run care .value [] tokens

/-- The reader never hands back more tokens than it got. -/
theorem length_of_run {care : Care} {mode : Mode} {frames : List Frame} {tokens : List Token}
    {v : Value} {rest : List Token} (read : run care mode frames tokens = some (v, rest)) :
    rest.length ≤ tokens.length := by
  induction tokens generalizing mode frames with
  | nil =>
    unfold run at read
    split at read <;> simp_all
  | cons token tokens ih =>
    unfold run at read
    split at read
    · simp_all
    · simp_all
    · next same =>
      cases same
      split at read
      · have shorter := ih read
        simp only [List.length_cons]
        omega
      · simp at read

/-- Reading a value takes at least one token. -/
theorem length_of_readValue {care : Care} {tokens : List Token} {v : Value} {rest : List Token}
    (read : readValue care tokens = some (v, rest)) : rest.length < tokens.length := by
  unfold readValue run at read
  split at read
  · simp_all
  · simp at read
  · split at read
    · have shorter := length_of_run read
      simp only [List.length_cons]
      omega
    · simp at read

/-- The value of a text that holds exactly one value, without repeated keys. -/
def parse? (text : List Char) : Option Value :=
  match readValue (.kept 0) (lex text) with
  | some (v, []) => some v.tidy
  | _ => none

end SoundChange.Json
