import SoundChange.Fault
import SoundChange.Json.Reader
import SoundChange.Transformation

/-!
Transformations as JSON. A step is a record with its label under `rule` or `rule_label` and its
words under `words` or `words_after`, or a list of label and words. A transformation is a record
with its steps under `history`, which may be left out, and its final forms under `output`, or a list
of both.
`Transformation.ofValue` decodes a value; `Transformation.ofText` decodes a text in reading order,
so a value of the wrong type is reported even when the text behind it is not well formed.
-/
namespace SoundChange

open Json

/-- Why a value or a text is no transformation. -/
inductive EncodingFault where
  | malformed
  | wrongType (found expected : String)
  | unknownStep
  | missingField (name : String)
  | duplicateField (name : String)
  /-- A list that ends before the final forms. -/
  | shortList
  /-- A list with more than steps and final forms. -/
  | longList (length : Nat)
  deriving DecidableEq, Repr

namespace EncodingFault

def message : EncodingFault → String
  | malformed => "JSON syntax error"
  | wrongType found expected => "invalid type: " ++ found ++ ", expected " ++ expected
  | unknownStep => "data did not match any variant of untagged enum WireStep"
  | missingField name => "missing field `" ++ name ++ "`"
  | duplicateField name => "duplicate field `" ++ name ++ "`"
  | shortList => "invalid length 1, expected struct WireTransformation with 2 elements"
  | longList length =>
    "invalid length " ++ toString length ++ ", expected fewer elements in array"

/-- What was expected, in the words of a type fault. -/
def aText : String := "a string"
def aList : String := "a sequence"
def aTransformation : String := "struct WireTransformation"

/-- The fault as an engine reports it. -/
def asEngineFault (fault : EncodingFault) : EngineFault :=
  .transformation ("Unreadable transformation result: " ++ fault.message)

end EncodingFault

/-- A list of texts. -/
def textsOfValues : List Value → Except EncodingFault (List String)
  | [] => .ok []
  | .text s :: others =>
    match textsOfValues others with
    | .ok texts => .ok (s :: texts)
    | .error fault => .error fault
  | other :: _ => .error (.wrongType other.describe EncodingFault.aText)

def textsOfValue : Value → Except EncodingFault (List String)
  | .list items => textsOfValues items
  | other => .error (.wrongType other.describe EncodingFault.aList)

namespace Step

def isRuleKey (key : String) : Bool :=
  key == "rule" || key == "rule_label"

def isWordsKey (key : String) : Bool :=
  key == "words" || key == "words_after"

/-- The only value under one of some keys. -/
def only? (accepts : String → Bool) (fields : List (String × Value)) : Option Value :=
  match fields.filter fun field => accepts field.1 with
  | [field] => some field.2
  | _ => none

/-- The step with a label and words, if they are such. -/
def ofParts? (rule words : Value) : Option Step :=
  match rule, textsOfValue words with
  | .text rule, .ok words => some ⟨rule, words⟩
  | _, _ => none

/-- The step that a value encodes. -/
def ofValue? : Value → Option Step
  | .record fields =>
    match only? isRuleKey fields, only? isWordsKey fields with
    | some rule, some words => ofParts? rule words
    | _, _ => none
  | .list [rule, words] => ofParts? rule words
  | _ => none

def ofValues : List Value → Except EncodingFault (List Step)
  | [] => .ok []
  | value :: others =>
    match ofValue? value with
    | none => .error .unknownStep
    | some step =>
      match ofValues others with
      | .ok steps => .ok (step :: steps)
      | .error fault => .error fault

/-- The steps that a value encodes. -/
def listOfValue : Value → Except EncodingFault (List Step)
  | .list items => ofValues items
  | other => .error (.wrongType other.describe EncodingFault.aList)

end Step

namespace Transformation

/-- The transformation of a record; its steps are looked at before its final forms. -/
def ofFields (fields : List (String × Value)) : Except EncodingFault Transformation := do
  let history ←
    match Value.field? "history" fields with
    | some value => Step.listOfValue value
    | none => .ok []
  match Value.field? "output" fields with
  | some value => return ⟨history, ← textsOfValue value⟩
  | none => .error (.missingField "output")

/-- The transformation of a list. -/
def ofItems : List Value → Except EncodingFault Transformation
  | [] => .error .shortList
  | [history] => do
    let _ ← Step.listOfValue history
    .error .shortList
  | [history, output] => do
    let history ← Step.listOfValue history
    return ⟨history, ← textsOfValue output⟩
  | history :: output :: others => do
    let _ ← Step.listOfValue history
    let _ ← textsOfValue output
    .error (.longList (others.length + 2))

/-- The transformation that a value encodes. -/
def ofValue : Value → Except EncodingFault Transformation
  | .record fields => ofFields fields
  | .list items => ofItems items
  | other => .error (.wrongType other.describe EncodingFault.aTransformation)

/-- `transformation_from_value`: the transformation that a value encodes, its faults as an engine
reports them. -/
def fromValue (value : Value) : Except EngineFault Transformation :=
  (ofValue value).mapError EncodingFault.asEngineFault

end Transformation

namespace Transformation.Reading

/-- What was read from some tokens, and the tokens behind it. -/
structure Part (α : Type) (tokens : List Token) where
  value : α
  rest : List Token
  shorter : rest.length < tokens.length

/-- What a token at the start of a value stands for, in the words of a type fault. -/
def describe? : Token → Option String
  | .null => some Value.null.describe
  | .boolean b => some (Value.boolean b).describe
  | .number n => n.value?.map Value.describe
  | .text s => s.map fun s => (Value.text s).describe
  | .openList => some (Value.list []).describe
  | .openRecord => some (Value.record []).describe
  | _ => none

/-- The fault of a token where something else was expected. -/
def unexpected (token : Token) (expected : String) : EncodingFault :=
  match describe? token with
  | some found => .wrongType found expected
  | none => .malformed

/-- The texts of a list from the next item on. -/
def textItems : (tokens : List Token) → Except EncodingFault (Part (List String) tokens)
  | .text (some s) :: .comma :: tokens =>
    match textItems tokens with
    | .ok part =>
      .ok ⟨s :: part.value, part.rest, by
        have := part.shorter
        simp only [List.length_cons]
        omega⟩
    | .error fault => .error fault
  | .text (some s) :: .closeList :: tokens =>
    .ok ⟨[s], tokens, by simp only [List.length_cons]; omega⟩
  | .text (some _) :: _ => .error .malformed
  | token :: _ => .error (unexpected token EncodingFault.aText)
  | [] => .error .malformed

/-- The steps of a list from the next item on. Steps stand inside two containers. -/
def stepItems (tokens : List Token) : Except EncodingFault (Part (List Step) tokens) :=
  match read : readValue (.kept 2) tokens with
  | none => .error .malformed
  | some (value, rest) =>
    have fewer : rest.length < tokens.length := length_of_readValue read
    match Step.ofValue? value with
    | none => .error .unknownStep
    | some step =>
      match _same : rest with
      | .comma :: others =>
        match stepItems others with
        | .ok part =>
          .ok ⟨step :: part.value, part.rest, by
            have := part.shorter
            simp only [List.length_cons] at fewer
            omega⟩
        | .error fault => .error fault
      | .closeList :: others =>
        .ok ⟨[step], others, by
          simp only [List.length_cons] at fewer
          omega⟩
      | _ => .error .malformed
termination_by tokens.length
decreasing_by
  simp only [List.length_cons] at fewer
  omega

/-- A list whose items are read from the first one on. -/
def listOf {α : Type}
    (readItems : (tokens : List Token) → Except EncodingFault (Part (List α) tokens)) :
    (tokens : List Token) → Except EncodingFault (Part (List α) tokens)
  | .openList :: .closeList :: tokens =>
    .ok ⟨[], tokens, by simp only [List.length_cons]; omega⟩
  | .openList :: tokens =>
    match readItems tokens with
    | .ok part =>
      .ok ⟨part.value, part.rest, by
        have := part.shorter
        simp only [List.length_cons]
        omega⟩
    | .error fault => .error fault
  | token :: _ => .error (unexpected token EncodingFault.aList)
  | [] => .error .malformed

def textList : (tokens : List Token) → Except EncodingFault (Part (List String) tokens) :=
  listOf textItems

def stepList : (tokens : List Token) → Except EncodingFault (Part (List Step) tokens) :=
  listOf stepItems

/-- The fields of a record read so far. -/
structure Fields where
  history : Option (List Step)
  output : Option (List String)

/-- The value of a field, after its colon. -/
def afterColon {α : Type}
    (readPart : (tokens : List Token) → Except EncodingFault (Part α tokens)) :
    (tokens : List Token) → Except EncodingFault (Part α tokens)
  | .colon :: tokens =>
    match readPart tokens with
    | .ok part =>
      .ok ⟨part.value, part.rest, by
        have := part.shorter
        simp only [List.length_cons]
        omega⟩
    | .error fault => .error fault
  | _ => .error .malformed

/-- A value that is passed over. -/
def skipped (tokens : List Token) : Except EncodingFault (Part Unit tokens) :=
  match read : readValue .skipped tokens with
  | none => .error .malformed
  | some (_, rest) => .ok ⟨(), rest, length_of_readValue read⟩

/-- One field. A second field of the same name is a fault as soon as its name is read. -/
def readField (fields : Fields) :
    (tokens : List Token) → Except EncodingFault (Part Fields tokens)
  | .text (some key) :: tokens =>
    if key = "history" then
      if fields.history.isSome then .error (.duplicateField key)
      else
        match afterColon stepList tokens with
        | .ok part =>
          .ok ⟨{ fields with history := some part.value }, part.rest, by
            have := part.shorter
            simp only [List.length_cons]
            omega⟩
        | .error fault => .error fault
    else if key = "output" then
      if fields.output.isSome then .error (.duplicateField key)
      else
        match afterColon textList tokens with
        | .ok part =>
          .ok ⟨{ fields with output := some part.value }, part.rest, by
            have := part.shorter
            simp only [List.length_cons]
            omega⟩
        | .error fault => .error fault
    else
      match afterColon skipped tokens with
      | .ok part =>
        .ok ⟨fields, part.rest, by
          have := part.shorter
          simp only [List.length_cons]
          omega⟩
      | .error fault => .error fault
  | _ => .error .malformed

/-- The fields of a record from the next key on, and the tokens behind the record. -/
def readFields (fields : Fields) (tokens : List Token) :
    Except EncodingFault (Fields × List Token) :=
  match readField fields tokens with
  | .error fault => .error fault
  | .ok part =>
    match _same : part.rest with
    | .comma :: others => readFields part.value others
    | .closeRecord :: others => .ok (part.value, others)
    | _ => .error .malformed
termination_by tokens.length
decreasing_by
  have := part.shorter
  simp only [_same, List.length_cons] at this
  omega

/-- The transformation of a record whose fields have been read. -/
def ofReadFields (fields : Fields) : Except EncodingFault Transformation :=
  match fields.output with
  | some output => .ok ⟨fields.history.getD [], output⟩
  | none => .error (.missingField "output")

/-- A record after its opening brace. -/
def readRecord : List Token → Except EncodingFault (Transformation × List Token)
  | .closeRecord :: _ => .error (.missingField "output")
  | tokens =>
    match readFields ⟨none, none⟩ tokens with
    | .error fault => .error fault
    | .ok (fields, rest) =>
      match ofReadFields fields with
      | .ok transformation => .ok (transformation, rest)
      | .error fault => .error fault

/-- A list after its opening bracket. -/
def readPair : List Token → Except EncodingFault (Transformation × List Token)
  | .closeList :: _ => .error .shortList
  | tokens =>
    match stepList tokens with
    | .error fault => .error fault
    | .ok part =>
      match part.rest with
      | .closeList :: _ => .error .shortList
      | .comma :: others =>
        match textList others with
        | .error fault => .error fault
        | .ok output =>
          match output.rest with
          | .closeList :: rest => .ok (⟨part.value, output.value⟩, rest)
          | _ => .error .malformed
      | _ => .error .malformed

/-- A transformation at the start of some tokens, and the tokens behind it. -/
def readTransformation : List Token → Except EncodingFault (Transformation × List Token)
  | .openRecord :: tokens => readRecord tokens
  | .openList :: tokens => readPair tokens
  | token :: _ => .error (unexpected token EncodingFault.aTransformation)
  | [] => .error .malformed

end Transformation.Reading

/-- The transformation that a text encodes; nothing but blanks may follow it. -/
def Transformation.ofText (text : String) : Except EncodingFault Transformation :=
  match Reading.readTransformation (lex text.toList) with
  | .ok (transformation, []) => .ok transformation
  | .ok (_, _ :: _) => .error .malformed
  | .error fault => .error fault

/-- `transformation_from_json`: the transformation that a text encodes, its faults as an engine
reports them. -/
def Transformation.fromText (text : String) : Except EngineFault Transformation :=
  (ofText text).mapError EncodingFault.asEngineFault

end SoundChange
