import SoundChange.History.Saved
import SoundChange.Proofs.JsonRoundTrip
import SoundChange.Proofs.Utf8Coding

/-! Saved transcripts load as they were, whatever words, labels and lists they hold. The fields of the
record come back in another order, which decoding does not see. -/
namespace SoundChange.TranscriptRoundTrip
open Json JsonRoundTrip

theorem plain_textsToValue (room : Nat) (texts : List String) :
    Plain (room + 1) (textsToValue texts) := by
  refine .list fun item member => ?_
  obtain ⟨s, _, rfl⟩ := List.mem_map.mp member
  exact .text room s

theorem plain_step (room : Nat) (step : Step) : Plain (room + 2) step.toValue := by
  refine .record fun field member => ?_
  simp only [List.mem_cons, List.not_mem_nil, or_false] at member
  rcases member with rfl | rfl
  · exact .text _ step.rule
  · exact plain_textsToValue room step.words

/-- The value of a transcript is plain, and no deeper than four containers. -/
theorem plain_transcript (room : Nat) (transcript : Transcript) :
    Plain (room + 4) transcript.toValue := by
  refine .record fun field member => ?_
  simp only [List.mem_cons, List.not_mem_nil, or_false] at member
  rcases member with rfl | rfl | rfl
  · exact plain_textsToValue (room + 2) transcript.words
  · refine .list fun item inside => ?_
    obtain ⟨step, _, rfl⟩ := List.mem_map.mp inside
    exact plain_step room step
  · exact plain_textsToValue (room + 2) transcript.result.output

/-- Items that are in order stay as they are. -/
theorem tidyItems_eq_self {items : List Value} (each : ∀ item ∈ items, item.tidy = item) :
    Value.tidyItems items = items := by
  induction items with
  | nil => rfl
  | cons item items ih =>
    rw [Value.tidyItems, each item List.mem_cons_self,
      ih fun item member => each item (List.mem_cons_of_mem _ member)]

theorem tidy_textsToValue (texts : List String) :
    (textsToValue texts).tidy = textsToValue texts := by
  rw [textsToValue, Value.tidy, tidyItems_eq_self]
  intro item member
  obtain ⟨s, _, rfl⟩ := List.mem_map.mp member
  rfl

theorem tidy_step (step : Step) : step.toValue.tidy = step.toValue := by
  have behind : ¬ "words" < "rule" := by decide
  have other : "words" ≠ "rule" := by decide
  simp only [Step.toValue, Value.tidy, Value.tidyFields, tidy_textsToValue, Value.sortFields,
    List.foldl_cons, List.foldl_nil, Value.insertField, behind, other, ↓reduceIte]

/-- The fields of a transcript in the order of their keys. -/
theorem tidy_transcript (transcript : Transcript) :
    transcript.toValue.tidy =
      .record [("history", .list (transcript.result.history.map Step.toValue)),
        ("output", textsToValue transcript.result.output),
        ("words", textsToValue transcript.words)] := by
  have steps : Value.tidyItems (transcript.result.history.map Step.toValue) =
      transcript.result.history.map Step.toValue := by
    refine tidyItems_eq_self fun item member => ?_
    obtain ⟨step, _, rfl⟩ := List.mem_map.mp member
    exact tidy_step step
  have first : "history" < "words" := by decide
  have behind : ¬ "output" < "history" := by decide
  have other : "output" ≠ "history" := by decide
  have between : "output" < "words" := by decide
  simp only [Transcript.toValue, Value.tidy, Value.tidyFields, tidy_textsToValue, steps,
    Value.sortFields, List.foldl_cons, List.foldl_nil, Value.insertField, first, behind, other,
    between, ↓reduceIte]

theorem textsOfValue_textsToValue (texts : List String) :
    textsOfValue (textsToValue texts) = .ok texts := by
  rw [textsToValue, textsOfValue]
  induction texts with
  | nil => rfl
  | cons s texts ih => rw [List.map_cons, textsOfValues, ih]

/-- A step is read back from its value. -/
theorem ofValue?_toValue (step : Step) : Step.ofValue? step.toValue = some step := by
  have rule : Step.only? Step.isRuleKey
      [("rule", .text step.rule), ("words", textsToValue step.words)] =
        some (.text step.rule) := rfl
  have words : Step.only? Step.isWordsKey
      [("rule", .text step.rule), ("words", textsToValue step.words)] =
        some (textsToValue step.words) := rfl
  rw [Step.toValue, Step.ofValue?, rule, words]
  simp only [Step.ofParts?, textsOfValue_textsToValue]

theorem ofValues_toValue (steps : List Step) :
    Step.ofValues (steps.map Step.toValue) = .ok steps := by
  induction steps with
  | nil => rfl
  | cons step steps ih => rw [List.map_cons, Step.ofValues, ofValue?_toValue, ih]

/-- The transformation is what the record holds beside its words. -/
theorem ofFields_transformation (result : Transformation) :
    Transformation.ofFields [("history", .list (result.history.map Step.toValue)),
      ("output", textsToValue result.output)] = .ok result := by
  have history : Value.field? "history" [("history", .list (result.history.map Step.toValue)),
      ("output", textsToValue result.output)] =
        some (.list (result.history.map Step.toValue)) := rfl
  have output : Value.field? "output" [("history", .list (result.history.map Step.toValue)),
      ("output", textsToValue result.output)] = some (textsToValue result.output) := rfl
  rw [Transformation.ofFields, history, output]
  simp only [Step.listOfValue, ofValues_toValue, textsOfValue_textsToValue]
  rfl

/-- A transcript is read back from its value once the fields are in order. -/
theorem ofValue_tidy_toValue (transcript : Transcript) :
    Transcript.ofValue transcript.toValue.tidy = .ok transcript := by
  have words : Value.field? "words"
      [("history", .list (transcript.result.history.map Step.toValue)),
        ("output", textsToValue transcript.result.output),
        ("words", textsToValue transcript.words)] = some (textsToValue transcript.words) := rfl
  have others : [("history", .list (transcript.result.history.map Step.toValue)),
      ("output", textsToValue transcript.result.output),
      ("words", textsToValue transcript.words)].filter (fun field => field.1 != "words") =
        [("history", .list (transcript.result.history.map Step.toValue)),
          ("output", textsToValue transcript.result.output)] := rfl
  rw [tidy_transcript, Transcript.ofValue, Transcript.ofFields, words, others,
    ofFields_transformation]
  simp only [textsOfValue_textsToValue]

/-- A saved transcript, also with a line end behind it, holds the transcript. -/
theorem ofText_toText (transcript : Transcript) {blanks : List Char}
    (blank : ∀ c ∈ blanks, isSpace c = true) :
    Transcript.ofText (transcript.toText ++ String.ofList blanks) = .ok transcript := by
  have parsed := parse?_write (plain_transcript 123 transcript) blank
  have text : (transcript.toText ++ String.ofList blanks).toList =
      write 0 transcript.toValue ++ blanks := by
    rw [String.toList_append, Transcript.toText, pretty, String.toList_ofList,
      String.toList_ofList]
  rw [Transcript.ofText, text, parsed]
  exact ofValue_tidy_toValue transcript

end SoundChange.TranscriptRoundTrip
