import SoundChange.Proofs.Sequencing
import SoundChange.Proofs.TranscriptRoundTrip

/-! Which values encode a transformation. The encodings are given here as relations between values and
what they stand for, and decoding accepts exactly these and nothing else, at every step of a list on
its own. So a transformation decodes to itself however each of its steps is written. -/
namespace SoundChange.Encodings
open Json Sequencing

/-- A record has one field under some names, whichever of them it is, and it holds this value. -/
def HoldsOnly (fields : List (String × Value)) (names : List String) (value : Value) : Prop :=
  ∃ before name after, fields = before ++ (name, value) :: after ∧ name ∈ names ∧
    ∀ field ∈ before ++ after, field.1 ∉ names

/-- A step is a record with a label and words, each under exactly one of its two names, or a list of
exactly these two. -/
inductive IsStep : Value → Step → Prop
  | record {fields : List (String × Value)} {step : Step}
      (rule : HoldsOnly fields ["rule", "rule_label"] (.text step.rule))
      (words : HoldsOnly fields ["words", "words_after"] (textsToValue step.words)) :
    IsStep (.record fields) step
  | pair (step : Step) : IsStep (.list [.text step.rule, textsToValue step.words]) step

/-- A list of steps. -/
inductive IsHistory : Value → List Step → Prop
  | steps {items : List Value} {steps : List Step} (each : List.Forall₂ IsStep items steps) :
    IsHistory (.list items) steps

/-- A transformation is a record with its final forms and, unless there are none, its steps, or a list
of exactly steps and final forms. -/
inductive Encodes : Value → Transformation → Prop
  | record {fields : List (String × Value)} {history : Value} {result : Transformation}
      (steps : Value.field? "history" fields = some history)
      (listed : IsHistory history result.history)
      (output : Value.field? "output" fields = some (textsToValue result.output)) :
    Encodes (.record fields) result
  | withoutSteps {fields : List (String × Value)} {words : List Word}
      (steps : Value.field? "history" fields = none)
      (output : Value.field? "output" fields = some (textsToValue words)) :
    Encodes (.record fields) ⟨[], words⟩
  | pair {history : Value} {result : Transformation} (listed : IsHistory history result.history) :
    Encodes (.list [history, textsToValue result.output]) result

/-! Texts. -/

/-- Values that are decoded as texts are these texts, written as values. -/
theorem eq_of_textsOfValues {items : List Value} {texts : List String}
    (decoded : textsOfValues items = .ok texts) : items = texts.map .text := by
  induction items generalizing texts with
  | nil => cases decoded; rfl
  | cons item items ih =>
    cases item with
    | text s =>
      rw [textsOfValues] at decoded
      cases others : textsOfValues items with
      | error fault => rw [others] at decoded; cases decoded
      | ok rest =>
        rw [others] at decoded
        cases decoded
        rw [ih others, List.map_cons]
    | null | boolean | integer | real | list | record => cases decoded

theorem textsOfValue_ok_iff {v : Value} {texts : List String} :
    textsOfValue v = .ok texts ↔ v = textsToValue texts := by
  constructor
  · intro decoded
    cases v with
    | list items => rw [textsToValue, eq_of_textsOfValues decoded]
    | null | boolean | integer | real | text | record => cases decoded
  · rintro rfl
    exact TranscriptRoundTrip.textsOfValue_textsToValue texts

/-! Steps. -/

/-- The only value under some keys is that of the only field with such a key. -/
theorem only?_eq_some_iff_filter {accepts : String → Bool} {fields : List (String × Value)}
    {value : Value} :
    Step.only? accepts fields = some value ↔
      ∃ key, (fields.filter fun field => accepts field.1) = [(key, value)] := by
  rw [Step.only?]
  generalize fields.filter (fun field => accepts field.1) = kept
  rcases kept with _ | ⟨field, _ | ⟨second, others⟩⟩
  · simp
  · constructor
    · rintro ⟨⟩
      exact ⟨field.1, rfl⟩
    · rintro ⟨key, ⟨⟩⟩
      rfl
  · simp

/-- The only field whose name is accepted. -/
theorem only?_eq_some_iff {accepts : String → Bool} {names : List String}
    (listed : ∀ name, accepts name = true ↔ name ∈ names) {fields : List (String × Value)}
    {value : Value} :
    Step.only? accepts fields = some value ↔ HoldsOnly fields names value := by
  have refused (name : String) : accepts name = false ↔ name ∉ names := by
    rw [← listed, Bool.not_eq_true]
  rw [only?_eq_some_iff_filter]
  constructor
  · rintro ⟨name, kept⟩
    obtain ⟨before, after, rfl, unnamed, named, none_left⟩ := List.filter_eq_cons_iff.mp kept
    refine ⟨before, name, after, rfl, (listed _).mp named, ?_⟩
    intro other member
    rcases List.mem_append.mp member with earlier | later
    · exact (refused _).mp (by simpa using unnamed other earlier)
    · have left_out := List.filter_eq_nil_iff.mp none_left other later
      exact (refused _).mp (by simpa using left_out)
  · rintro ⟨before, name, after, rfl, named, elsewhere⟩
    have earlier : before.filter (fun field => accepts field.1) = [] := by
      rw [List.filter_eq_nil_iff]
      intro other member
      rw [(refused _).mpr (elsewhere other (List.mem_append_left _ member))]
      exact Bool.false_ne_true
    have later : after.filter (fun field => accepts field.1) = [] := by
      rw [List.filter_eq_nil_iff]
      intro other member
      rw [(refused _).mpr (elsewhere other (List.mem_append_right _ member))]
      exact Bool.false_ne_true
    rw [List.filter_append, List.filter_cons, earlier, later, if_pos ((listed name).mpr named)]
    exact ⟨name, rfl⟩

theorem isRuleKey_iff (name : String) :
    Step.isRuleKey name = true ↔ name ∈ ["rule", "rule_label"] := by
  simp [Step.isRuleKey]

theorem isWordsKey_iff (name : String) :
    Step.isWordsKey name = true ↔ name ∈ ["words", "words_after"] := by
  simp [Step.isWordsKey]

theorem ofParts?_eq_some_iff {rule words : Value} {step : Step} :
    Step.ofParts? rule words = some step ↔
      rule = .text step.rule ∧ words = textsToValue step.words := by
  rw [← textsOfValue_ok_iff]
  cases rule with
  | text label =>
    cases decoded : textsOfValue words with
    | error fault => simp [Step.ofParts?, decoded]
    | ok texts =>
      simp only [Step.ofParts?, decoded, Option.some.injEq, Value.text.injEq, Except.ok.injEq]
      constructor
      · rintro rfl
        exact ⟨rfl, rfl⟩
      · rintro ⟨rfl, rfl⟩
        rfl
  | null | boolean | integer | real | list | record => simp [Step.ofParts?]

/-- A value is decoded as a step exactly if it is one. -/
theorem ofValue?_eq_some_iff {v : Value} {step : Step} :
    Step.ofValue? v = some step ↔ IsStep v step := by
  constructor
  · intro decoded
    cases v with
    | record fields =>
      rw [Step.ofValue?] at decoded
      cases rule : Step.only? Step.isRuleKey fields with
      | none => rw [rule] at decoded; cases decoded
      | some label =>
        cases words : Step.only? Step.isWordsKey fields with
        | none => rw [rule, words] at decoded; cases decoded
        | some list =>
          rw [rule, words] at decoded
          obtain ⟨rfl, rfl⟩ := ofParts?_eq_some_iff.mp decoded
          exact .record ((only?_eq_some_iff isRuleKey_iff).mp rule)
            ((only?_eq_some_iff isWordsKey_iff).mp words)
    | list items =>
      rcases items with _ | ⟨rule, _ | ⟨words, _ | ⟨more, others⟩⟩⟩
      · cases decoded
      · cases decoded
      · obtain ⟨rfl, rfl⟩ := ofParts?_eq_some_iff.mp decoded
        exact .pair step
      · cases decoded
    | null | boolean | integer | real | text => cases decoded
  · rintro (⟨rule, words⟩ | step)
    · rw [Step.ofValue?, (only?_eq_some_iff isRuleKey_iff).mpr rule,
        (only?_eq_some_iff isWordsKey_iff).mpr words]
      exact ofParts?_eq_some_iff.mpr ⟨rfl, rfl⟩
    · exact ofParts?_eq_some_iff.mpr ⟨rfl, rfl⟩

/-- A list is decoded as steps exactly if each item is one of them, in order. -/
theorem ofValues_ok_iff {items : List Value} {steps : List Step} :
    Step.ofValues items = .ok steps ↔ List.Forall₂ IsStep items steps := by
  induction items generalizing steps with
  | nil =>
    rw [Step.ofValues, Except.ok.injEq, List.forall₂_nil_left_iff, eq_comm]
  | cons item items ih =>
    rw [Step.ofValues, List.forall₂_cons_left_iff]
    cases first : Step.ofValue? item with
    | none =>
      constructor
      · intro decoded
        cases decoded
      · rintro ⟨step, _, is, _, _⟩
        rw [ofValue?_eq_some_iff.mpr is] at first
        cases first
    | some step =>
      cases rest : Step.ofValues items with
      | error fault =>
        constructor
        · intro decoded
          cases decoded
        · rintro ⟨_, others, _, are, _⟩
          rw [ih.mpr are] at rest
          cases rest
      | ok others =>
        constructor
        · intro decoded
          cases decoded
          exact ⟨step, others, ofValue?_eq_some_iff.mp first, ih.mp rest, rfl⟩
        · rintro ⟨step', others', is, are, rfl⟩
          rw [ofValue?_eq_some_iff.mpr is] at first
          rw [ih.mpr are] at rest
          cases first
          cases rest
          rfl

theorem listOfValue_ok_iff {v : Value} {steps : List Step} :
    Step.listOfValue v = .ok steps ↔ IsHistory v steps := by
  constructor
  · intro decoded
    cases v with
    | list items => exact .steps (ofValues_ok_iff.mp decoded)
    | null | boolean | integer | real | text | record => cases decoded
  · rintro ⟨each⟩
    exact ofValues_ok_iff.mpr each

/-! Transformations. -/

/-- A record is decoded by its fields exactly if it encodes a transformation. -/
theorem ofFields_ok_iff {fields : List (String × Value)} {result : Transformation} :
    Transformation.ofFields fields = .ok result ↔ Encodes (.record fields) result := by
  constructor
  · intro decoded
    rw [Transformation.ofFields] at decoded
    cases steps : Value.field? "history" fields with
    | none =>
      rw [steps] at decoded
      obtain ⟨_, untaken, decoded⟩ := bind_ok_iff.mp decoded
      cases untaken
      cases output : Value.field? "output" fields with
      | none => rw [output] at decoded; cases decoded
      | some words =>
        rw [output] at decoded
        obtain ⟨texts, finals, same⟩ := bind_ok_iff.mp decoded
        cases same
        rw [textsOfValue_ok_iff.mp finals] at output
        exact .withoutSteps steps output
    | some history =>
      rw [steps] at decoded
      obtain ⟨taken, listed, decoded⟩ := bind_ok_iff.mp decoded
      cases output : Value.field? "output" fields with
      | none => rw [output] at decoded; cases decoded
      | some words =>
        rw [output] at decoded
        obtain ⟨texts, finals, same⟩ := bind_ok_iff.mp decoded
        cases same
        rw [textsOfValue_ok_iff.mp finals] at output
        exact .record steps (listOfValue_ok_iff.mp listed) output
  · rintro (⟨steps, listed, output⟩ | ⟨steps, output⟩)
    · rw [Transformation.ofFields, steps, output]
      simp only [listOfValue_ok_iff.mpr listed, textsOfValue_ok_iff.mpr rfl]
      rfl
    · rw [Transformation.ofFields, steps, output]
      simp only [textsOfValue_ok_iff.mpr rfl]
      rfl

theorem ofItems_ok_iff {items : List Value} {result : Transformation} :
    Transformation.ofItems items = .ok result ↔ Encodes (.list items) result := by
  constructor
  · intro decoded
    rcases items with _ | ⟨history, _ | ⟨output, _ | ⟨more, others⟩⟩⟩
    · cases decoded
    · obtain ⟨_, _, same⟩ := bind_ok_iff.mp decoded
      cases same
    · obtain ⟨taken, listed, decoded⟩ := bind_ok_iff.mp decoded
      obtain ⟨texts, finals, same⟩ := bind_ok_iff.mp decoded
      cases same
      rw [textsOfValue_ok_iff.mp finals]
      exact @Encodes.pair history ⟨taken, texts⟩ (listOfValue_ok_iff.mp listed)
    · obtain ⟨_, _, decoded⟩ := bind_ok_iff.mp decoded
      obtain ⟨_, _, same⟩ := bind_ok_iff.mp decoded
      cases same
  · intro encodes
    cases encodes with
    | pair listed =>
      simp only [Transformation.ofItems, listOfValue_ok_iff.mpr listed,
        textsOfValue_ok_iff.mpr rfl]
      rfl

/-- Decoding accepts exactly the encodings, each as what it encodes. -/
theorem ofValue_ok_iff {v : Value} {result : Transformation} :
    Transformation.ofValue v = .ok result ↔ Encodes v result := by
  cases v with
  | record fields => exact ofFields_ok_iff
  | list items => exact ofItems_ok_iff
  | null | boolean | integer | real | text =>
    constructor
    · intro decoded
      cases decoded
    · intro encodes
      cases encodes

/-! Spellings. -/

/-- One of the ways to write a step: a record under short or long names, or a list. -/
inductive StepForm where
  | record (longRule longWords : Bool)
  | pair
  deriving DecidableEq, Repr

def StepForm.write (step : Step) : StepForm → Value
  | .record longRule longWords =>
    .record [(if longRule then "rule_label" else "rule", .text step.rule),
      (if longWords then "words_after" else "words", textsToValue step.words)]
  | .pair => .list [.text step.rule, textsToValue step.words]

/-- Steps from some place on, each written in the form chosen for its place. -/
def writeSteps (form : Nat → StepForm) (place : Nat) : List Step → List Value
  | [] => []
  | step :: steps => (form place).write step :: writeSteps form (place + 1) steps

/-- A step is a step in whatever form it is written. -/
theorem isStep_write (form : StepForm) (step : Step) : IsStep (form.write step) step := by
  cases form with
  | pair => exact .pair step
  | record longRule longWords =>
    refine .record ⟨[], _, [_], rfl, ?_, ?_⟩ ⟨[_], _, [], rfl, ?_, ?_⟩
    · cases longRule <;> decide
    · cases longWords <;> simp
    · cases longWords <;> decide
    · cases longRule <;> simp

theorem isHistory_writeSteps (form : Nat → StepForm) (place : Nat) (steps : List Step) :
    IsHistory (.list (writeSteps form place steps)) steps := by
  refine .steps ?_
  induction steps generalizing place with
  | nil => exact .nil
  | cons step steps ih => exact .cons (isStep_write (form place) step) (ih (place + 1))

/-- A value is decoded as a transformation exactly if it encodes it, and every other value is
reported as a fault of a transformation. So the forms of the steps do not matter: a transformation
whose steps are each written in a form of their own, as a record or as a list of steps and final
forms, is decoded as itself. -/
theorem decoded_exactly_if_encoded (v : Value) :
    (∀ result, Transformation.fromValue v = .ok result ↔ Encodes v result) ∧
    ((¬ ∃ result, Encodes v result) ↔
      ∃ report, Transformation.fromValue v = .error (.transformation report)) ∧
    ∀ (form : Nat → StepForm) (result : Transformation),
      let steps := Value.list (writeSteps form 0 result.history)
      let finals := textsToValue result.output
      Transformation.fromValue (.record [("history", steps), ("output", finals)]) = .ok result ∧
        Transformation.fromValue (.list [steps, finals]) = .ok result := by
  have accepts (v : Value) (result : Transformation) :
      Transformation.fromValue v = .ok result ↔ Encodes v result := by
    rw [Transformation.fromValue, mapError_ok_iff, ofValue_ok_iff]
  refine ⟨accepts v, ⟨?_, ?_⟩, ?_⟩
  · intro none_encoded
    cases decoded : Transformation.ofValue v with
    | ok result => exact absurd ⟨result, ofValue_ok_iff.mp decoded⟩ none_encoded
    | error fault =>
      rw [Transformation.fromValue, decoded]
      exact ⟨_, rfl⟩
  · rintro ⟨report, failed⟩ ⟨result, encodes⟩
    rw [(accepts v result).mpr encodes] at failed
    cases failed
  · intro form result
    have listed := isHistory_writeSteps form 0 result.history
    exact ⟨(accepts _ _).mpr (.record rfl listed rfl), (accepts _ _).mpr (.pair listed)⟩

end SoundChange.Encodings
