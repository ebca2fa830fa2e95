import SoundChange.Proofs.DistinctKeys
import SoundChange.Proofs.JsonReading

/-! A text and its value decode alike. The text is decoded in reading order: steps, words and fields
are taken as their tokens come, and what is not needed is passed over. Wherever a value can be read
at all, each of these readings takes the tokens of that value and succeeds exactly if decoding the
value does, with the same result; and decoding a value does not see that its fields were sorted. -/
namespace SoundChange.ReadingOrder
open DistinctKeys Json JsonReading Transformation.Reading

variable {α β : Type} {outer : Nat} {tokens rest : List Token} {v : Value}

/-- What a part holds and the tokens behind it, if there is a part. -/
def taken : Except EncodingFault (Part α tokens) → Option (α × List Token)
  | .ok part => some (part.value, part.rest)
  | .error _ => none

theorem map_beside (f : α → β) (found : Option α) (rest : List Token) :
    (found.map f).map (·, rest) = (found.map (·, rest)).map fun part => (f part.1, part.2) := by
  cases found <;> rfl

/-! Lists. -/

/-- The items of a value that is a list. -/
def itemsOf? : Value → Option (List Value)
  | .list items => some items
  | _ => none

/-- If the items of a list are taken as they decode, so is the list, and no other value is taken. -/
theorem listOf_taken
    {readItems : (tokens : List Token) → Except EncodingFault (Part (List α) tokens)}
    (decode : List Value → Option (List α)) (empty : decode [] = some [])
    (each : ∀ {tokens rest : List Token} {items : List Value},
      ReadsItems (outer + 1) tokens items rest →
        taken (readItems tokens) = (decode items).map (·, rest))
    (read : readValue (.kept outer) tokens = some (v, rest)) :
    taken (listOf readItems tokens) = ((itemsOf? v).bind decode).map (·, rest) := by
  obtain ⟨token, others, rfl, starts⟩ := starts_of_readValue read
  cases starts with
  | list items =>
    rcases readValue_openList read with ⟨same, rfl⟩ | ⟨items', same, reads⟩
    · rw [same, itemsOf?, Option.bind_some, empty]
      rfl
    · have opened : taken (listOf readItems (.openList :: others)) = taken (readItems others) := by
        rw [listOf]
        · cases readItems others <;> rfl
        · exact reads.inside
      rw [opened, each reads, same]
      rfl
  | null | boolean | integer | real | text | record => rfl

theorem textItems_next (s : String) (tokens : List Token) :
    taken (textItems (.text (some s) :: .comma :: tokens)) =
      (taken (textItems tokens)).map fun part => (s :: part.1, part.2) := by
  rw [textItems]
  cases textItems tokens <;> rfl

/-- The texts of a list are taken as they decode. -/
theorem textItems_taken {items : List Value} (reads : ReadsItems outer tokens items rest) :
    taken (textItems tokens) = (textsOfValues items).toOption.map (·, rest) := by
  induction reads with
  | last read =>
    obtain ⟨token, others, rfl, starts⟩ := starts_of_readValue read
    cases starts <;> rfl
  | @next tokens others rest item items read more ih =>
    obtain ⟨token, tokens, rfl, starts⟩ := starts_of_readValue read
    cases starts with
    | text s =>
      rw [textItems_next, ih, toOption_textsOfValues_cons, map_beside]
    | null | boolean | integer | real | list | record => rfl

theorem textList_taken (read : readValue (.kept outer) tokens = some (v, rest)) :
    taken (textList tokens) = (textsOfValue v).toOption.map (·, rest) := by
  rw [textList, listOf_taken (fun items => (textsOfValues items).toOption) rfl textItems_taken read]
  cases v <;> rfl

/-- The steps of a list are taken as they decode. Such a list stands in a transformation, so each of
its items stands inside two containers. -/
theorem stepItems_taken {items : List Value} (reads : ReadsItems 2 tokens items rest) :
    taken (stepItems tokens) = (Step.ofValues items).toOption.map (·, rest) := by
  induction reads with
  | @last tokens rest item read =>
    rw [toOption_ofValues_cons, stepItems]
    split
    · next failed => rw [read] at failed; cases failed
    · next value behind found =>
      rw [read] at found
      cases found
      cases Step.ofValue? item <;> rfl
  | @next tokens others rest item items read more ih =>
    rw [toOption_ofValues_cons, stepItems]
    split
    · next failed => rw [read] at failed; cases failed
    · next value behind found =>
      rw [read] at found
      cases found
      cases Step.ofValue? item with
      | none => rfl
      | some step =>
        rw [Option.bind_some, map_beside, ← ih]
        dsimp only
        cases stepItems others <;> rfl

theorem stepList_taken (read : readValue (.kept 1) tokens = some (v, rest)) :
    taken (stepList tokens) = (Step.listOfValue v).toOption.map (·, rest) := by
  rw [stepList, listOf_taken (fun items => (Step.ofValues items).toOption) rfl stepItems_taken read]
  cases v <;> rfl

/-! Fields. -/

/-- Passing over a value takes its tokens. -/
theorem skipped_taken (read : readValue (.kept outer) tokens = some (v, rest)) :
    taken (skipped tokens) = some ((), rest) := by
  obtain ⟨w, passed⟩ := readValue_skipped read
  rw [skipped]
  split
  · next failed => rw [passed] at failed; cases failed
  · next found =>
    rw [passed] at found
    cases found
    rfl

/-- One more field of a record, decoded from its value. -/
def entered (before : Fields) (key : String) (v : Value) : Option Fields :=
  if key = "history" then
    if before.history.isSome then none
    else (Step.listOfValue v).toOption.map fun steps => { before with history := some steps }
  else if key = "output" then
    if before.output.isSome then none
    else (textsOfValue v).toOption.map fun words => { before with output := some words }
  else some before

theorem readField_taken (before : Fields) (key : String)
    (read : readValue (.kept 1) tokens = some (v, rest)) :
    taken (readField before (.text (some key) :: .colon :: tokens)) =
      (entered before key v).map (·, rest) := by
  rw [readField, entered]
  split
  · split
    · rfl
    · rw [map_beside, ← stepList_taken read, afterColon]
      cases stepList tokens <;> rfl
  · split
    · split
      · rfl
      · rw [map_beside, ← textList_taken read, afterColon]
        cases textList tokens <;> rfl
    · have passed := skipped_taken read
      rw [afterColon]
      cases ended : skipped tokens with
      | error fault => rw [ended] at passed; cases passed
      | ok part => rw [ended] at passed; cases passed; rfl

/-- The fields of a record, decoded from their values one after the other. -/
def gathered (before : Fields) : List (String × Value) → Option Fields
  | [] => some before
  | (key, v) :: others => (entered before key v).bind fun fields => gathered fields others

/-- After a field there is another one, or the record ends. -/
theorem toOption_readFields {before : Fields} {decoded : Option Fields}
    (field : taken (readField before tokens) = decoded.map (·, rest)) :
    (readFields before tokens).toOption = decoded.bind fun fields =>
      match rest with
      | .comma :: others => (readFields fields others).toOption
      | .closeRecord :: others => some (fields, others)
      | _ => none := by
  rw [readFields]
  cases found : readField before tokens with
  | error fault =>
    rw [found] at field
    rw [Option.map_eq_none_iff.mp field.symm]
    rfl
  | ok part =>
    rw [found] at field
    obtain ⟨fields, rfl, same⟩ := Option.map_eq_some_iff.mp field.symm
    obtain ⟨value, behind, shorter⟩ := part
    cases same
    -- Only these two separators let the record go on or end.
    rw [Option.bind_some]
    rcases behind with _ | ⟨_ | _ | _ | _ | _ | _ | _ | _ | _ | _ | _, _⟩ <;> rfl

/-- The fields of a record are taken as they decode. -/
theorem readFields_taken {before : Fields} {fields : List (String × Value)}
    (reads : ReadsFields 1 tokens fields rest) :
    (readFields before tokens).toOption = (gathered before fields).map (·, rest) := by
  induction reads generalizing before with
  | @last tokens rest key v read =>
    rw [toOption_readFields (readField_taken before key read), gathered]
    cases entered before key v <;> rfl
  | @next tokens others rest key v fields read more ih =>
    rw [toOption_readFields (readField_taken before key read), gathered]
    cases entered before key v with
    | none => rfl
    | some fields => exact ih

/-- What a record has under a key, after what was read before. -/
def found (key : String) (decode : Value → Option α) (before : Option α)
    (fields : List (String × Value)) : Option (Option α) :=
  match Value.field? key fields with
  | some v => (decode v).map some
  | none => some before

theorem found_here {key : String} {fields : List (String × Value)} (decode : Value → Option α)
    (before : Option α) (v : Value) :
    found key decode before ((key, v) :: fields) = (decode v).map some := by
  rw [found, Value.field?, if_pos rfl]

theorem found_later {key other : String} {fields : List (String × Value)}
    (decode : Value → Option α) (before : Option α) (v : Value) (unlike : other ≠ key) :
    found key decode before ((other, v) :: fields) = found key decode before fields := by
  rw [found, found, Value.field?, if_neg unlike]

theorem found_absent {key : String} {fields : List (String × Value)} (decode : Value → Option α)
    (before : Option α) (absent : key ∉ fields.map Prod.fst) :
    found key decode before fields = some before := by
  rw [found, field?_eq_none absent]

/-- If no key is repeated, the order in which fields are gathered does not matter. -/
theorem gathered_eq {before : Fields} {fields : List (String × Value)}
    (keys : (fields.map Prod.fst).Nodup)
    (history : before.history.isSome → "history" ∉ fields.map Prod.fst)
    (output : before.output.isSome → "output" ∉ fields.map Prod.fst) :
    gathered before fields =
      (found "history" (fun v => (Step.listOfValue v).toOption) before.history fields).bind
        fun history =>
          (found "output" (fun v => (textsOfValue v).toOption) before.output fields).map
            fun output => ⟨history, output⟩ := by
  induction fields generalizing before with
  | nil => rfl
  | cons field fields ih =>
    obtain ⟨key, v⟩ := field
    obtain ⟨once, others⟩ := List.nodup_cons.mp keys
    have later {name : String} (absent : name ∉ ((key, v) :: fields).map Prod.fst) :
        name ∉ fields.map Prod.fst := fun member => absent (List.mem_cons_of_mem _ member)
    rw [gathered, entered]
    -- A key that was met is absent from the fields behind it, where `found` keeps what was read.
    by_cases steps : key = "history"
    · subst steps
      have fresh : ¬ before.history.isSome := fun present => history present List.mem_cons_self
      rw [if_pos rfl, if_neg fresh, found_here, found_later _ _ _ (by decide)]
      cases (Step.listOfValue v).toOption with
      | none => rfl
      | some steps =>
        have gathers := @ih ⟨some steps, before.output⟩ others (fun _ => once)
          fun present => later (output present)
        rw [Option.map_some, Option.bind_some, gathers, found_absent _ _ once]
        rfl
    · rw [if_neg steps, found_later _ _ _ steps]
      by_cases words : key = "output"
      · subst words
        have fresh : ¬ before.output.isSome := fun present => output present List.mem_cons_self
        rw [if_pos rfl, if_neg fresh, found_here]
        cases (textsOfValue v).toOption with
        | none =>
          cases found "history" (fun v => (Step.listOfValue v).toOption) before.history fields <;> rfl
        | some words =>
          have gathers := @ih ⟨before.history, some words⟩ others
            (fun present => later (history present)) fun _ => once
          rw [Option.map_some, Option.bind_some, gathers, found_absent _ _ once]
          rfl
      · rw [if_neg words, found_later _ _ _ words]
        exact ih others (fun present => later (history present))
          fun present => later (output present)

theorem stepsIn_eq_found (fields : List (String × Value)) :
    stepsIn fields =
      (found "history" (fun v => (Step.listOfValue v).toOption) none fields).map (·.getD []) := by
  rw [stepsIn, found]
  cases Value.field? "history" fields with
  | none => rfl
  | some v => dsimp only; cases (Step.listOfValue v).toOption <;> rfl

theorem finalsIn_eq_found (fields : List (String × Value)) :
    finalsIn fields =
      (found "output" (fun v => (textsOfValue v).toOption) none fields).bind id := by
  rw [finalsIn, found]
  cases Value.field? "output" fields with
  | none => rfl
  | some v => dsimp only [Option.bind_some]; cases (textsOfValue v).toOption <;> rfl

/-- The fields of a record, gathered in any order, make the transformation of the record. -/
theorem ofReadFields_gathered {fields : List (String × Value)}
    (keys : (fields.map Prod.fst).Nodup) :
    ((gathered ⟨none, none⟩ fields).bind fun fields => (ofReadFields fields).toOption) =
      (Transformation.ofFields fields).toOption := by
  have nothing {γ : Type} {name : String} (present : (none : Option γ).isSome) :
      name ∉ fields.map Prod.fst := absurd present Bool.false_ne_true
  rw [gathered_eq keys nothing nothing, toOption_ofFields, stepsIn_eq_found, finalsIn_eq_found]
  generalize found "history" _ none fields = steps
  generalize found "output" _ none fields = words
  rcases steps with _ | steps
  · rfl
  · rcases words with _ | _ | words <;> rfl

/-! Transformations. -/

/-- A record that is not empty makes a transformation of its fields. -/
theorem toOption_readRecord (inside : ∀ others, tokens ≠ .closeRecord :: others) :
    (readRecord tokens).toOption = (readFields ⟨none, none⟩ tokens).toOption.bind fun read =>
      (ofReadFields read.1).toOption.map (·, read.2) := by
  rw [readRecord]
  · cases readFields ⟨none, none⟩ tokens with
    | error fault => rfl
    | ok read =>
      obtain ⟨⟨history, output⟩, rest⟩ := read
      cases output <;> rfl
  · exact inside

theorem readRecord_taken (distinct : Distinct v)
    (read : readValue (.kept 0) (.openRecord :: tokens) = some (v, rest)) :
    (readRecord tokens).toOption = (Transformation.ofValue v).toOption.map (·, rest) := by
  rcases readValue_openRecord read with ⟨rfl, rfl⟩ | ⟨fields, rfl, reads⟩
  · rfl
  · have inside : ∀ others, tokens ≠ .closeRecord :: others := by
      rintro others rfl
      cases reads
    obtain ⟨keys, _⟩ := distinct_record_iff.mp distinct
    rw [toOption_readRecord inside, readFields_taken reads, Transformation.ofValue,
      ← ofReadFields_gathered keys]
    cases gathered ⟨none, none⟩ fields <;> rfl

/-- A list that is not empty holds steps, final forms and nothing else. -/
theorem toOption_readPair (inside : ∀ others, tokens ≠ .closeList :: others) :
    (readPair tokens).toOption = (taken (stepList tokens)).bind fun steps =>
      match steps.2 with
      | .comma :: others => (taken (textList others)).bind fun words =>
        match words.2 with
        | .closeList :: rest => some (⟨steps.1, words.1⟩, rest)
        | _ => none
      | _ => none := by
  rw [readPair]
  · cases stepList tokens with
    | error fault => rfl
    | ok part =>
      obtain ⟨steps, behind, _⟩ := part
      rcases behind with _ | ⟨separator, others⟩
      · rfl
      · cases separator with
        | comma =>
          simp only [taken, Option.bind_some]
          cases textList others with
          | error fault => rfl
          | ok words =>
            obtain ⟨words, behind, _⟩ := words
            rcases behind with _ | ⟨_ | _ | _ | _ | _ | _ | _ | _ | _ | _ | _, _⟩ <;> rfl
        | null | boolean | number | text | openList | openRecord | closeList | closeRecord | colon
        | invalid => rfl
  · exact inside

/-- The first two items of a list are taken as they decode, and the list must end behind them. -/
theorem readPair_items {history output : Value} {others : List Token}
    (inside : ∀ others, tokens ≠ .closeList :: others)
    (first : readValue (.kept 1) tokens = some (history, .comma :: others))
    (second : readValue (.kept 1) others = some (output, rest)) :
    (readPair tokens).toOption =
      (Step.listOfValue history).toOption.bind fun steps =>
        (textsOfValue output).toOption.bind fun words =>
          match rest with
          | .closeList :: rest => some (⟨steps, words⟩, rest)
          | _ => none := by
  rw [toOption_readPair inside, stepList_taken first]
  cases (Step.listOfValue history).toOption with
  | none => rfl
  | some steps =>
    rw [Option.map_some, Option.bind_some, Option.bind_some]
    dsimp only
    rw [textList_taken second]
    cases (textsOfValue output).toOption <;> rfl

theorem readPair_taken (read : readValue (.kept 0) (.openList :: tokens) = some (v, rest)) :
    (readPair tokens).toOption = (Transformation.ofValue v).toOption.map (·, rest) := by
  rcases readValue_openList read with ⟨rfl, rfl⟩ | ⟨items, rfl, reads⟩
  · rfl
  · have inside := reads.inside
    rw [Transformation.ofValue]
    cases reads with
    | @last _ _ history first =>
      rw [toOption_readPair inside, stepList_taken first, toOption_ofItems_of_ne (by simp)]
      cases (Step.listOfValue history).toOption <;> rfl
    | @next _ _ _ history _ first more =>
      cases more with
      | @last _ _ output second =>
        rw [readPair_items inside first second, toOption_ofItems_pair]
        cases (Step.listOfValue history).toOption with
        | none => rfl
        | some steps => cases (textsOfValue output).toOption <;> rfl
      | @next _ _ _ output items second more =>
        have longer : 0 < items.length := by
          cases more <;> exact Nat.zero_lt_succ _
        rw [readPair_items inside first second,
          toOption_ofItems_of_ne (by simp only [List.length_cons]; omega)]
        cases (Step.listOfValue history).toOption with
        | none => rfl
        | some steps => cases (textsOfValue output).toOption <;> rfl

/-- A transformation is taken as its value decodes. -/
theorem readTransformation_taken (distinct : Distinct v)
    (read : readValue (.kept 0) tokens = some (v, rest)) :
    (readTransformation tokens).toOption = (Transformation.ofValue v).toOption.map (·, rest) := by
  obtain ⟨token, others, rfl, starts⟩ := starts_of_readValue read
  cases starts with
  | record => exact readRecord_taken distinct read
  | list => exact readPair_taken read
  | null | boolean | integer | real | text => rfl

/-- The value of a text that holds exactly one value, with its fields as they are written. -/
def written? (text : List Char) : Option Value :=
  match readValue (.kept 0) (lex text) with
  | some (v, []) => some v
  | _ => none

theorem written?_eq_some_iff {text : List Char} :
    written? text = some v ↔ readValue (.kept 0) (lex text) = some (v, []) := by
  rw [written?]
  rcases readValue (.kept 0) (lex text) with _ | ⟨w, _ | ⟨token, others⟩⟩ <;> simp

theorem parse?_eq (text : List Char) : parse? text = (written? text).map Value.tidy := by
  rw [parse?, written?]
  rcases readValue (.kept 0) (lex text) with _ | ⟨w, _ | ⟨token, others⟩⟩ <;> rfl

theorem toOption_ofText {text : String} (distinct : Distinct v)
    (written : written? text.toList = some v) :
    (Transformation.ofText text).toOption = (Transformation.ofValue v).toOption := by
  have read := readTransformation_taken distinct (written?_eq_some_iff.mp written)
  rw [Transformation.ofText]
  cases taken : readTransformation (lex text.toList) with
  | error fault =>
    rw [taken] at read
    rw [Option.map_eq_none_iff.mp read.symm]
    rfl
  | ok part =>
    rw [taken] at read
    obtain ⟨result, decoded, same⟩ := Option.map_eq_some_iff.mp read.symm
    cases same
    exact decoded.symm

/-- Decoding a text and decoding the value of the text succeed alike, with the same transformation,
and fail alike, for every text that holds one value and repeats no key in a record. -/
theorem text_and_value_decode_alike {text : String} {value : Value}
    (parsed : Json.parse? text.toList = some value)
    (distinct : ∀ written, written? text.toList = some written → Distinct written) :
    (∃ result, Transformation.fromText text = .ok result ∧
      Transformation.fromValue value = .ok result) ∨
    ∃ report report', Transformation.fromText text = .error (.transformation report) ∧
      Transformation.fromValue value = .error (.transformation report') := by
  obtain ⟨written, holds, rfl⟩ := Option.map_eq_some_iff.mp ((parse?_eq _).symm.trans parsed)
  have alike : (Transformation.ofText text).toOption =
      (Transformation.ofValue written.tidy).toOption := by
    rw [toOption_ofText (distinct written holds) holds, ofValue_tidy (distinct written holds)]
  rw [Transformation.fromText, Transformation.fromValue]
  cases streamed : Transformation.ofText text with
  | ok result =>
    cases decoded : Transformation.ofValue written.tidy with
    | ok result' =>
      rw [streamed, decoded] at alike
      cases alike
      exact .inl ⟨result, rfl, rfl⟩
    | error fault => rw [streamed, decoded] at alike; cases alike
  | error fault =>
    cases decoded : Transformation.ofValue written.tidy with
    | ok result' => rw [streamed, decoded] at alike; cases alike
    | error fault' => exact .inr ⟨_, _, rfl, rfl⟩

/-- A transformation with its fields in no order, one of them passed over. -/
def shuffledText : String :=
  "\x7b\"output\":[\"dada\"],\"note\":1," ++
    "\"history\":[\x7b\"words_after\":[\"dada\"],\"rule\":\"voicing\"\x7d]\x7d"

def shuffledValue : Value :=
  .record [("output", .list [.text "dada"]), ("note", .integer 1),
    ("history",
      .list [.record [("words_after", .list [.text "dada"]), ("rule", .text "voicing")]])]

theorem written_shuffledText : written? shuffledText.toList = some shuffledValue := rfl

theorem distinct_shuffledValue : Distinct shuffledValue := by
  simp [shuffledValue, distinct_record_iff, distinct_list_iff, Distinct.text, Distinct.integer]

theorem shuffled_transformation_decodes_alike :
    Json.parse? shuffledText.toList = some shuffledValue.tidy ∧
      (∀ written, written? shuffledText.toList = some written → Distinct written) ∧
      Transformation.fromText shuffledText = .ok ⟨[⟨"voicing", ["dada"]⟩], ["dada"]⟩ := by
  have parsed : Json.parse? shuffledText.toList = some shuffledValue.tidy := by
    rw [parse?_eq, written_shuffledText, Option.map_some]
  have distinct (written : Value) (holds : written? shuffledText.toList = some written) :
      Distinct written := by
    rw [written_shuffledText] at holds
    cases holds
    exact distinct_shuffledValue
  have decoded : Transformation.fromValue shuffledValue.tidy =
      .ok ⟨[⟨"voicing", ["dada"]⟩], ["dada"]⟩ := rfl
  refine ⟨parsed, distinct, ?_⟩
  rcases text_and_value_decode_alike parsed distinct with ⟨result, read, same⟩ | ⟨_, _, _, failed⟩
  · rw [decoded] at same
    cases same
    exact read
  · rw [decoded] at failed
    cases failed

end SoundChange.ReadingOrder
