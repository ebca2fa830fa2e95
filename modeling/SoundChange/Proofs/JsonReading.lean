import SoundChange.Proofs.JsonRoundTrip
import Mathlib.Data.List.Forall2

/-! Reading a container reads its items. The reader of values keeps all open containers on one stack;
what it reads between two separators is what a reader started there reads for itself, standing inside
as many containers. A value that is kept can also be passed over, which takes the same tokens. -/
namespace SoundChange.JsonReading
open Json JsonRoundTrip

variable {outer : Nat} {tokens rest : List Token} {v : Value}

/-- The items of a list, each read for itself inside so many containers, up to the end of the list
and with the tokens behind it. -/
inductive ReadsItems (outer : Nat) : List Token → List Value → List Token → Prop
  | last {tokens rest : List Token} {item : Value}
      (read : readValue (.kept outer) tokens = some (item, .closeList :: rest)) :
    ReadsItems outer tokens [item] rest
  | next {tokens others rest : List Token} {item : Value} {items : List Value}
      (read : readValue (.kept outer) tokens = some (item, .comma :: others))
      (more : ReadsItems outer others items rest) :
    ReadsItems outer tokens (item :: items) rest

/-- The fields of a record, likewise. -/
inductive ReadsFields (outer : Nat) :
    List Token → List (String × Value) → List Token → Prop
  | last {tokens rest : List Token} {key : String} {v : Value}
      (read : readValue (.kept outer) tokens = some (v, .closeRecord :: rest)) :
    ReadsFields outer (.text (some key) :: .colon :: tokens) [(key, v)] rest
  | next {tokens others rest : List Token} {key : String} {v : Value}
      {fields : List (String × Value)}
      (read : readValue (.kept outer) tokens = some (v, .comma :: others))
      (more : ReadsFields outer others fields rest) :
    ReadsFields outer (.text (some key) :: .colon :: tokens) ((key, v) :: fields) rest

/-! The stack. -/

/-- More containers further out take the place of the count of containers. -/
theorem mayOpen_append (frames base : List Frame) :
    mayOpen (.kept outer) (frames ++ base) = mayOpen (.kept (outer + base.length)) frames := by
  simp only [mayOpen, List.length_append]
  congr 1
  simp only [eq_iff_iff]
  omega

/-- Puts more containers below the stack. -/
def onto (base : List Frame) (reached : Mode × List Frame) : Mode × List Frame :=
  (reached.1, reached.2 ++ base)

theorem stepValue_append (frames base : List Frame) (token : Token) :
    stepValue (.kept outer) (frames ++ base) token =
      (stepValue (.kept (outer + base.length)) frames token).map (onto base) := by
  cases token with
  | openList | openRecord =>
    simp only [stepValue, mayOpen_append]
    split <;> rfl
  | number n =>
    simp only [stepValue, numberValue?, Option.map_map]
    rfl
  | text s =>
    simp only [stepValue, textValue?, Option.map_map]
    rfl
  | null | boolean | closeList | closeRecord | colon | comma | invalid => rfl

theorem stepKey_append (frames base : List Frame) (token : Token) :
    stepKey (.kept outer) (frames ++ base) token =
      (stepKey (.kept (outer + base.length)) frames token).map (onto base) := by
  cases token with
  | text s =>
    simp only [stepKey, textValue?, Option.map_map]
    rfl
  | null | boolean | number | openList | openRecord | closeList | closeRecord | colon | comma
  | invalid => rfl

/-- Where a list could end, any other token starts a value. -/
theorem step_itemOrClose {care : Care} {frames : List Frame} {token : Token}
    (other : token ≠ .closeList) :
    step care .itemOrClose frames token = stepValue care frames token := by
  rw [step]
  intro _ _ _ same
  exact absurd same other

theorem step_keyOrClose {care : Care} {frames : List Frame} {token : Token}
    (other : token ≠ .closeRecord) :
    step care .keyOrClose frames token = stepKey care frames token := by
  rw [step]
  intro _ _ _ same
  exact absurd same other

/-- A reader that stands inside a value, or in front of it, does not look at the containers
around. -/
theorem step_append {mode : Mode} {frames : List Frame} (base : List Frame) (token : Token)
    (inside : frames ≠ [] ∨ mode = .value) :
    step (.kept outer) mode (frames ++ base) token =
      (step (.kept (outer + base.length)) mode frames token).map (onto base) := by
  cases frames with
  | nil =>
    obtain rfl : mode = .value := inside.resolve_left (absurd rfl)
    exact stepValue_append [] base token
  | cons frame frames =>
    have value := @stepValue_append outer (frame :: frames) base token
    have key := @stepKey_append outer (frame :: frames) base token
    rw [List.cons_append] at value key ⊢
    cases mode with
    | value => exact value
    | key => exact key
    | itemOrClose =>
      by_cases ends : token = .closeList
      · subst ends
        cases frame <;> rfl
      · rw [step_itemOrClose ends, step_itemOrClose ends, value]
    | keyOrClose =>
      by_cases ends : token = .closeRecord
      · subst ends
        cases frame <;> rfl
      · rw [step_keyOrClose ends, step_keyOrClose ends, key]
    | colon name => cases frame <;> cases token <;> rfl
    | done w => cases frame <;> cases token <;> rfl

/-- A reader stands inside a value, in front of it, or right behind it. -/
def Inside (mode : Mode) (frames : List Frame) : Prop :=
  frames ≠ [] ∨ mode = .value ∨ ∃ w, mode = .done w

/-- Behind a value with nothing open around it, the reader is done; else it goes on. -/
theorem Inside.pending_or_done {mode : Mode} {frames : List Frame} (inside : Inside mode frames) :
    (frames ≠ [] ∨ mode = .value) ∨ ∃ w, mode = .done w ∧ frames = [] := by
  by_cases closed : frames = []
  · rcases inside with opened | started | ⟨w, done⟩
    · exact absurd closed opened
    · exact .inl (.inr started)
    · exact .inr ⟨w, done, closed⟩
  · exact .inl (.inl closed)

theorem inside_of_stepValue {care : Care} {mode' : Mode} {frames frames' : List Frame}
    {token : Token} (stepped : stepValue care frames token = some (mode', frames')) :
    Inside mode' frames' := by
  cases token with
  | null | boolean =>
    cases stepped
    exact .inr (.inr ⟨_, rfl⟩)
  | number n =>
    obtain ⟨w, _, same⟩ := Option.map_eq_some_iff.mp stepped
    cases same
    exact .inr (.inr ⟨w, rfl⟩)
  | text s =>
    obtain ⟨w, _, same⟩ := Option.map_eq_some_iff.mp stepped
    cases same
    exact .inr (.inr ⟨_, rfl⟩)
  | openList | openRecord =>
    rw [stepValue] at stepped
    split at stepped
    · cases stepped
      exact .inl (List.cons_ne_nil _ _)
    · cases stepped
  | closeList | closeRecord | colon | comma | invalid => cases stepped

theorem inside_of_stepKey {care : Care} {mode' : Mode} {frames frames' : List Frame}
    {token : Token} (opened : frames ≠ [])
    (stepped : stepKey care frames token = some (mode', frames')) : Inside mode' frames' := by
  cases token with
  | text s =>
    obtain ⟨w, _, same⟩ := Option.map_eq_some_iff.mp stepped
    cases same
    exact .inl opened
  | null | boolean | number | openList | openRecord | closeList | closeRecord | colon | comma
  | invalid => cases stepped

theorem inside_of_step {care : Care} {mode mode' : Mode} {frames frames' : List Frame}
    {token : Token} (pending : frames ≠ [] ∨ mode = .value)
    (stepped : step care mode frames token = some (mode', frames')) : Inside mode' frames' := by
  cases frames with
  | nil =>
    obtain rfl : mode = .value := pending.resolve_left (absurd rfl)
    exact inside_of_stepValue stepped
  | cons frame frames =>
    have opened : frame :: frames ≠ [] := List.cons_ne_nil _ _
    cases mode with
    | value => exact inside_of_stepValue stepped
    | key => exact inside_of_stepKey opened stepped
    | itemOrClose =>
      by_cases ends : token = .closeList
      · subst ends
        cases frame <;> cases stepped
        exact .inr (.inr ⟨_, rfl⟩)
      · rw [step_itemOrClose ends] at stepped
        exact inside_of_stepValue stepped
    | keyOrClose =>
      by_cases ends : token = .closeRecord
      · subst ends
        cases frame <;> cases stepped
        exact .inr (.inr ⟨_, rfl⟩)
      · rw [step_keyOrClose ends] at stepped
        exact inside_of_stepKey opened stepped
    | colon name =>
      cases frame <;> cases token <;> cases stepped
      exact .inr (.inl rfl)
    | done w =>
      cases frame <;> cases token <;> cases stepped
      · exact .inr (.inr ⟨_, rfl⟩)
      · exact .inr (.inl rfl)
      · exact .inr (.inr ⟨_, rfl⟩)
      · exact .inl (List.cons_ne_nil _ _)

theorem run_done (care : Care) (w : Value) (tokens : List Token) :
    run care (.done w) [] tokens = some (w, tokens) := by
  rw [run]

/-- A reader that is not done needs one more token that it can take. -/
theorem step_of_run {care : Care} {mode : Mode} {frames : List Frame}
    (pending : frames ≠ [] ∨ mode = .value)
    (read : run care mode frames tokens = some (v, rest)) :
    ∃ token others mode' frames', tokens = token :: others ∧
      step care mode frames token = some (mode', frames') ∧
      run care mode' frames' others = some (v, rest) := by
  unfold run at read
  split at read
  · next w =>
    rcases pending with opened | same
    · exact absurd rfl opened
    · cases same
  · cases read
  · next token others _ =>
    cases stepped : step care mode frames token with
    | none => rw [stepped] at read; cases read
    | some reached =>
      rw [stepped] at read
      exact ⟨token, others, reached.1, reached.2, rfl, stepped, read⟩

/-- A reader inside a value comes to the end of this value first, as if nothing stood around it. -/
theorem run_inside {mode : Mode} {frames : List Frame} (base : List Frame)
    (inside : Inside mode frames)
    (read : run (.kept outer) mode (frames ++ base) tokens = some (v, rest)) :
    ∃ item behind,
      run (.kept (outer + base.length)) mode frames tokens = some (item, behind) ∧
        run (.kept outer) (.done item) base behind = some (v, rest) := by
  have surrounded {mode : Mode} {frames : List Frame} (pending : frames ≠ [] ∨ mode = .value) :
      frames ++ base ≠ [] ∨ mode = .value :=
    pending.imp_left fun opened => List.append_ne_nil_of_left_ne_nil opened base
  -- Along the tokens; the frames over the base are the whole stack of the reader of the item.
  induction tokens generalizing mode frames with
  | nil =>
    rcases inside.pending_or_done with pending | ⟨w, rfl, rfl⟩
    · obtain ⟨_, _, _, _, same, _⟩ := step_of_run (surrounded pending) read
      cases same
    · exact ⟨w, [], run_done _ w [], read⟩
  | cons token others ih =>
    rcases inside.pending_or_done with pending | ⟨w, rfl, rfl⟩
    · obtain ⟨_, _, mode', frames', same, stepped, read⟩ := step_of_run (surrounded pending) read
      cases same
      rw [step_append base token pending] at stepped
      obtain ⟨reached, taken, same⟩ := Option.map_eq_some_iff.mp stepped
      cases same
      obtain ⟨item, behind, first, later⟩ := ih (inside_of_step pending taken) read
      refine ⟨item, behind, ?_, later⟩
      have undone : frames ≠ [] ∨ ∀ w, mode ≠ .done w := by
        rcases pending with opened | rfl
        · exact .inl opened
        · exact .inr fun _ => Mode.noConfusion
      rw [run_cons others undone taken, first]
    · exact ⟨w, token :: others, run_done _ w _, read⟩

/-! Containers. -/

/-- The next value of a container is read for itself, and then the container goes on. -/
theorem run_value (base : List Frame)
    (read : run (.kept outer) .value base tokens = some (v, rest)) :
    ∃ item behind, readValue (.kept (outer + base.length)) tokens = some (item, behind) ∧
      run (.kept outer) (.done item) base behind = some (v, rest) :=
  run_inside base (.inr (.inl rfl)) read

/-- The items of a list after those already read. -/
theorem readsItems_of_run {tokens : List Token} {before : List Value}
    (read : run (.kept outer) .value [.list before] tokens = some (v, rest)) :
    ∃ items, v = .list (before.reverse ++ items) ∧ ReadsItems (outer + 1) tokens items rest := by
  obtain ⟨item, behind, first, read⟩ := run_value _ read
  have shorter := length_of_readValue first
  obtain ⟨token, others, mode', frames', rfl, stepped, read⟩ :=
    step_of_run (.inl (List.cons_ne_nil _ _)) read
  cases token with
  | comma =>
    cases stepped
    have fewer : others.length < tokens.length := by
      rw [List.length_cons] at shorter
      omega
    obtain ⟨items, rfl, more⟩ := readsItems_of_run read
    refine ⟨item :: items, ?_, .next first more⟩
    rw [List.reverse_cons, List.append_assoc, List.singleton_append]
  | closeList =>
    cases stepped
    rw [run_done] at read
    cases read
    exact ⟨[item], by rw [List.reverse_cons], .last first⟩
  | null | boolean | number | text | openList | openRecord | closeRecord | colon | invalid =>
    cases stepped
termination_by tokens.length

/-- The next field of a record: its name, and its value read for itself. -/
theorem run_field {before : List (String × Value)}
    (read : run (.kept outer) .key [.record before] tokens = some (v, rest)) :
    ∃ key others item behind, tokens = .text (some key) :: .colon :: others ∧
      readValue (.kept (outer + 1)) others = some (item, behind) ∧
      run (.kept outer) (.done item) [.field before key] behind = some (v, rest) := by
  obtain ⟨named, tokens, mode', frames', rfl, stepped, read⟩ :=
    step_of_run (.inl (List.cons_ne_nil _ _)) read
  cases named with
  | text s =>
    obtain ⟨key, kept, same⟩ := Option.map_eq_some_iff.mp stepped
    cases kept
    cases same
    obtain ⟨separator, others, mode', frames', rfl, stepped, read⟩ :=
      step_of_run (.inl (List.cons_ne_nil _ _)) read
    cases separator with
    | colon =>
      cases stepped
      obtain ⟨item, behind, first, read⟩ := run_value _ read
      exact ⟨key, others, item, behind, rfl, first, read⟩
    | null | boolean | number | text | openList | openRecord | closeList | closeRecord | comma
    | invalid => cases stepped
  | null | boolean | number | openList | openRecord | closeList | closeRecord | colon | comma
  | invalid => cases stepped

/-- The fields of a record after those already read. -/
theorem readsFields_of_run {tokens : List Token} {before : List (String × Value)}
    (read : run (.kept outer) .key [.record before] tokens = some (v, rest)) :
    ∃ fields, v = .record (before.reverse ++ fields) ∧
      ReadsFields (outer + 1) tokens fields rest := by
  obtain ⟨key, tokens, item, behind, rfl, first, read⟩ := run_field read
  have shorter := length_of_readValue first
  obtain ⟨token, others, mode', frames', rfl, stepped, read⟩ :=
    step_of_run (.inl (List.cons_ne_nil _ _)) read
  cases token with
  | comma =>
    cases stepped
    have fewer : others.length < (Token.text (some key) :: .colon :: tokens).length := by
      rw [List.length_cons] at shorter ⊢
      rw [List.length_cons]
      omega
    obtain ⟨fields, rfl, more⟩ := readsFields_of_run read
    refine ⟨(key, item) :: fields, ?_, .next first more⟩
    rw [List.reverse_cons, List.append_assoc, List.singleton_append]
  | closeRecord =>
    cases stepped
    rw [run_done] at read
    cases read
    exact ⟨[(key, item)], by rw [List.reverse_cons], .last first⟩
  | null | boolean | number | text | openList | openRecord | closeList | colon | invalid =>
    cases stepped
termination_by tokens.length

/-- Opening a container goes on inside it. -/
theorem run_of_opening {token : Token} {mode : Mode} {frame : Frame}
    (opens : ∀ reached, step (.kept outer) .value [] token = some reached →
      reached = (mode, [frame]))
    (read : readValue (.kept outer) (token :: tokens) = some (v, rest)) :
    run (.kept outer) mode [frame] tokens = some (v, rest) := by
  obtain ⟨_, _, mode', frames', same, stepped, read⟩ := step_of_run (.inr rfl) read
  cases same
  cases opens _ stepped
  exact read

/-- A list is empty, or it is its items. -/
theorem readValue_openList
    (read : readValue (.kept outer) (.openList :: tokens) = some (v, rest)) :
    (v = .list [] ∧ tokens = .closeList :: rest) ∨
      ∃ items, v = .list items ∧ ReadsItems (outer + 1) tokens items rest := by
  have opened : run (.kept outer) .itemOrClose [.list []] tokens = some (v, rest) := by
    refine run_of_opening (fun reached stepped => ?_) read
    rw [step, stepValue] at stepped
    split at stepped <;> cases stepped
    rfl
  obtain ⟨token, others, mode', frames', rfl, stepped, read⟩ :=
    step_of_run (.inl (List.cons_ne_nil _ _)) opened
  by_cases ends : token = .closeList
  · subst ends
    cases stepped
    rw [run_done] at read
    cases read
    exact .inl ⟨rfl, rfl⟩
  · rw [step_itemOrClose ends] at stepped
    have value : step (.kept outer) .value [.list []] token = some (mode', frames') := stepped
    rw [← run_cons others (.inl (List.cons_ne_nil _ _)) value] at read
    obtain ⟨items, rfl, reads⟩ := readsItems_of_run read
    exact .inr ⟨items, rfl, reads⟩

/-- A record is empty, or it is its fields. -/
theorem readValue_openRecord
    (read : readValue (.kept outer) (.openRecord :: tokens) = some (v, rest)) :
    (v = .record [] ∧ tokens = .closeRecord :: rest) ∨
      ∃ fields, v = .record fields ∧ ReadsFields (outer + 1) tokens fields rest := by
  have opened : run (.kept outer) .keyOrClose [.record []] tokens = some (v, rest) := by
    refine run_of_opening (fun reached stepped => ?_) read
    rw [step, stepValue] at stepped
    split at stepped <;> cases stepped
    rfl
  obtain ⟨token, others, mode', frames', rfl, stepped, read⟩ :=
    step_of_run (.inl (List.cons_ne_nil _ _)) opened
  by_cases ends : token = .closeRecord
  · subst ends
    cases stepped
    rw [run_done] at read
    cases read
    exact .inl ⟨rfl, rfl⟩
  · rw [step_keyOrClose ends] at stepped
    have named : step (.kept outer) .key [.record []] token = some (mode', frames') := stepped
    rw [← run_cons others (.inl (List.cons_ne_nil _ _)) named] at read
    obtain ⟨fields, rfl, reads⟩ := readsFields_of_run read
    exact .inr ⟨fields, rfl, reads⟩

/-! What the first token says about a value. -/

/-- The first token of a value tells its kind, and a text is this token alone. -/
inductive Starts : Token → List Token → Value → List Token → Prop
  | null (tokens : List Token) : Starts .null tokens .null tokens
  | boolean (b : Bool) (tokens : List Token) : Starts (.boolean b) tokens (.boolean b) tokens
  | integer (n : Numeral) (i : Int) (tokens : List Token) :
    Starts (.number n) tokens (.integer i) tokens
  | real (n : Numeral) (x : Float) (tokens : List Token) : Starts (.number n) tokens (.real x) tokens
  | text (s : String) (tokens : List Token) : Starts (.text (some s)) tokens (.text s) tokens
  | list (items : List Value) (tokens rest : List Token) : Starts .openList tokens (.list items) rest
  | record (fields : List (String × Value)) (tokens rest : List Token) :
    Starts .openRecord tokens (.record fields) rest

theorem starts_of_readValue_cons {token : Token}
    (read : readValue (.kept outer) (token :: tokens) = some (v, rest)) :
    Starts token tokens v rest := by
  have complete {w : Value} (stepped : step (.kept outer) .value [] token = some (.done w, [])) :
      w = v ∧ tokens = rest := by
    rw [readValue, run_cons tokens (.inr fun _ => Mode.noConfusion) stepped, run_done] at read
    cases read
    exact ⟨rfl, rfl⟩
  cases token with
  | null =>
    obtain ⟨rfl, rfl⟩ := complete rfl
    exact .null tokens
  | boolean b =>
    obtain ⟨rfl, rfl⟩ := complete rfl
    exact .boolean b tokens
  | number n =>
    obtain ⟨_, _, mode', frames', same, stepped, _⟩ := step_of_run (.inr rfl) read
    cases same
    obtain ⟨w, valued, same⟩ := Option.map_eq_some_iff.mp stepped
    cases same
    obtain ⟨rfl, rfl⟩ := complete stepped
    have number : n.value? = some w := valued
    rw [Numeral.value?] at number
    cases whole : n.whole? with
    | some i =>
      rw [whole] at number
      cases number
      exact .integer n i tokens
    | none =>
      rw [whole] at number
      obtain ⟨x, _, rfl⟩ := Option.map_eq_some_iff.mp number
      exact .real n _ tokens
  | text s =>
    obtain ⟨_, _, mode', frames', same, stepped, _⟩ := step_of_run (.inr rfl) read
    cases same
    obtain ⟨text, kept, same⟩ := Option.map_eq_some_iff.mp stepped
    cases same
    obtain ⟨rfl, rfl⟩ := complete stepped
    cases kept
    exact .text text tokens
  | openList =>
    rcases readValue_openList read with ⟨rfl, _⟩ | ⟨items, rfl, _⟩
    · exact .list [] tokens rest
    · exact .list items tokens rest
  | openRecord =>
    rcases readValue_openRecord read with ⟨rfl, _⟩ | ⟨fields, rfl, _⟩
    · exact .record [] tokens rest
    · exact .record fields tokens rest
  | closeList | closeRecord | colon | comma | invalid =>
    obtain ⟨_, _, mode', frames', same, stepped, _⟩ := step_of_run (.inr rfl) read
    cases same
    cases stepped

theorem starts_of_readValue (read : readValue (.kept outer) tokens = some (v, rest)) :
    ∃ token others, tokens = token :: others ∧ Starts token others v rest := by
  obtain ⟨token, others, _, _, rfl, _⟩ := step_of_run (.inr rfl) read
  exact ⟨token, others, rfl, starts_of_readValue_cons read⟩

/-- A list has a first item, so it does not end where it starts. -/
theorem ReadsItems.inside {items : List Value} (reads : ReadsItems outer tokens items rest)
    (others : List Token) : tokens ≠ .closeList :: others := by
  have first : ∃ item behind, readValue (.kept outer) tokens = some (item, behind) := by
    cases reads with
    | last read => exact ⟨_, _, read⟩
    | next read more => exact ⟨_, _, read⟩
  obtain ⟨item, behind, read⟩ := first
  obtain ⟨token, tokens, rfl, starts⟩ := starts_of_readValue read
  intro same
  cases same
  cases starts

/-! Passing over values. -/

/-- Containers of one kind, whatever they hold. -/
inductive SameFrame : Frame → Frame → Prop
  | list (items items' : List Value) : SameFrame (.list items) (.list items')
  | record (fields fields' : List (String × Value)) : SameFrame (.record fields) (.record fields')
  | field (fields fields' : List (String × Value)) (key key' : String) :
    SameFrame (.field fields key) (.field fields' key')

/-- Readers that expect the same. -/
inductive SameMode : Mode → Mode → Prop
  | value : SameMode .value .value
  | itemOrClose : SameMode .itemOrClose .itemOrClose
  | keyOrClose : SameMode .keyOrClose .keyOrClose
  | key : SameMode .key .key
  | colon (key key' : String) : SameMode (.colon key) (.colon key')
  | done (v v' : Value) : SameMode (.done v) (.done v')

/-- Readers with the same containers open that expect the same. -/
structure Alike (reached reached' : Mode × List Frame) : Prop where
  mode : SameMode reached.1 reached'.1
  frames : List.Forall₂ SameFrame reached.2 reached'.2

theorem stepValue_skipped {frames frames' : List Frame} {token : Token}
    {reached : Mode × List Frame} (same : List.Forall₂ SameFrame frames frames')
    (stepped : stepValue (.kept outer) frames token = some reached) :
    ∃ reached', stepValue .skipped frames' token = some reached' ∧ Alike reached reached' := by
  cases token with
  | null | boolean =>
    cases stepped
    exact ⟨_, rfl, .done _ _, same⟩
  | number n =>
    obtain ⟨w, _, rfl⟩ := Option.map_eq_some_iff.mp stepped
    exact ⟨_, rfl, .done _ _, same⟩
  | text s =>
    obtain ⟨w, _, rfl⟩ := Option.map_eq_some_iff.mp stepped
    exact ⟨_, rfl, .done _ _, same⟩
  | openList =>
    rw [stepValue] at stepped
    split at stepped <;> cases stepped
    exact ⟨_, rfl, .itemOrClose, .cons (.list _ _) same⟩
  | openRecord =>
    rw [stepValue] at stepped
    split at stepped <;> cases stepped
    exact ⟨_, rfl, .keyOrClose, .cons (.record _ _) same⟩
  | closeList | closeRecord | colon | comma | invalid => cases stepped

theorem stepKey_skipped {frames frames' : List Frame} {token : Token}
    {reached : Mode × List Frame} (same : List.Forall₂ SameFrame frames frames')
    (stepped : stepKey (.kept outer) frames token = some reached) :
    ∃ reached', stepKey .skipped frames' token = some reached' ∧ Alike reached reached' := by
  cases token with
  | text s =>
    obtain ⟨w, _, rfl⟩ := Option.map_eq_some_iff.mp stepped
    exact ⟨_, rfl, .colon _ _, same⟩
  | null | boolean | number | openList | openRecord | closeList | closeRecord | colon | comma
  | invalid => cases stepped

/-- What a reader that keeps values takes, a reader that passes over them takes too. -/
theorem step_skipped {mode mode' : Mode} {frames frames' : List Frame} {token : Token}
    {reached : Mode × List Frame} (alike : Alike (mode, frames) (mode', frames'))
    (stepped : step (.kept outer) mode frames token = some reached) :
    ∃ reached', step .skipped mode' frames' token = some reached' ∧ Alike reached reached' := by
  obtain ⟨same, frames⟩ := alike
  cases same with
  | value => exact stepValue_skipped frames stepped
  | key => exact stepKey_skipped frames stepped
  | itemOrClose =>
    by_cases ends : token = .closeList
    · subst ends
      cases frames with
      | nil => cases stepped
      | cons first frames =>
        cases first <;> cases stepped
        exact ⟨_, rfl, .done _ _, frames⟩
    · rw [step_itemOrClose ends] at stepped ⊢
      exact stepValue_skipped frames stepped
  | keyOrClose =>
    by_cases ends : token = .closeRecord
    · subst ends
      cases frames with
      | nil => cases stepped
      | cons first frames =>
        cases first <;> cases stepped
        exact ⟨_, rfl, .done _ _, frames⟩
    · rw [step_keyOrClose ends] at stepped ⊢
      exact stepKey_skipped frames stepped
  | colon key key' =>
    cases frames with
    | nil => cases token <;> cases stepped
    | cons first frames =>
      cases first <;> cases token <;> cases stepped
      exact ⟨_, rfl, .value, .cons (.field _ _ _ _) frames⟩
  | done w w' =>
    cases frames with
    | nil => cases token <;> cases stepped
    | cons first frames =>
      cases first <;> cases token <;> cases stepped
      · exact ⟨_, rfl, .done _ _, frames⟩
      · exact ⟨_, rfl, .value, .cons (.list _ _) frames⟩
      · exact ⟨_, rfl, .done _ _, frames⟩
      · exact ⟨_, rfl, .key, .cons (.record _ _) frames⟩

theorem run_skipped {mode mode' : Mode} {frames frames' : List Frame}
    (inside : Inside mode frames) (alike : Alike (mode, frames) (mode', frames'))
    (read : run (.kept outer) mode frames tokens = some (v, rest)) :
    ∃ w, run .skipped mode' frames' tokens = some (w, rest) := by
  -- Both readers take the same tokens, and stay alike with every one.
  induction tokens generalizing mode mode' frames frames' with
  | nil =>
    rcases inside.pending_or_done with pending | ⟨w, rfl, rfl⟩
    · obtain ⟨_, _, _, _, same, _⟩ := step_of_run pending read
      cases same
    · obtain ⟨same, closed⟩ := alike
      cases closed
      cases same with
      | done w w' =>
        rw [run_done] at read
        cases read
        exact ⟨w', run_done _ w' []⟩
  | cons token others ih =>
    rcases inside.pending_or_done with pending | ⟨w, rfl, rfl⟩
    · obtain ⟨_, _, next, opened, same, stepped, read⟩ := step_of_run pending read
      cases same
      obtain ⟨⟨next', opened'⟩, stepped', reached⟩ := step_skipped alike stepped
      obtain ⟨w, passed⟩ := ih (inside_of_step pending stepped) reached read
      refine ⟨w, ?_⟩
      rw [run_cons others ?_ stepped', passed]
      obtain ⟨same, frames⟩ := alike
      rcases pending with opened | rfl
      · left
        rintro rfl
        cases frames
        exact opened rfl
      · cases same
        exact .inr fun _ => Mode.noConfusion
    · obtain ⟨same, closed⟩ := alike
      cases closed
      cases same with
      | done w w' =>
        rw [run_done] at read
        cases read
        exact ⟨w', run_done _ w' _⟩

/-- A value that can be kept can be passed over, and the same tokens are left. -/
theorem readValue_skipped (read : readValue (.kept outer) tokens = some (v, rest)) :
    ∃ w, readValue .skipped tokens = some (w, rest) :=
  run_skipped (.inr (.inl rfl)) ⟨.value, .nil⟩ read

end SoundChange.JsonReading
