import SoundChange.Proofs.Encodings
import Mathlib.Data.List.Perm.Basic
import Mathlib.Data.List.Nodup
import Mathlib.Data.String.Basic

/-! Decoding does not see the order of fields. Sorted fields never repeat a key, sorting the fields of
records that repeat no key only moves them, and neither looking up a field nor looking for the only
field of some names depends on where it stands. -/
namespace SoundChange.DistinctKeys
open Encodings Json

/-- No record in the value repeats a key. -/
inductive Distinct : Value → Prop
  | null : Distinct .null
  | boolean (b : Bool) : Distinct (.boolean b)
  | integer (n : Int) : Distinct (.integer n)
  | real (x : Float) : Distinct (.real x)
  | text (s : String) : Distinct (.text s)
  | list {items : List Value} (each : ∀ item ∈ items, Distinct item) : Distinct (.list items)
  | record {fields : List (String × Value)} (keys : (fields.map Prod.fst).Nodup)
      (each : ∀ field ∈ fields, Distinct field.2) : Distinct (.record fields)

variable {fields : List (String × Value)} {key : String} {value : Value}

theorem distinct_list_iff {items : List Value} :
    Distinct (.list items) ↔ ∀ item ∈ items, Distinct item := by
  constructor
  · rintro ⟨⟩
    assumption
  · exact .list

theorem distinct_record_iff :
    Distinct (.record fields) ↔
      (fields.map Prod.fst).Nodup ∧ ∀ field ∈ fields, Distinct field.2 := by
  constructor
  · rintro ⟨⟩
    exact ⟨‹_›, ‹_›⟩
  · rintro ⟨keys, each⟩
    exact .record keys each

/-! Sorting. -/

/-- A key that is new gets a field of its own. -/
theorem insertField_perm (fresh : key ∉ fields.map Prod.fst) :
    (Value.insertField key value fields).Perm ((key, value) :: fields) := by
  induction fields with
  | nil => exact .refl _
  | cons field others ih =>
    obtain ⟨other, unlike⟩ := not_or.mp (mt List.mem_cons.mpr fresh)
    rw [Value.insertField]
    split
    · exact .refl _
    · exact ((ih unlike).cons field).trans (.swap _ _ _)

/-- Fields with different keys are only put in order when they are sorted into others. -/
theorem foldl_insertField_perm (fields sorted : List (String × Value))
    (fresh : ((fields ++ sorted).map Prod.fst).Nodup) :
    (fields.foldl (fun sorted field => Value.insertField field.1 field.2 sorted) sorted).Perm
      (fields ++ sorted) := by
  induction fields generalizing sorted with
  | nil => exact .refl _
  | cons field fields ih =>
    have once := (List.nodup_cons.mp fresh).1
    -- Putting a field in its place is no overwriting, since no sorted field has its key yet.
    have moved : (fields ++ Value.insertField field.1 field.2 sorted).Perm
        (field :: (fields ++ sorted)) := by
      have inserted : (Value.insertField field.1 field.2 sorted).Perm (field :: sorted) := by
        refine insertField_perm fun member => once ?_
        have either := List.mem_append_right (fields.map Prod.fst) member
        rw [← List.map_append] at either
        exact either
      exact (inserted.append_left fields).trans List.perm_middle
    rw [List.foldl_cons]
    exact (ih _ ((moved.map Prod.fst).nodup_iff.mpr fresh)).trans moved

/-- Sorted fields are the fields in another order. -/
theorem sortFields_perm (keys : (fields.map Prod.fst).Nodup) :
    (Value.sortFields fields).Perm fields := by
  have sorted := foldl_insertField_perm fields []
  rw [List.append_nil] at sorted
  exact sorted keys

/-- Fields in the order of their keys, none of which is repeated. -/
def Sorted (fields : List (String × Value)) : Prop :=
  fields.Pairwise fun first second => first.1 < second.1

/-- Fields in the strict order of their keys have no key twice. -/
theorem Sorted.nodup (sorted : Sorted fields) : (fields.map Prod.fst).Nodup := by
  rw [List.Nodup, List.pairwise_map]
  refine sorted.imp ?_
  intro first second before same
  rw [same] at before
  exact String.lt_irrefl _ before

/-- Nothing comes into the fields but the one that is put in. -/
theorem mem_insertField {field : String × Value}
    (member : field ∈ Value.insertField key value fields) :
    field = (key, value) ∨ field ∈ fields := by
  induction fields with
  | nil => simpa [Value.insertField] using member
  | cons first others ih =>
    rw [Value.insertField] at member
    by_cases front : key < first.1
    · simpa [front] using member
    by_cases here : key = first.1
    · rw [if_neg front, if_pos here] at member
      exact (List.mem_cons.mp member).imp_right (List.mem_cons_of_mem _)
    · rw [if_neg front, if_neg here] at member
      rcases List.mem_cons.mp member with rfl | later
      · exact .inr List.mem_cons_self
      · exact (ih later).imp_right (List.mem_cons_of_mem _)

theorem Sorted.insertField (sorted : Sorted fields) :
    Sorted (Value.insertField key value fields) := by
  induction fields with
  | nil => simp [Sorted, Value.insertField]
  | cons first others ih =>
    obtain ⟨least, rest⟩ := List.pairwise_cons.mp sorted
    rw [Value.insertField]
    by_cases front : key < first.1
    · rw [if_pos front]
      refine List.pairwise_cons.mpr ⟨?_, sorted⟩
      intro field member
      rcases List.mem_cons.mp member with rfl | later
      · exact front
      · exact String.lt_trans front (least field later)
    by_cases here : key = first.1
    · rw [if_neg front, if_pos here]
      exact List.pairwise_cons.mpr ⟨fun field later => here ▸ least field later, rest⟩
    · rw [if_neg front, if_neg here]
      refine List.pairwise_cons.mpr ⟨?_, ih rest⟩
      intro field member
      rcases mem_insertField member with rfl | later
      · exact lt_of_le_of_ne (not_lt.mp front) (Ne.symm here)
      · exact least field later

/-- Whatever the fields were, they come out in order. -/
theorem sorted_sortFields (fields : List (String × Value)) : Sorted (Value.sortFields fields) := by
  have keeps (start : List (String × Value)) (sorted : Sorted start) :
      Sorted (fields.foldl (fun sorted field => Value.insertField field.1 field.2 sorted)
        start) := by
    induction fields generalizing start with
    | nil => exact sorted
    | cons field fields ih => exact ih _ sorted.insertField
  exact keeps [] List.Pairwise.nil

/-- Only a record is sorted into a record. -/
theorem fields_of_tidy (sorted : value.tidy = .record fields) :
    ∃ written, fields = Value.sortFields written := by
  cases value with
  | record written => exact ⟨_, (Value.record.inj sorted).symm⟩
  | null | boolean | integer | real | text | list => cases sorted

theorem tidyItems_eq_map (items : List Value) : Value.tidyItems items = items.map Value.tidy := by
  induction items with
  | nil => rfl
  | cons item items ih => rw [Value.tidyItems, ih, List.map_cons]

theorem tidyFields_eq_map (fields : List (String × Value)) :
    Value.tidyFields fields = fields.map fun field => (field.1, field.2.tidy) := by
  induction fields with
  | nil => rfl
  | cons field fields ih => rw [Value.tidyFields, ih, List.map_cons]

/-- A record with different keys keeps all its fields in some order, each with its value tidied. -/
theorem tidy_record_perm (keys : (fields.map Prod.fst).Nodup) :
    ∃ sorted, (Value.record fields).tidy = .record sorted ∧
      sorted.Perm (fields.map fun field => (field.1, field.2.tidy)) ∧
      (sorted.map Prod.fst).Nodup := by
  have named : ((Value.tidyFields fields).map Prod.fst) = fields.map Prod.fst := by
    rw [tidyFields_eq_map, List.map_map]
    rfl
  have sorted := sortFields_perm (named ▸ keys)
  refine ⟨_, rfl, tidyFields_eq_map fields ▸ sorted, ?_⟩
  rw [(sorted.map Prod.fst).nodup_iff, named]
  exact keys

/-! Looking up. -/

/-- Where no key stands twice, looking up a key finds its one field. -/
theorem field?_eq_some_iff (keys : (fields.map Prod.fst).Nodup) :
    Value.field? key fields = some value ↔ (key, value) ∈ fields := by
  induction fields with
  | nil => simp [Value.field?]
  | cons field fields ih =>
    obtain ⟨once, keys⟩ := List.nodup_cons.mp keys
    rw [Value.field?, List.mem_cons]
    by_cases here : field.1 = key
    · subst here
      rw [if_pos rfl, Option.some.injEq]
      constructor
      · rintro rfl
        exact .inl rfl
      · rintro (same | later)
        · exact (congrArg Prod.snd same).symm
        · exact absurd (List.mem_map_of_mem later) once
    · rw [if_neg here, ih keys]
      constructor
      · exact .inr
      · rintro (same | later)
        · exact absurd (congrArg Prod.fst same).symm here
        · exact later

theorem field?_eq_none (absent : key ∉ fields.map Prod.fst) : Value.field? key fields = none := by
  induction fields with
  | nil => rfl
  | cons field fields ih =>
    obtain ⟨unlike, absent⟩ := not_or.mp (mt List.mem_cons.mpr absent)
    rw [Value.field?, if_neg fun same => unlike same.symm, ih absent]

/-- The place of a field does not matter for its look-up. -/
theorem field?_perm {others : List (String × Value)} (keys : (fields.map Prod.fst).Nodup)
    (moved : others.Perm fields) : Value.field? key others = Value.field? key fields := by
  have keys' : (others.map Prod.fst).Nodup := (moved.map Prod.fst).nodup_iff.mpr keys
  ext found
  rw [field?_eq_some_iff keys', field?_eq_some_iff keys, moved.mem_iff]

theorem field?_map (f : Value → Value) (fields : List (String × Value)) :
    Value.field? key (fields.map fun field => (field.1, f field.2)) =
      (Value.field? key fields).map f := by
  induction fields with
  | nil => rfl
  | cons field fields ih =>
    rw [List.map_cons, Value.field?, Value.field?, ih]
    split <;> rfl

/-- Whether exactly one key is accepted does not depend on the order of the fields. -/
theorem only?_perm {others : List (String × Value)} (accepts : String → Bool)
    (moved : others.Perm fields) : Step.only? accepts others = Step.only? accepts fields := by
  have kept := moved.filter fun field => accepts field.1
  ext found
  rw [only?_eq_some_iff_filter, only?_eq_some_iff_filter]
  constructor
  · rintro ⟨key, same⟩
    rw [same] at kept
    exact ⟨key, List.singleton_perm.mp kept |>.symm⟩
  · rintro ⟨key, same⟩
    rw [same] at kept
    exact ⟨key, List.perm_singleton.mp kept⟩

theorem only?_map (f : Value → Value) (accepts : String → Bool)
    (fields : List (String × Value)) :
    Step.only? accepts (fields.map fun field => (field.1, f field.2)) =
      (Step.only? accepts fields).map f := by
  rw [Step.only?, Step.only?, List.filter_map]
  have same : ((fun field => accepts field.1) ∘ fun field : String × Value =>
      (field.1, f field.2)) = fun field => accepts field.1 := rfl
  rw [same]
  generalize fields.filter (fun field => accepts field.1) = kept
  rcases kept with _ | ⟨field, _ | ⟨second, others⟩⟩ <;> rfl

/-! Decoding, as far as it succeeds. -/

theorem toOption_textsOfValues_cons (s : String) (items : List Value) :
    (textsOfValues (.text s :: items)).toOption =
      (textsOfValues items).toOption.map (s :: ·) := by
  rw [textsOfValues]
  cases textsOfValues items <;> rfl

theorem toOption_ofValues_cons (item : Value) (items : List Value) :
    (Step.ofValues (item :: items)).toOption =
      (Step.ofValue? item).bind fun step => (Step.ofValues items).toOption.map (step :: ·) := by
  rw [Step.ofValues]
  cases Step.ofValue? item with
  | none => rfl
  | some step => cases Step.ofValues items <;> rfl

/-- The steps of a record: there are none if it has no field for them. -/
def stepsIn (fields : List (String × Value)) : Option (List Step) :=
  match Value.field? "history" fields with
  | some value => (Step.listOfValue value).toOption
  | none => some []

/-- The final forms of a record. -/
def finalsIn (fields : List (String × Value)) : Option (List Word) :=
  (Value.field? "output" fields).bind fun value => (textsOfValue value).toOption

/-- A record is a transformation if both its lists can be found and decoded. Which of them is at
fault is left out here, for that does depend on the order. -/
theorem toOption_ofFields (fields : List (String × Value)) :
    (Transformation.ofFields fields).toOption =
      (stepsIn fields).bind fun history =>
        (finalsIn fields).map fun output => ⟨history, output⟩ := by
  rw [Transformation.ofFields, stepsIn, finalsIn]
  cases Value.field? "output" fields with
  | none =>
    cases Value.field? "history" fields with
    | none => rfl
    | some history => simp only; cases Step.listOfValue history <;> rfl
  | some output =>
    simp only [Option.bind_some]
    cases Value.field? "history" fields with
    | none => simp only; cases textsOfValue output <;> rfl
    | some history =>
      simp only
      cases Step.listOfValue history with
      | error fault => rfl
      | ok steps => cases textsOfValue output <;> rfl

theorem toOption_ofItems_pair (history output : Value) :
    (Transformation.ofItems [history, output]).toOption =
      (Step.listOfValue history).toOption.bind fun steps =>
        (textsOfValue output).toOption.map fun finals => ⟨steps, finals⟩ := by
  rw [Transformation.ofItems]
  cases Step.listOfValue history with
  | error fault => rfl
  | ok steps => cases textsOfValue output <;> rfl

theorem toOption_ofItems_of_ne {items : List Value} (other : items.length ≠ 2) :
    (Transformation.ofItems items).toOption = none := by
  rcases items with _ | ⟨history, _ | ⟨output, _ | ⟨more, others⟩⟩⟩
  · rfl
  · rw [Transformation.ofItems]
    cases Step.listOfValue history <;> rfl
  · exact absurd rfl other
  · rw [Transformation.ofItems]
    · cases Step.listOfValue history with
      | error fault => rfl
      | ok steps => cases textsOfValue output <;> rfl
    · exact List.cons_ne_nil more others

/-! Sorted values decode as they are. -/

theorem textsOfValues_tidy (items : List Value) :
    (textsOfValues (items.map Value.tidy)).toOption = (textsOfValues items).toOption := by
  induction items with
  | nil => rfl
  | cons item items ih =>
    cases item with
    | text s =>
      rw [List.map_cons, Value.tidy, toOption_textsOfValues_cons, ih, toOption_textsOfValues_cons]
      all_goals exact fun _ => Value.noConfusion
    | null | boolean | integer | real | list | record => rfl

theorem textsOfValue_tidy (v : Value) :
    (textsOfValue v.tidy).toOption = (textsOfValue v).toOption := by
  cases v with
  | list items =>
    rw [Value.tidy, tidyItems_eq_map]
    exact textsOfValues_tidy items
  | null | boolean | integer | real | text | record => rfl

theorem ofParts?_text (label : String) (words : Value) :
    Step.ofParts? (.text label) words =
      (textsOfValue words).toOption.map fun words => ⟨label, words⟩ := by
  cases decoded : textsOfValue words <;> simp only [Step.ofParts?, decoded] <;> rfl

/-- A step has no records in it, so there is nothing to sort. -/
theorem ofParts?_tidy (rule words : Value) :
    Step.ofParts? rule.tidy words.tidy = Step.ofParts? rule words := by
  cases rule with
  | text label =>
    have same : (Value.text label).tidy = .text label := rfl
    rw [same, ofParts?_text, ofParts?_text, textsOfValue_tidy]
  | null | boolean | integer | real | list | record => rfl

/-- A step is decoded alike in all orders of its fields. -/
theorem ofValue?_tidy {v : Value} (distinct : Distinct v) :
    Step.ofValue? v.tidy = Step.ofValue? v := by
  cases distinct with
  | record keys each =>
    obtain ⟨sorted, tidied, moved, _⟩ := tidy_record_perm keys
    rw [tidied, Step.ofValue?, Step.ofValue?, only?_perm _ moved, only?_perm _ moved, only?_map,
      only?_map]
    cases Step.only? Step.isRuleKey _ with
    | none => rfl
    | some rule =>
      cases Step.only? Step.isWordsKey _ with
      | none => rfl
      | some words => exact ofParts?_tidy rule words
  | @list items each =>
    rw [Value.tidy, tidyItems_eq_map]
    rcases items with _ | ⟨rule, _ | ⟨words, _ | ⟨more, others⟩⟩⟩
    · rfl
    · rfl
    · exact ofParts?_tidy rule words
    · rfl
  | null | boolean | integer | real | text => rfl

theorem ofValues_tidy {items : List Value} (each : ∀ item ∈ items, Distinct item) :
    (Step.ofValues (items.map Value.tidy)).toOption = (Step.ofValues items).toOption := by
  induction items with
  | nil => rfl
  | cons item items ih =>
    rw [List.map_cons, toOption_ofValues_cons, toOption_ofValues_cons,
      ofValue?_tidy (each item List.mem_cons_self),
      ih fun item member => each item (List.mem_cons_of_mem _ member)]

theorem listOfValue_tidy {v : Value} (distinct : Distinct v) :
    (Step.listOfValue v.tidy).toOption = (Step.listOfValue v).toOption := by
  cases distinct with
  | list each =>
    rw [Value.tidy, tidyItems_eq_map]
    exact ofValues_tidy each
  | null | boolean | integer | real | text | record => rfl

/-- Sorting the fields of all records changes nothing that is decoded. -/
theorem ofValue_tidy {v : Value} (distinct : Distinct v) :
    (Transformation.ofValue v.tidy).toOption = (Transformation.ofValue v).toOption := by
  cases distinct with
  | @record fields keys each =>
    obtain ⟨sorted, tidied, moved, keys'⟩ := tidy_record_perm keys
    have found (key : String) :
        Value.field? key sorted = (Value.field? key fields).map Value.tidy := by
      rw [← field?_map, ← field?_perm keys' moved.symm]
    have steps : stepsIn sorted = stepsIn fields := by
      rw [stepsIn, stepsIn, found]
      cases history : Value.field? "history" fields with
      | none => rfl
      | some value =>
        exact listOfValue_tidy (each _ ((field?_eq_some_iff keys).mp history))
    have finals : finalsIn sorted = finalsIn fields := by
      rw [finalsIn, finalsIn, found]
      cases Value.field? "output" fields with
      | none => rfl
      | some value => exact textsOfValue_tidy value
    rw [tidied, Transformation.ofValue, Transformation.ofValue, toOption_ofFields,
      toOption_ofFields, steps, finals]
  | @list items each =>
    rw [Value.tidy, tidyItems_eq_map, Transformation.ofValue, Transformation.ofValue]
    by_cases pair : items.length = 2
    · obtain ⟨history, output, rfl⟩ := List.length_eq_two.mp pair
      rw [List.map_cons, List.map_cons, List.map_nil, toOption_ofItems_pair,
        toOption_ofItems_pair, listOfValue_tidy (each history List.mem_cons_self),
        textsOfValue_tidy]
    · rw [toOption_ofItems_of_ne pair, toOption_ofItems_of_ne]
      rw [List.length_map]
      exact pair
  | null | boolean | integer | real | text => rfl

end SoundChange.DistinctKeys
