import SoundChange.Proofs.BatchRuns
import SoundChange.Proofs.DistinctKeys
import SoundChange.Proofs.FileTree

/-! Transcripts in texts and in files. A text is judged in a fixed order: it must hold a value, the
value must be a record with words, the words must be a list of texts, and what is beside them must be
a transformation. A file is judged as its text is, and a transcript that was written anywhere is read
back as it was. -/
namespace SoundChange.TranscriptFiles
open BatchRuns DistinctKeys Encodings Json

variable {fields : List (String × Value)} {value : Value}

/-- What a text holds. A text without a value, a value without words and words that are no list of
texts are refused in this order; otherwise the other fields decide, as a value of their own. -/
inductive Holds (text : String) : Except TranscriptFault Transcript → Prop
  | noValue (unparsed : parse? text.toList = none) : Holds text (.error (.json .malformed))
  | noWords {value : Value} (parsed : parse? text.toList = some value)
      (absent : ∀ fields words, value = .record fields → ("words", words) ∉ fields) :
    Holds text (.error .missingWords)
  | noTexts {fields : List (String × Value)} {words : Value} {fault : EncodingFault}
      (parsed : parse? text.toList = some (.record fields))
      (present : ("words", words) ∈ fields) (other : ∀ texts, words ≠ textsToValue texts)
      (report : textsOfValue words = .error fault) :
    Holds text (.error (.json fault))
  | worded {fields : List (String × Value)} {words : List Word}
      (parsed : parse? text.toList = some (.record fields))
      (present : ("words", textsToValue words) ∈ fields) :
    Holds text
      (((Transformation.fromValue (.record (fields.filter fun field => field.1 != "words"))).mapError
        .engine).map fun result => ⟨words, result⟩)

/-! Texts. -/

/-- A parsed record has no key twice, since its fields were sorted one by one. -/
theorem nodup_of_parsed {text : List Char} (parsed : parse? text = some (.record fields)) :
    (fields.map Prod.fst).Nodup := by
  rw [parse?] at parsed
  split at parsed
  · obtain ⟨written, rfl⟩ := fields_of_tidy (Option.some.inj parsed)
    exact (sorted_sortFields written).nodup
  · cases parsed

theorem error_of_textsOfValue (other : ∀ texts, value ≠ textsToValue texts) :
    ∃ fault, textsOfValue value = .error fault := by
  cases decoded : textsOfValue value with
  | error fault => exact ⟨fault, rfl⟩
  | ok texts => exact absurd (textsOfValue_ok_iff.mp decoded) (other texts)

/-- A record with words holds what the fields beside the words decide. -/
theorem ofFields_of_words {words : List Word}
    (present : Value.field? "words" fields = some (textsToValue words)) :
    Transcript.ofFields fields =
      ((Transformation.fromValue (.record (fields.filter fun field => field.1 != "words"))).mapError
        .engine).map fun result => ⟨words, result⟩ := by
  have decoded := TranscriptRoundTrip.textsOfValue_textsToValue words
  rw [Transcript.ofFields, present]
  simp only [decoded, Transformation.fromValue, Transformation.ofValue]
  cases Transformation.ofFields (fields.filter fun field => field.1 != "words") <;> rfl

/-- Whatever a text holds is what reading it gives. -/
theorem ofText_of_holds {text : String} {outcome : Except TranscriptFault Transcript}
    (holds : Holds text outcome) : Transcript.ofText text = outcome := by
  cases holds with
  | noValue unparsed => rw [Transcript.ofText, unparsed]
  | @noWords value parsed absent =>
    rw [Transcript.ofText, parsed]
    cases value with
    | record fields =>
      have none_found : Value.field? "words" fields = none := by
        refine field?_eq_none fun named => ?_
        obtain ⟨⟨name, words⟩, member, rfl⟩ := List.mem_map.mp named
        exact absent fields words rfl member
      simp only [Transcript.ofValue, Transcript.ofFields, none_found]
    | null | boolean | integer | real | text | list => rfl
  | noTexts parsed present other report =>
    have found := (field?_eq_some_iff (nodup_of_parsed parsed)).mpr present
    rw [Transcript.ofText, parsed]
    simp only [Transcript.ofValue, Transcript.ofFields, found, report]
  | worded parsed present =>
    have found := (field?_eq_some_iff (nodup_of_parsed parsed)).mpr present
    rw [Transcript.ofText, parsed]
    exact ofFields_of_words found

/-- Every text holds a transcript or one of the reasons against it. -/
theorem exists_holds (text : String) : ∃ outcome, Holds text outcome := by
  cases parsed : parse? text.toList with
  | none => exact ⟨_, .noValue parsed⟩
  | some value =>
    by_cases present : ∃ fields words, value = .record fields ∧ ("words", words) ∈ fields
    · obtain ⟨fields, words, rfl, member⟩ := present
      by_cases texts : ∃ texts, words = textsToValue texts
      · obtain ⟨texts, rfl⟩ := texts
        exact ⟨_, .worded parsed member⟩
      · have other : ∀ texts, words ≠ textsToValue texts := by simpa using texts
        obtain ⟨fault, report⟩ := error_of_textsOfValue other
        exact ⟨_, .noTexts parsed member other report⟩
    · refine ⟨_, .noWords parsed ?_⟩
      intro fields words same member
      exact present ⟨fields, words, same, member⟩

theorem ofText_eq_iff {text : String} {outcome : Except TranscriptFault Transcript} :
    Transcript.ofText text = outcome ↔ Holds text outcome := by
  constructor
  · rintro rfl
    obtain ⟨outcome, holds⟩ := exists_holds text
    rw [ofText_of_holds holds]
    exact holds
  · exact ofText_of_holds

/-! Files. -/

variable {path : String} {world : World}

/-- A file is judged as its text is. -/
theorem load_text {text : String}
    (content : world.files.read path = .ok (Text.Utf8.encode text.toList)) :
    Transcript.load World.host path world = ((Transcript.ofText text).mapError .content, world) := by
  rw [load_host, content]
  simp only [Transcript.ofBytes, Utf8Coding.textOfBytes_encode]

theorem ofText_saved (transcript : Transcript) :
    Transcript.ofText transcript.toText = .ok transcript := by
  have blank : ∀ c ∈ ([] : List Char), isSpace c = true := by simp
  have bare := TranscriptRoundTrip.ofText_toText transcript blank
  simpa using bare

/-- Where the file cannot be made, that is all that happens. -/
theorem save_of_refused {transcript : Transcript} {fault : IoFault}
    (refused : world.files.write path "" = .error fault) :
    Transcript.save World.host path transcript world = (.error (.access path fault), world) := by
  have creates : World.host.create path world = (.error fault, world) :=
    write_of_refused world refused
  rw [Transcript.save, run_bind, creates]
  rfl

/-- Where it can be made, it is filled. -/
theorem save_of_made {transcript : Transcript} {made filled : Files}
    (created : world.files.write path "" = .ok made)
    (written : made.write path transcript.toText = .ok filled) :
    Transcript.save World.host path transcript world = (.ok (), { world with files := filled }) := by
  have creates : World.host.create path world = (.ok (), { world with files := made }) :=
    write_of_written world created
  have fills : World.host.fill path transcript.toText { world with files := made } =
      (.ok (), { world with files := filled }) :=
    write_of_written { world with files := made } written
  rw [Transcript.save, run_bind, creates]
  simp only [run_bind, fills]
  rfl

/-- Saving only fails where no file can be written, and leaves a file that loads as the transcript
otherwise. -/
theorem load_saved_transcript (transcript : Transcript) (path : String) (world : World) :
    (∃ fault, world.files.placeToWrite path = .error fault ∧
      Transcript.save World.host path transcript world = (.error (.access path fault), world)) ∨
    ∃ after, Transcript.save World.host path transcript world = (.ok (), after) ∧
      Transcript.load World.host path after = (.ok transcript, after) := by
  cases open_ : world.files.placeToWrite path with
  | error fault =>
    refine .inl ⟨fault, rfl, save_of_refused ?_⟩
    rw [Files.write, open_]
  | ok place =>
    obtain ⟨made, created⟩ : ∃ made, world.files.write path "" = .ok made := by
      rw [Files.write, open_]
      exact ⟨_, rfl⟩
    obtain ⟨filled, written⟩ := FileTree.write_again created transcript.toText
    have content : { world with files := filled }.files.read path =
        .ok (Text.Utf8.encode transcript.toText.toList) := FileTree.read_write written
    refine .inr ⟨_, save_of_made created written, ?_⟩
    rw [load_text content, ofText_saved]
    rfl

/-- A transcript is read back from its text and from any file that it was saved into, whatever words,
labels and lists it holds. What a text holds is decided step by step, with exactly one outcome, and a
file with this text comes to the same. So a text that is accepted, written anew, is accepted again and
holds the same transcript. -/
theorem transcripts_read_back :
    (∀ transcript, Transcript.ofText transcript.toText = .ok transcript) ∧
    (∀ transcript path world,
      (∃ fault, world.files.placeToWrite path = .error fault ∧
        Transcript.save World.host path transcript world = (.error (.access path fault), world)) ∨
      ∃ after, Transcript.save World.host path transcript world = (.ok (), after) ∧
        Transcript.load World.host path after = (.ok transcript, after)) ∧
    (∀ text outcome, Transcript.ofText text = outcome ↔ Holds text outcome) ∧
    (∀ text path world, world.files.read path = .ok (Text.Utf8.encode text.toList) →
      Transcript.load World.host path world =
        ((Transcript.ofText text).mapError .content, world)) ∧
    ∀ text transcript, Transcript.ofText text = .ok transcript →
      Transcript.ofText transcript.toText = .ok transcript := by
  refine ⟨ofText_saved, load_saved_transcript, ?_, ?_, ?_⟩
  · intro text outcome
    exact ofText_eq_iff
  · intro text path world content
    exact load_text content
  · intro text transcript _
    exact ofText_saved transcript

end SoundChange.TranscriptFiles
