import SoundChange.Proofs.WellFormedSystems

/-! Words and their longest spellings. A table of spellings determines how a word is cut, from its
front to its end: at each place the longest spelling that stands there is cut off, or a single
character where none does. Pronouncing follows that cut. It takes the first spelling of a list that
fits, which is the longest one because of the order of the list. -/
namespace SoundChange.LongestSpellings
open RuleFiles WellFormedSystems

/-! How a word is cut. -/

/-- The characters of a word that a segment takes up. -/
def covered : Segment → List Char
  | .spelled spelling => spelling.letters
  | .plain c => [c]

/-- A spelling of a table, with its sound, that stands at the front of a text. -/
structure Fits (ipa : Dictionary String) (text : List Char) (spelling : Spelling) : Prop where
  listed : ipa.find? (String.ofList spelling.letters) = some spelling.sound
  starts : spelling.letters <+: text

/-- What is cut off the front of a text: the longest spelling that fits, or one character if none
does. -/
inductive CutsOff (ipa : Dictionary String) (text : List Char) : Segment → Prop
  | spelled {spelling : Spelling} (fits : Fits ipa text spelling)
      (longest : ∀ other, Fits ipa text other →
        other.letters.length ≤ spelling.letters.length) : CutsOff ipa text (.spelled spelling)
  | plain {c : Char} {rest : List Char} (first : text = c :: rest)
      (unspelled : ∀ spelling, ¬ Fits ipa text spelling) : CutsOff ipa text (.plain c)

/-- A text that is cut into segments, from its front to its end. -/
inductive CutInto (ipa : Dictionary String) : List Char → List Segment → Prop
  | done : CutInto ipa [] []
  | cut {text rest : List Char} {part : Segment} {parts : List Segment} (some_ : text ≠ [])
      (first : CutsOff ipa text part) (split : text = covered part ++ rest)
      (later : CutInto ipa rest parts) : CutInto ipa text (part :: parts)

/-- Segments that are all spellings. -/
def Spelled (parts : List Segment) : Prop :=
  ∀ part ∈ parts, ∃ spelling, part = .spelled spelling

/-- The number of bytes that segments take up. -/
def offset : List Segment → Nat
  | [] => 0
  | part :: parts => (String.ofList (covered part)).utf8ByteSize + offset parts

section Cuts
variable {ipa : Dictionary String} {text : List Char}

theorem CutsOff.unique {part other : Segment} (cuts : CutsOff ipa text part)
    (cuts' : CutsOff ipa text other) : part = other := by
  cases cuts with
  | @spelled spelling fits longest =>
    cases cuts' with
    | @spelled spelling' fits' longest' =>
      have sameLetters : spelling.letters = spelling'.letters :=
        (List.prefix_of_prefix_length_le fits.starts fits'.starts
          (longest' _ fits)).eq_of_length_le (longest _ fits')
      have sameSound : spelling.sound = spelling'.sound :=
        Option.some.inj (fits.listed.symm.trans (sameLetters ▸ fits'.listed))
      obtain ⟨letters, sound⟩ := spelling
      obtain ⟨letters', sound'⟩ := spelling'
      cases sameLetters
      cases sameSound
      rfl
    | plain first unspelled => exact absurd fits (unspelled _)
  | plain first unspelled =>
    cases cuts' with
    | spelled fits longest => exact absurd fits (unspelled _)
    | plain first' unspelled' =>
      rw [first] at first'
      cases first'
      rfl

/-- There is no other way to cut a text. -/
theorem CutInto.unique {parts others : List Segment} (cut : CutInto ipa text parts)
    (cut' : CutInto ipa text others) : parts = others := by
  induction cut generalizing others with
  | done =>
    cases cut' with
    | done => rfl
    | cut some_ => exact absurd rfl some_
  | cut some_ first split _ ih =>
    cases cut' with
    | done => exact absurd rfl some_
    | cut some_' first' split' later' =>
      obtain rfl := first.unique first'
      obtain rfl := List.append_cancel_left (split.symm.trans split')
      rw [ih later']

theorem CutInto.joined {parts : List Segment} (cut : CutInto ipa text parts) :
    text = parts.flatMap covered := by
  induction cut with
  | done => rfl
  | cut _ _ split _ ih => rw [split, ih, List.flatMap_cons]

theorem offset_eq (parts : List Segment) :
    offset parts = (String.ofList (parts.flatMap covered)).utf8ByteSize := by
  induction parts with
  | nil => rfl
  | cons part parts ih =>
    rw [offset, ih, List.flatMap_cons, String.ofList_append, String.utf8ByteSize_append]

/-- Every place where a word is cut is the beginning of a character or the end of the word. -/
theorem CutInto.valid {word : Word} {before after : List Segment}
    (cut : CutInto ipa word.toList (before ++ after)) :
    String.Pos.Raw.IsValid word ⟨offset before⟩ := by
  refine String.Pos.Raw.isValid_iff_exists_append.mpr
    ⟨String.ofList (before.flatMap covered), String.ofList (after.flatMap covered), ?_, ?_⟩
  · rw [← String.ofList_append, ← List.flatMap_append, ← cut.joined, String.ofList_toList]
  · rw [offset_eq]
    rfl

end Cuts

/-! The segments that are found. -/

section Segments
variable {spellings : List Spelling}

/-- In a list with longer spellings first, the first one that fits is the longest that does. -/
theorem longest_of_find? {text : List Char} {spelling : Spelling}
    (sorted : spellings.Pairwise Listed)
    (found : spellings.find? (fun spelling => spelling.letters.isPrefixOf text) = some spelling) :
    ∀ other ∈ spellings, other.letters <+: text →
      other.letters.length ≤ spelling.letters.length := by
  obtain ⟨-, before, after, rfl, misses⟩ := List.find?_eq_some_iff_append.mp found
  intro other member fits
  rcases List.mem_append.mp member with early | late
  · have missed := misses other early
    rw [List.isPrefixOf_iff_prefix.mpr fits] at missed
    cases missed
  · rcases List.mem_cons.mp late with rfl | late
    · exact Nat.le_refl _
    · have ordered := (List.pairwise_cons.mp (List.pairwise_append.mp sorted).2.1).1 other late
      rcases ordered with longer | ⟨level, -⟩
      · exact Nat.le_of_lt longer
      · exact Nat.le_of_eq level.symm

/-- The spellings of a table in the order in which they are tried, without an empty one. -/
structure Tried (ipa : Dictionary String) (spellings : List Spelling) : Prop where
  listed : ∀ spelling, spelling ∈ spellings ↔
    ipa.find? (String.ofList spelling.letters) = some spelling.sound
  inhabited : ∀ spelling ∈ spellings, spelling.letters ≠ []
  sorted : spellings.Pairwise Listed

variable {ipa : Dictionary String}

theorem Tried.fits_iff (tried : Tried ipa spellings) {text : List Char} {spelling : Spelling} :
    Fits ipa text spelling ↔ spelling ∈ spellings ∧ spelling.letters <+: text := by
  rw [tried.listed]
  exact ⟨fun fits => ⟨fits.listed, fits.starts⟩, fun fits => ⟨fits.1, fits.2⟩⟩

/-- The segments of a text are those that the table says, and none of them is empty. -/
theorem cutInto_segments (tried : Tried ipa spellings) (text : List Char) :
    CutInto ipa text (segments spellings text) ∧
      ∀ part ∈ segments spellings text, covered part ≠ [] := by
  fun_induction segments spellings text with
  | case1 => exact ⟨.done, by simp⟩
  | case2 c rest spelling found ih =>
    have member := List.mem_of_find?_eq_some found
    have starts : spelling.letters <+: c :: rest := by simpa using List.find?_some found
    have cutsOff : CutsOff ipa (c :: rest) (.spelled spelling) := by
      refine .spelled (tried.fits_iff.mpr ⟨member, starts⟩) fun other fits => ?_
      obtain ⟨member', starts'⟩ := tried.fits_iff.mp fits
      exact longest_of_find? tried.sorted found other member' starts'
    have inhabited := tried.inhabited spelling member
    have split : c :: rest =
        spelling.letters ++ rest.drop (spelling.letters.length - 1) := by
      obtain ⟨first, others, letters⟩ := List.exists_cons_of_ne_nil inhabited
      have whole := List.prefix_iff_eq_append.mp starts
      rw [letters, List.length_cons, List.drop_succ_cons] at whole
      rw [letters, List.length_cons, Nat.add_sub_cancel, whole]
    exact ⟨.cut (List.cons_ne_nil _ _) cutsOff split ih.1,
      List.forall_mem_cons.mpr ⟨inhabited, ih.2⟩⟩
  | case3 c rest missed ih =>
    have cutsOff : CutsOff ipa (c :: rest) (.plain c) := by
      refine .plain rfl fun spelling fits => ?_
      obtain ⟨member, starts⟩ := tried.fits_iff.mp fits
      exact List.find?_eq_none.mp missed spelling member (List.isPrefixOf_iff_prefix.mpr starts)
    exact ⟨.cut (List.cons_ne_nil _ _) cutsOff rfl ih.1,
      List.forall_mem_cons.mpr ⟨List.cons_ne_nil _ _, ih.2⟩⟩

end Segments

/-! Pronouncing. -/

theorem spelled_cons {part : Segment} {parts : List Segment} :
    Spelled (part :: parts) ↔ (∃ spelling, part = .spelled spelling) ∧ Spelled parts :=
  List.forall_mem_cons

/-- Segments that are not all spelled have a first character that is not. -/
theorem spelled_or_first (parts : List Segment) :
    Spelled parts ∨
      ∃ before c after, parts = before ++ .plain c :: after ∧ Spelled before := by
  have nothing : Spelled [] := by simp [Spelled]
  induction parts with
  | nil => exact .inl nothing
  | cons part parts ih =>
    cases part with
    | plain c => exact .inr ⟨[], c, parts, rfl, nothing⟩
    | spelled spelling =>
      rcases ih with spelled | ⟨before, c, after, rfl, spelled⟩
      · exact .inl (spelled_cons.mpr ⟨⟨spelling, rfl⟩, spelled⟩)
      · exact .inr ⟨.spelled spelling :: before, c, after, rfl,
          spelled_cons.mpr ⟨⟨spelling, rfl⟩, spelled⟩⟩

section Pronouncing
variable {spellings : List Spelling} {word : Word}

/-- Segments that are all spelled, or need not be, sound one after the other. -/
theorem pronounce_ok {strict : Bool}
    (spelled : strict = false ∨ Spelled (segments spellings word.toList)) :
    pronounce spellings strict word =
      .ok (String.join ((segments spellings word.toList).map Segment.sound)) := by
  have unblamed : (if strict then
      (segments spellings word.toList).findSome? Segment.unspelled? else none) = none := by
    rcases spelled with rfl | spelled
    · rfl
    · rw [ite_eq_right_iff]
      intro _
      refine List.findSome?_eq_none_iff.mpr fun part member => ?_
      obtain ⟨spelling, rfl⟩ := spelled part member
      rfl
  simp only [pronounce, unblamed]

/-- The first segment that is not spelled is blamed if it should be. -/
theorem pronounce_error {before after : List Segment} {c : Char} (spelled : Spelled before)
    (split : segments spellings word.toList = before ++ .plain c :: after) :
    pronounce spellings true word = .error ⟨c, word⟩ := by
  have blamed : (segments spellings word.toList).findSome? Segment.unspelled? = some c := by
    have none_before : before.findSome? Segment.unspelled? = none := by
      refine List.findSome?_eq_none_iff.mpr fun part member => ?_
      obtain ⟨spelling, rfl⟩ := spelled part member
      rfl
    rw [split, List.findSome?_append, none_before]
    rfl
  simp only [pronounce, ↓reduceIte, blamed]

end Pronouncing

/-! Systems of rule files. -/

variable {file : RuleFile} {draws : Random.Draws} {system : SoundSystem}

theorem tried_of_compiled (compiled : Compiled file draws system) :
    Tried file.ipa system.spellings := by
  obtain ⟨same, inhabited, -, sorted⟩ := spellings_of_compiled file.ipa.distinct compiled.spellings
  refine ⟨fun spelling => ?_, inhabited, sorted⟩
  rw [same.mem_iff, file.ipa.find?_eq_some_iff, List.mem_map]
  constructor
  · rintro ⟨entry, listed, rfl⟩
    simpa using listed
  · intro listed
    exact ⟨_, listed, by simp⟩

/-- A word is cut in exactly one way into segments that are, from its front to its end, the longest
spellings of the file that stand there, or single characters where none does. Every segment takes up
some characters, so there is an end to them, and every cut is between two characters. The word sounds
as the segments do one after the other. Only a strict system refuses a word with segments that are no
spellings, and then it names the first of them. -/
theorem words_sound_as_longest_spellings (compiled : SoundSystem.ofFile file draws = .ok system)
    (word : Word) :
    ∃ parts, (∀ others, CutInto file.ipa word.toList others ↔ others = parts) ∧
      (∀ part ∈ parts, covered part ≠ []) ∧
      (∀ before after, parts = before ++ after → String.Pos.Raw.IsValid word ⟨offset before⟩) ∧
      (file.strictIpa = false ∨ Spelled parts →
        ((SoundSystem.engine draws).transcribe word system).1 =
          .ok (String.join (parts.map Segment.sound))) ∧
      (file.strictIpa = true → ¬ Spelled parts →
        ∃ before c after, parts = before ++ .plain c :: after ∧ Spelled before ∧
          ((SoundSystem.engine draws).transcribe word system).1 =
            .error (.transcription
              ("No IPA for '" ++ String.singleton c ++ "' in '" ++ word ++ "'"))) := by
  have parts := ofFile_ok_iff.mp compiled
  obtain ⟨cut, inhabited⟩ := cutInto_segments (tried_of_compiled parts) word.toList
  have answered : ((SoundSystem.engine draws).transcribe word system).1 =
      (pronounce system.spellings file.strictIpa word).mapError
        fun fault => .transcription fault.message := by
    rw [← parts.strict]
    rfl
  refine ⟨segments system.spellings word.toList, ?_, inhabited, ?_, ?_, ?_⟩
  · intro others
    constructor
    · exact fun cut' => cut'.unique cut
    · rintro rfl
      exact cut
  · intro before after split
    exact CutInto.valid (split ▸ cut)
  · intro spelled
    rw [answered, pronounce_ok spelled]
    rfl
  · intro strict unspelled
    obtain ⟨before, c, after, split, spelled⟩ :=
      (spelled_or_first (segments system.spellings word.toList)).resolve_left unspelled
    refine ⟨before, c, after, split, spelled, ?_⟩
    rw [answered, strict, pronounce_error spelled split]
    rfl

/-- A strict rule file in which one spelling begins with another one. -/
def digraphFile : RuleFile where
  syllables := []
  strictIpa := true
  classes := .empty
  weights := .empty
  ipa := .ofList [("c", "k"), ("ch", "tʃ"), ("a", "a")]
  rules := []

theorem tried_digraphFile :
    Tried digraphFile.ipa [⟨['c', 'h'], "tʃ"⟩, ⟨['a'], "a"⟩, ⟨['c'], "k"⟩] := by
  have entries : digraphFile.ipa.entries = [("c", "k"), ("ch", "tʃ"), ("a", "a")] := by decide
  have inOrder : (['a'] : List Char) < ['c'] := by decide
  refine ⟨fun spelling => ?_, by simp, by simp [Listed, inOrder]⟩
  obtain ⟨letters, sound⟩ := spelling
  rw [Dictionary.find?_eq_some_iff, entries]
  have letters_iff (text : String) : String.ofList letters = text ↔ letters = text.toList :=
    ⟨fun same => by rw [← same, String.toList_ofList], fun same => by rw [same, String.ofList_toList]⟩
  simp only [List.mem_cons, Spelling.mk.injEq, List.not_mem_nil, or_false, Prod.mk.injEq,
    letters_iff]
  exact or_assoc.symm.trans or_comm

/-- The longer spelling is taken, and a letter that no spelling stands for is named. -/
theorem digraph_is_taken :
    ∃ system, SoundSystem.ofFile digraphFile (.ofList []) = .ok system ∧
      ((SoundSystem.engine (.ofList [])).transcribe "cha" system).1 = .ok "tʃa" ∧
      ((SoundSystem.engine (.ofList [])).transcribe "cho" system).1 =
        .error (.transcription "No IPA for 'o' in 'cho'") := by
  obtain ⟨system, compiled⟩ : ∃ system,
      SoundSystem.ofFile digraphFile (.ofList []) = .ok system :=
    ⟨⟨[], [], _, true, [], .ofList [], false⟩,
      ofFile_ok_iff.mpr ⟨rfl, rfl, if_neg (by decide), rfl, rfl, rfl, rfl⟩⟩
  have cut (word : Word) := (cutInto_segments tried_digraphFile word.toList).1
  obtain ⟨parts, only, -, -, sounds, -⟩ := words_sound_as_longest_spellings compiled "cha"
  obtain ⟨parts', only', -, -, -, blames⟩ := words_sound_as_longest_spellings compiled "cho"
  have spelled : [.spelled ⟨['c', 'h'], "tʃ"⟩, .spelled ⟨['a'], "a"⟩] = parts := by
    rw [← (only _).mp (cut "cha")]
    decide +kernel
  have unspelled : [.spelled ⟨['c', 'h'], "tʃ"⟩, .plain 'o'] = parts' := by
    rw [← (only' _).mp (cut "cho")]
    decide +kernel
  refine ⟨system, compiled, ?_, ?_⟩
  · rw [sounds (.inr (by simp [← spelled, Spelled])), ← spelled]
    rfl
  · obtain ⟨before, c, after, split, -, answered⟩ := blames rfl (by simp [← unspelled, Spelled])
    rw [← unspelled] at split
    rcases before with _ | ⟨_, _ | ⟨_, _⟩⟩
    · cases split
    · cases split
      exact answered
    · simp at split

end SoundChange.LongestSpellings
