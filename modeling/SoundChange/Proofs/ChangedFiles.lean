import SoundChange.Proofs.FileTree

/-! Trees of files that differ in one place only, where one may have a file that the other lacks or
that holds something else. A path that does not lead to the place reads the same in both trees, and
writes to the same place. Only where one tree has no file there, a path must not go on behind the
place either, for then the two trees refuse it in different words. -/
namespace SoundChange.ChangedFiles
open Files FileTree

variable {files other : Files} {place target : List String} {path : String}

/-- Two trees that agree everywhere but at one place, where neither has a directory. -/
structure SameElsewhere (place : List String) (files other : Files) : Prop where
  elsewhere : ∀ target, target ≠ place → files.at? target = other.at? target
  noDirectory : files.at? place ≠ some .directory ∧ other.at? place ≠ some .directory
  here : files.here = other.here

/-- Both trees have a file at the place, or neither has. -/
def BothOrNeither (place : List String) (files other : Files) : Prop :=
  files.at? place = none ↔ other.at? place = none

/-- A path that leads to a place, to read what is there or to write it. -/
def LeadsTo (files : Files) (path : String) (place : List String) : Prop :=
  files.follow (files.start path) (parts path) = .ok place ∨ files.placeToWrite path = .ok place

/-- A path that comes to a place and goes on behind it. -/
def LeadsPast (files : Files) (path : String) (place : List String) : Prop :=
  ∃ before after, after ≠ [] ∧ parts path = before ++ after ∧
    files.follow (files.start path) before = .ok place

/-- A path that has nothing to do with the place where two trees differ. -/
structure Apart (place : List String) (files other : Files) (path : String) : Prop where
  ends : ¬ LeadsTo files path place ∧ ¬ LeadsTo other path place
  passes : BothOrNeither place files other ∨
    ¬ LeadsPast files path place ∧ ¬ LeadsPast other path place

/-- A single name goes on behind nothing. -/
theorem not_leadsPast_of_name {name : String} (single : parts path = [name])
    (away : files.start path ≠ place) : ¬ LeadsPast files path place := by
  rintro ⟨before, after, more, split, came⟩
  rw [single] at split
  cases before with
  | nil =>
    cases came
    exact away rfl
  | cons first before =>
    have nothing : before = [] ∧ after = [] := by simpa using (List.cons.inj split).2
    exact more nothing.2

/-! What stands at a place. -/

/-- Entries that are the same, or are both files. -/
def Kin (entry other : Option Entry) : Prop :=
  entry = other ∨ ∃ content content', entry = some (.file content) ∧ other = some (.file content')

theorem Kin.none_iff {entry other : Option Entry} (kin : Kin entry other) :
    entry = none ↔ other = none := by
  rcases kin with rfl | ⟨content, content', rfl, rfl⟩
  · rfl
  · simp

theorem SameElsewhere.kin (same : SameElsewhere place files other)
    (settled : BothOrNeither place files other ∨ target ≠ place) :
    Kin (files.at? target) (other.at? target) := by
  by_cases here : target = place
  · subst here
    obtain ⟨noDirectory, noDirectory'⟩ := same.noDirectory
    have both : BothOrNeither target files other := settled.resolve_right (by simp)
    rw [BothOrNeither] at both
    rcases entry : files.at? target with _ | _ | _ <;>
      rcases entry' : other.at? target with _ | _ | _ <;> simp_all [Kin]
  · exact .inl (same.elsewhere target here)

theorem SameElsewhere.directory_iff (same : SameElsewhere place files other)
    (target : List String) :
    files.at? target = some .directory ↔ other.at? target = some .directory := by
  by_cases here : target = place
  · subst here
    simp [same.noDirectory]
  · rw [same.elsewhere target here]

theorem SameElsewhere.start (same : SameElsewhere place files other) (path : String) :
    files.start path = other.start path := by
  rw [Files.start, Files.start, same.here]

/-! Following a path. -/

/-- A step goes the same way if what it looks at is of the same kind. Whether something stands below
only matters to a step that goes down. -/
theorem enter_congr {part : String} (here : Kin (files.at? target) (other.at? target))
    (below : (files.at? (target ++ [part]) = none ↔ other.at? (target ++ [part]) = none) ∨
      files.enter target part ≠ .ok (target ++ [part]) ∧
        other.enter target part ≠ .ok (target ++ [part])) :
    files.enter target part = other.enter target part := by
  rcases here with equal | ⟨content, content', stands, stands'⟩
  · rw [enter, enter, equal] at below ⊢
    cases stands : other.at? target with
    | none => rfl
    | some entry =>
      cases entry with
      | file _ => rfl
      | directory =>
        simp only [stands] at below ⊢
        split
        · rfl
        split
        · rfl
        split
        · rfl
        next moves up short =>
          simp only [moves, up, short, if_false] at below
          cases found : files.at? (target ++ [part]) <;>
            cases found' : other.at? (target ++ [part]) <;> simp_all
  · rw [enter, enter, stands, stands']

theorem follow_cons (part : String) (others : List String) :
    files.follow target (part :: others) =
      (files.enter target part).bind fun next => files.follow next others := by
  rw [follow]
  cases files.enter target part <;> rfl

/-- Trees with the same kinds of entries have the same ways. -/
theorem follow_of_bothOrNeither (same : SameElsewhere place files other)
    (both : BothOrNeither place files other) (target : List String) (ways : List String) :
    files.follow target ways = other.follow target ways := by
  induction ways generalizing target with
  | nil => rfl
  | cons part ways ih =>
    have step : files.enter target part = other.enter target part :=
      enter_congr (same.kin (.inl both)) (.inl (same.kin (.inl both)).none_iff)
    simp only [follow_cons, step, ih]

/-- A way that never comes to the place is the same in both trees. -/
theorem follow_of_avoided (same : SameElsewhere place files other) {target : List String}
    {ways : List String}
    (avoided : ∀ before after, ways = before ++ after →
      files.follow target before ≠ .ok place ∧ other.follow target before ≠ .ok place) :
    files.follow target ways = other.follow target ways := by
  induction ways generalizing target with
  | nil => rfl
  | cons part ways ih =>
    have away : target ≠ place := by
      rintro rfl
      exact (avoided [] (part :: ways) rfl).1 rfl
    have oneStep : files.enter target part ≠ .ok place ∧ other.enter target part ≠ .ok place := by
      have first := avoided [part] ways rfl
      simp only [follow_cons] at first
      constructor
      · intro entered
        exact first.1 (by rw [entered]; rfl)
      · intro entered
        exact first.2 (by rw [entered]; rfl)
    have step : files.enter target part = other.enter target part := by
      refine enter_congr (same.kin (.inr away)) ?_
      by_cases below : target ++ [part] = place
      · right
        rwa [below]
      · left
        rw [same.elsewhere _ below]
    simp only [follow_cons, step]
    cases entered : other.enter target part with
    | error fault => rfl
    | ok next =>
      apply ih
      intro before after split
      have later := avoided (part :: before) after (by rw [split, List.cons_append])
      simp only [follow_cons, step, entered] at later
      exact later

/-! Paths that have nothing to do with the place. -/

variable {ways others : List String}

/-- Wherever such a path comes by, both trees have the same kind of entry. -/
theorem Apart.settled (apart : Apart place files other path) (split : parts path = ways ++ others)
    (followed : files.follow (files.start path) ways = .ok target) :
    BothOrNeither place files other ∨ target ≠ place := by
  rcases apart.passes with both | ⟨notPast, -⟩
  · exact .inl both
  · right
    rintro rfl
    by_cases last : others = []
    · rw [last, List.append_nil] at split
      exact apart.ends.1 (.inl (split ▸ followed))
    · exact notPast ⟨ways, others, last, split, followed⟩

theorem Apart.follow_congr (same : SameElsewhere place files other)
    (apart : Apart place files other path) (split : parts path = ways ++ others) :
    files.follow (files.start path) ways = other.follow (other.start path) ways := by
  rw [← same.start]
  rcases apart.passes with both | ⟨notPast, notPast'⟩
  · exact follow_of_bothOrNeither same both _ ways
  · apply follow_of_avoided same
    rintro before after rfl
    rw [List.append_assoc] at split
    rw [LeadsPast, ← same.start] at notPast'
    have notLeads' := apart.ends.2
    rw [LeadsTo, ← same.start] at notLeads'
    by_cases last : after ++ others = []
    · rw [last, List.append_nil] at split
      subst split
      exact ⟨fun came => apart.ends.1 (.inl came), fun came => notLeads' (.inl came)⟩
    · exact ⟨fun came => notPast ⟨before, _, last, split, came⟩,
        fun came => notPast' ⟨before, _, last, split, came⟩⟩

/-- A path that has nothing to do with the changed place reads the same in both trees. -/
theorem Apart.read_congr (same : SameElsewhere place files other)
    (apart : Apart place files other path) : files.read path = other.read path := by
  have ways : files.follow (files.start path) (parts path) =
      other.follow (other.start path) (parts path) :=
    apart.follow_congr same (List.append_nil _).symm
  rw [Files.read, Files.read, ← ways]
  cases pathFault? path with
  | some fault => rfl
  | none =>
    cases followed : files.follow (files.start path) (parts path) with
    | error fault => rfl
    | ok target =>
      have away : target ≠ place := by
        rintro rfl
        exact apart.ends.1 (.inl followed)
      simp only [same.elsewhere target away]

/-- A path that has nothing to do with the changed place writes to one place in both trees. -/
theorem Apart.placeToWrite_congr (same : SameElsewhere place files other)
    (apart : Apart place files other path) : files.placeToWrite path = other.placeToWrite path := by
  obtain ⟨last, split⟩ := wayTo_prefix path
  have ways : files.follow (files.start path) (wayTo path) =
      other.follow (other.start path) (wayTo path) :=
    apart.follow_congr same split.symm
  rw [placeToWrite, placeToWrite, ← ways]
  cases pathFault? path with
  | some fault => rfl
  | none =>
    cases followed : files.follow (files.start path) (wayTo path) with
    | error fault => rfl
    | ok target =>
      simp only [same.directory_iff]
      rcases same.kin (apart.settled split.symm followed) with
        equal | ⟨content, content', stands, stands'⟩
      · rw [equal]
      · rw [stands, stands']

/-- What is put at another place leaves the trees alike but for the place. -/
theorem SameElsewhere.put (same : SameElsewhere place files other) {entry : Entry}
    (inside : target ≠ []) (away : target ≠ place) :
    SameElsewhere place (files.put target entry) (other.put target entry) where
  elsewhere target' apart := by
    rw [at?_put inside, at?_put inside, same.elsewhere target' apart]
  noDirectory := by
    rw [at?_put inside, at?_put inside, if_neg away.symm, if_neg away.symm]
    exact same.noDirectory
  here := same.here

/-- A new file, or a file with something else in it, is all that changes when it is put. -/
theorem sameElsewhere_put {content : List UInt8} (inside : place ≠ [])
    (free : files.at? place ≠ some .directory) :
    SameElsewhere place files (files.put place (.file content)) where
  elsewhere target away := by rw [at?_put inside, if_neg away]
  noDirectory := by
    rw [at?_put inside, if_pos rfl]
    exact ⟨free, by simp⟩
  here := rfl

/-- Both trees refuse to write to such a path with the same fault, or what is written leaves them
alike but for the place, where nothing changes. -/
theorem Apart.write_congr (same : SameElsewhere place files other)
    (apart : Apart place files other path) (text : String) :
    (∃ fault, files.write path text = .error fault ∧ other.write path text = .error fault) ∨
      ∃ after after', files.write path text = .ok after ∧ other.write path text = .ok after' ∧
        SameElsewhere place after after' ∧ after.at? place = files.at? place ∧
        after'.at? place = other.at? place := by
  rw [Files.write, Files.write, ← apart.placeToWrite_congr same]
  cases open_ : files.placeToWrite path with
  | error fault => exact .inl ⟨fault, rfl, rfl⟩
  | ok target =>
    have away : target ≠ place := by
      rintro rfl
      exact apart.ends.1 (.inr open_)
    obtain ⟨directory, name, named, -⟩ := placeToWrite_ok_iff.mp open_
    have inside : target ≠ [] := by
      rw [named]
      exact List.append_ne_nil_of_right_ne_nil _ (by simp)
    refine .inr ⟨_, _, rfl, rfl, same.put inside away, ?_, ?_⟩
    · rw [at?_put inside, if_neg away.symm]
    · rw [at?_put inside, if_neg away.symm]

end SoundChange.ChangedFiles
