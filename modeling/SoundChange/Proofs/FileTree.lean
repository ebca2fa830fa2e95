import SoundChange.Files
import Mathlib.Data.List.Basic

/-! Reading what was written. Putting a file where no directory stands changes what stands at its
place and nowhere else, so every path that led somewhere still leads there, and the path that was
written to leads to the new file. -/
namespace SoundChange.FileTree
open Files

variable {files : Files} {place target : List String} {entry : Entry} {content : List UInt8}

theorem lookup?_putEntry (entries : List (List String × Entry)) :
    lookup? place (putEntry target entry entries) =
      if place = target then some entry else lookup? place entries := by
  induction entries with
  | nil => simp only [putEntry, lookup?, eq_comm (a := target)]
  | cons first others ih =>
    rw [putEntry]
    by_cases replaced : first.1 = target
    · rw [if_pos replaced, lookup?, lookup?, replaced]
      by_cases here : place = target
      · rw [if_pos here, if_pos here.symm]
      · rw [if_neg here, if_neg (Ne.symm here), if_neg (Ne.symm here)]
    · rw [if_neg replaced, lookup?, lookup?, ih]
      by_cases here : first.1 = place
      · rw [if_pos here, if_pos here, if_neg (here ▸ replaced)]
      · rw [if_neg here, if_neg here]

theorem at?_put (inside : target ≠ []) :
    (files.put target entry).at? place = if place = target then some entry else files.at? place := by
  rw [at?, at?, Files.put, lookup?_putEntry]
  by_cases top : place = []
  · rw [if_pos top, if_pos top, if_neg (top ▸ inside.symm)]
  · rw [if_neg top, if_neg top]

theorem start_put (path : String) : (files.put target entry).start path = files.start path := rfl

/-- Everything of one tree stands in another one too, and its directories are directories there. -/
structure Extends (files more : Files) : Prop where
  directory : ∀ place, files.at? place = some .directory → more.at? place = some .directory
  present : ∀ place entry, files.at? place = some entry → ∃ entry', more.at? place = some entry'

theorem extends_put (inside : target ≠ []) (free : files.at? target ≠ some .directory) :
    Extends files (files.put target (.file content)) where
  directory place stands := by
    have elsewhere : place ≠ target := fun same => free (same ▸ stands)
    rw [at?_put inside, if_neg elsewhere, stands]
  present place entry stands := by
    rw [at?_put inside]
    by_cases here : place = target
    · exact ⟨_, if_pos here⟩
    · exact ⟨entry, by rw [if_neg here, stands]⟩

/-- A step that leads somewhere still leads there when more stands in the tree. -/
theorem enter_of_extends {more : Files} (larger : Extends files more) {part : String}
    {next : List String} (entered : files.enter place part = .ok next) :
    more.enter place part = .ok next := by
  rw [enter] at entered ⊢
  cases stands : files.at? place with
  | none => rw [stands] at entered; cases entered
  | some found =>
    rw [stands] at entered
    cases found with
    | file _ => cases entered
    | directory =>
      rw [larger.directory place stands]
      simp only at entered ⊢
      by_cases stay : part = "" ∨ part = "."
      · rw [if_pos stay] at entered ⊢
        exact entered
      rw [if_neg stay] at entered ⊢
      by_cases up : part = ".."
      · rw [if_pos up] at entered ⊢
        exact entered
      rw [if_neg up] at entered ⊢
      by_cases long : nameLimit < part.utf8ByteSize
      · rw [if_pos long] at entered
        cases entered
      rw [if_neg long] at entered ⊢
      cases below : files.at? (place ++ [part]) with
      | none => rw [below] at entered; cases entered
      | some entry =>
        obtain ⟨entry', present⟩ := larger.present _ _ below
        rw [below] at entered
        rw [present]
        exact entered

theorem follow_of_extends {more : Files} (larger : Extends files more) {parts : List String}
    {last : List String} (followed : files.follow place parts = .ok last) :
    more.follow place parts = .ok last := by
  induction parts generalizing place with
  | nil => exact followed
  | cons part parts ih =>
    rw [follow] at followed ⊢
    cases entered : files.enter place part with
    | error fault => rw [entered] at followed; cases followed
    | ok next =>
      rw [entered] at followed
      rw [enter_of_extends larger entered]
      exact ih followed

theorem follow_append (before after : List String) :
    files.follow place (before ++ after) =
      (files.follow place before).bind fun place => files.follow place after := by
  induction before generalizing place with
  | nil => rfl
  | cons part before ih =>
    rw [List.cons_append, follow, follow]
    cases files.enter place part with
    | error fault => rfl
    | ok next => exact ih

/-- A path to a file that can be written: a name in a directory, where no directory stands. -/
structure Writable (files : Files) (path : String) (directory : List String) (name : String) :
    Prop where
  allowed : pathFault? path = none
  followed : files.follow (files.start path) (wayTo path) = .ok directory
  last : (parts path).getLast?.getD "" = name
  stands : files.at? directory = some .directory
  named : ¬ (name = "" ∨ name = "." ∨ name = "..")
  short : ¬ nameLimit < name.utf8ByteSize
  free : files.at? (directory ++ [name]) ≠ some .directory

theorem placeToWrite_ok_iff {path : String} :
    files.placeToWrite path = .ok target ↔
      ∃ directory name, target = directory ++ [name] ∧ Writable files path directory name := by
  rw [placeToWrite]
  constructor
  · intro open_
    split at open_
    · cases open_
    next allowed =>
    split at open_
    · cases open_
    next directory followed =>
    dsimp only at open_
    split at open_
    · next stands =>
      split at open_
      · cases open_
      next named =>
      split at open_
      · cases open_
      next short =>
      split at open_
      · cases open_
      next free =>
      cases open_
      exact ⟨directory, _, rfl, allowed, followed, rfl, stands, named, short, free⟩
    · cases open_
    · cases open_
  · rintro ⟨directory, name, rfl, allowed, followed, last, stands, named, short, free⟩
    simp only [allowed, followed, last, stands, named, short, free, if_false]

theorem wayTo_prefix (path : String) : wayTo path <+: parts path := by
  have kept := List.reverse_prefix.mpr (List.dropWhile_suffix (· == "") (l := (parts path).reverse))
  rw [List.reverse_reverse] at kept
  exact (List.dropLast_prefix _).trans kept

/-- A name that a path ends in comes right behind the way to it. -/
theorem wayTo_append_name {path name : String} (last : (parts path).getLast?.getD "" = name)
    (named : ¬ (name = "" ∨ name = "." ∨ name = "..")) : wayTo path ++ [name] = parts path := by
  cases ends : (parts path).getLast? with
  | none =>
    rw [ends] at last
    exact absurd (.inl last.symm) named
  | some other =>
    rw [ends] at last
    cases last
    obtain ⟨front, split⟩ := List.getLast?_eq_some_iff.mp ends
    have inhabited : (other == "") = false := by simpa using fun empty => named (.inl empty)
    simp [wayTo, split, inhabited]

/-- A step down to what stands in a directory. -/
theorem enter_made {name : String} (stands : files.at? place = some .directory)
    (named : ¬ (name = "" ∨ name = "." ∨ name = ".."))
    (short : ¬ nameLimit < name.utf8ByteSize) (made : files.at? (place ++ [name]) = some entry) :
    files.enter place name = .ok (place ++ [name]) := by
  have moves : ¬ (name = "" ∨ name = ".") := fun stay => named (stay.imp_right .inl)
  have down : name ≠ ".." := fun up => named (.inr (.inr up))
  rw [enter, stands]
  simp only
  rw [if_neg moves, if_neg down, if_neg short, made]

/-- What was put where a path can be written is read from it. -/
theorem Writable.read_put {path directory name} (writable : Writable files path directory name) :
    (files.put (directory ++ [name]) (.file content)).read path = .ok content := by
  have inside : directory ++ [name] ≠ [] := List.append_ne_nil_of_right_ne_nil _ (by simp)
  have larger : Extends files (files.put (directory ++ [name]) (.file content)) :=
    extends_put inside writable.free
  have made : (files.put (directory ++ [name]) (.file content)).at? (directory ++ [name]) =
      some (.file content) := by
    rw [at?_put inside, if_pos rfl]
  have entered := enter_made (larger.directory _ writable.stands) writable.named writable.short made
  rw [Files.read, writable.allowed, ← wayTo_append_name writable.last writable.named, start_put,
    follow_append, follow_of_extends larger writable.followed]
  simp only [Except.bind, follow, entered, made]

/-- A path that was written to can be written to again. -/
theorem Writable.put {path directory name} (writable : Writable files path directory name) :
    Writable (files.put (directory ++ [name]) (.file content)) path directory name := by
  have inside : directory ++ [name] ≠ [] := List.append_ne_nil_of_right_ne_nil _ (by simp)
  have larger : Extends files (files.put (directory ++ [name]) (.file content)) :=
    extends_put inside writable.free
  exact { writable with
    followed := follow_of_extends larger writable.followed
    stands := larger.directory _ writable.stands
    free := by simp [at?_put inside] }

theorem write_ok_iff {after : Files} {path text : String} :
    files.write path text = .ok after ↔ ∃ directory name, Writable files path directory name ∧
      after = files.put (directory ++ [name]) (.file (Text.Utf8.encode text.toList)) := by
  rw [Files.write]
  constructor
  · intro written
    split at written
    · cases written
    next target open_ =>
    cases written
    obtain ⟨directory, name, rfl, writable⟩ := placeToWrite_ok_iff.mp open_
    exact ⟨directory, name, writable, rfl⟩
  · rintro ⟨directory, name, writable, rfl⟩
    rw [placeToWrite_ok_iff.mpr ⟨directory, name, rfl, writable⟩]

/-- What was written to a path is read from it. -/
theorem read_write {after : Files} {path text : String}
    (written : files.write path text = .ok after) :
    after.read path = .ok (Text.Utf8.encode text.toList) := by
  obtain ⟨directory, name, writable, rfl⟩ := write_ok_iff.mp written
  exact writable.read_put

/-- What was written to a path once can be replaced. -/
theorem write_again {after : Files} {path text : String}
    (written : files.write path text = .ok after) (text' : String) :
    ∃ later, after.write path text' = .ok later := by
  obtain ⟨directory, name, writable, rfl⟩ := write_ok_iff.mp written
  exact ⟨_, write_ok_iff.mpr ⟨directory, name, writable.put, rfl⟩⟩

/-- A path that leads to another place is read as before. -/
theorem read_put_of_ne {path : String}
    (followed : files.follow (files.start path) (parts path) = .ok place)
    (elsewhere : place ≠ target) (inside : target ≠ [])
    (free : files.at? target ≠ some .directory) :
    (files.put target (.file content)).read path = files.read path := by
  rw [Files.read, Files.read, start_put, followed,
    follow_of_extends (extends_put inside free) followed]
  simp only [at?_put inside, if_neg elsewhere]

end SoundChange.FileTree
