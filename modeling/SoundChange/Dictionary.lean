/-!
Dictionaries: values under distinct keys, in the order in which the keys first came. Putting a value
under a key that is taken replaces the value there. `find?` is the view of a dictionary as a map:
two dictionaries with the same entries in another order answer it alike.
-/
namespace SoundChange

/-- Values under distinct keys. -/
structure Dictionary (α : Type) where
  entries : List (String × α)
  distinct : (entries.map Prod.fst).Nodup
  deriving DecidableEq

namespace Dictionary

variable {α : Type}

def empty : Dictionary α := ⟨[], by simp⟩

/-- The value under a key in a list of entries. -/
def lookup (key : String) : List (String × α) → Option α
  | [] => none
  | (key', a) :: others => if key' = key then some a else lookup key others

def find? (dictionary : Dictionary α) (key : String) : Option α :=
  lookup key dictionary.entries

/-- The entries with a value put under a key. -/
def putEntry (key : String) (a : α) : List (String × α) → List (String × α)
  | [] => [(key, a)]
  | (key', a') :: others =>
    if key' = key then (key, a) :: others else (key', a') :: putEntry key a others

theorem mem_keys_putEntry (key other : String) (a : α) (entries : List (String × α)) :
    other ∈ (putEntry key a entries).map Prod.fst ↔
      other = key ∨ other ∈ entries.map Prod.fst := by
  induction entries with
  | nil => simp [putEntry]
  | cons entry others same =>
    obtain ⟨key', a'⟩ := entry
    by_cases taken : key' = key
    · subst taken
      simp [putEntry]
    · rw [putEntry, if_neg taken, List.map_cons, List.mem_cons, same, List.map_cons,
        List.mem_cons]
      exact or_left_comm

theorem nodup_keys_putEntry (key : String) (a : α) {entries : List (String × α)}
    (distinct : (entries.map Prod.fst).Nodup) :
    ((putEntry key a entries).map Prod.fst).Nodup := by
  induction entries with
  | nil => simp [putEntry]
  | cons entry others same =>
    obtain ⟨key', a'⟩ := entry
    rw [List.map_cons, List.nodup_cons] at distinct
    by_cases taken : key' = key
    · subst taken
      simpa [putEntry] using distinct
    · rw [putEntry, if_neg taken, List.map_cons, List.nodup_cons]
      refine ⟨?_, same distinct.2⟩
      rw [mem_keys_putEntry]
      rintro (equal | member)
      · exact taken equal
      · exact distinct.1 member

/-- Puts a value under a key. -/
def put (dictionary : Dictionary α) (key : String) (a : α) : Dictionary α :=
  ⟨putEntry key a dictionary.entries, nodup_keys_putEntry key a dictionary.distinct⟩

/-- The dictionary of some entries; of those with the same key, the last one counts. -/
def ofList (entries : List (String × α)) : Dictionary α :=
  entries.foldl (fun dictionary entry => dictionary.put entry.1 entry.2) empty

theorem lookup_eq_some_iff {entries : List (String × α)}
    (distinct : (entries.map Prod.fst).Nodup) {key : String} {a : α} :
    lookup key entries = some a ↔ (key, a) ∈ entries := by
  induction entries with
  | nil => simp [lookup]
  | cons entry others same =>
    obtain ⟨key', a'⟩ := entry
    rw [List.map_cons, List.nodup_cons] at distinct
    by_cases taken : key' = key
    · subst taken
      have absent : (key', a) ∉ others := fun member =>
        distinct.1 (List.mem_map.mpr ⟨_, member, rfl⟩)
      simp [lookup, absent, eq_comm]
    · simp [lookup, taken, Ne.symm taken, same distinct.2]

/-- What is found under a key is what is listed under it. -/
theorem find?_eq_some_iff (dictionary : Dictionary α) {key : String} {a : α} :
    dictionary.find? key = some a ↔ (key, a) ∈ dictionary.entries :=
  lookup_eq_some_iff dictionary.distinct

theorem lookup_putEntry (key other : String) (a : α) (entries : List (String × α)) :
    lookup other (putEntry key a entries) =
      if key = other then some a else lookup other entries := by
  induction entries with
  | nil => simp [putEntry, lookup]
  | cons entry others same =>
    obtain ⟨key', a'⟩ := entry
    by_cases taken : key' = key
    · subst taken
      by_cases asked : key' = other <;> simp [putEntry, lookup, asked]
    · by_cases asked : key' = other
      · subst asked
        simp [putEntry, lookup, taken, Ne.symm taken]
      · simp [putEntry, lookup, taken, asked, same]

/-- What is put under a key is found there, and nothing else changes. -/
theorem find?_put (dictionary : Dictionary α) (key other : String) (a : α) :
    (dictionary.put key a).find? other =
      if key = other then some a else dictionary.find? other :=
  lookup_putEntry key other a dictionary.entries

end Dictionary

end SoundChange
