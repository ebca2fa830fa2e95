import SoundChange.Unicode.Property

/-! What a set of code points holds. Ranges are merged without gaining or losing a code point, what
is left of them is separated by gaps, and in separated ranges the search finds a code point exactly
when one of them covers it. -/
namespace SoundChange.CodeSets
open Unicode CodeSet

variable {code : Nat}

/-- Whether some range holds a code point. -/
def Covers (ranges : List (Nat × Nat)) (code : Nat) : Prop :=
  ∃ r ∈ ranges, r.1 ≤ code ∧ code ≤ r.2

theorem covers_cons {r : Nat × Nat} {ranges : List (Nat × Nat)} :
    Covers (r :: ranges) code ↔ (r.1 ≤ code ∧ code ≤ r.2) ∨ Covers ranges code := by
  simp only [Covers, List.mem_cons, exists_eq_or_imp]

theorem covers_append {a b : List (Nat × Nat)} :
    Covers (a ++ b) code ↔ Covers a code ∨ Covers b code := by
  simp only [Covers, List.mem_append, or_and_right, exists_or]

/-- Ranges that hold something each, in ascending order, with gaps between them. -/
structure Separated (ranges : List (Nat × Nat)) : Prop where
  inhabited : ∀ r ∈ ranges, r.1 ≤ r.2
  ascending : ranges.Pairwise fun a b => a.2 < b.1

/-! Merging. -/

section Merging
variable {current : Nat × Nat} {others : List (Nat × Nat)}

theorem covers_mergeRanges (sorted : (current :: others).Pairwise fun a b => a.1 ≤ b.1)
    (inhabited : ∀ r ∈ current :: others, r.1 ≤ r.2) :
    Covers (mergeRanges current others) code ↔ Covers (current :: others) code := by
  induction others generalizing current with
  | nil => rfl
  | cons next others ih =>
    obtain ⟨first, rest⟩ := List.pairwise_cons.mp sorted
    obtain ⟨second, _⟩ := List.pairwise_cons.mp rest
    have starts : current.1 ≤ next.1 := first next List.mem_cons_self
    have here := inhabited current List.mem_cons_self
    have there := inhabited next (List.mem_cons_of_mem _ List.mem_cons_self)
    rw [mergeRanges]
    by_cases touching : next.1 ≤ current.2 + 1
    · rw [if_pos touching, ih, covers_cons, covers_cons, covers_cons, ← or_assoc]
      · refine or_congr_left ?_
        simp only
        omega
      · exact List.pairwise_cons.mpr ⟨fun r member => Nat.le_trans starts (second r member),
          rest.of_cons⟩
      · intro r member
        rcases List.mem_cons.mp member with rfl | member
        · simp only
          omega
        · exact inhabited r (List.mem_cons_of_mem _ (List.mem_cons_of_mem _ member))
    · rw [if_neg touching, covers_cons, covers_cons,
        ih rest fun r member => inhabited r (List.mem_cons_of_mem _ member)]

theorem start_le_of_mem_mergeRanges (sorted : (current :: others).Pairwise fun a b => a.1 ≤ b.1)
    {r : Nat × Nat} (member : r ∈ mergeRanges current others) : current.1 ≤ r.1 := by
  induction others generalizing current with
  | nil =>
    rw [mergeRanges, List.mem_singleton] at member
    exact Nat.le_of_eq (congrArg Prod.fst member.symm)
  | cons next others ih =>
    obtain ⟨first, rest⟩ := List.pairwise_cons.mp sorted
    have starts : current.1 ≤ next.1 := first next List.mem_cons_self
    rw [mergeRanges] at member
    split at member
    · have sorted : ((current.1, max current.2 next.2) :: others).Pairwise fun a b => a.1 ≤ b.1 :=
        List.pairwise_cons.mpr ⟨fun r inside => first r (List.mem_cons_of_mem _ inside),
          rest.of_cons⟩
      exact (ih sorted member :)
    · rcases List.mem_cons.mp member with rfl | member
      · exact Nat.le_refl _
      · exact Nat.le_trans starts (ih rest member)

theorem separated_mergeRanges (sorted : (current :: others).Pairwise fun a b => a.1 ≤ b.1)
    (inhabited : ∀ r ∈ current :: others, r.1 ≤ r.2) :
    Separated (mergeRanges current others) := by
  induction others generalizing current with
  | nil => exact ⟨inhabited, List.pairwise_singleton _ _⟩
  | cons next others ih =>
    obtain ⟨first, rest⟩ := List.pairwise_cons.mp sorted
    have here := inhabited current List.mem_cons_self
    rw [mergeRanges]
    by_cases touching : next.1 ≤ current.2 + 1
    · rw [if_pos touching]
      refine ih ?_ fun r member => ?_
      · exact List.pairwise_cons.mpr ⟨fun r inside => first r (List.mem_cons_of_mem _ inside),
          rest.of_cons⟩
      · rcases List.mem_cons.mp member with rfl | member
        · exact Nat.le_trans here (Nat.le_max_left _ _)
        · exact inhabited r (List.mem_cons_of_mem _ (List.mem_cons_of_mem _ member))
    · rw [if_neg touching]
      have merged := ih rest fun r member => inhabited r (List.mem_cons_of_mem _ member)
      refine ⟨fun r member => ?_, List.pairwise_cons.mpr ⟨fun r member => ?_, merged.ascending⟩⟩
      · rcases List.mem_cons.mp member with rfl | member
        · exact here
        · exact merged.inhabited r member
      · have starts := start_le_of_mem_mergeRanges rest member
        omega

end Merging

/-- The ranges that are merged, in the order in which they are. -/
theorem sorted_filtered (ranges : List (Nat × Nat)) :
    ((ranges.filter fun r => r.1 ≤ r.2).mergeSort fun a b => a.1 ≤ b.1).Pairwise
        (fun a b => a.1 ≤ b.1) ∧
      ∀ r, r ∈ ((ranges.filter fun r => r.1 ≤ r.2).mergeSort fun a b => a.1 ≤ b.1) ↔
        r ∈ ranges ∧ r.1 ≤ r.2 := by
  constructor
  · refine (List.pairwise_mergeSort ?_ ?_ _).imp of_decide_eq_true
    · simp only [decide_eq_true_eq]
      omega
    · simp only [Bool.or_eq_true, decide_eq_true_eq]
      omega
  · simp only [List.mem_mergeSort, List.mem_filter, decide_eq_true_eq, implies_true]

/-- Ranges given in any order, also overlapping or empty ones, make separated ranges that hold the
same code points. -/
theorem ofRanges_spec (ranges : List (Nat × Nat)) :
    Separated (ofRanges ranges).ranges.toList ∧
      ∀ code, Covers (ofRanges ranges).ranges.toList code ↔ Covers ranges code := by
  obtain ⟨sorted, members⟩ := sorted_filtered ranges
  have same code : Covers ((ranges.filter fun r => r.1 ≤ r.2).mergeSort fun a b => a.1 ≤ b.1) code ↔
      Covers ranges code := by
    simp only [Covers, members]
    constructor
    · rintro ⟨r, ⟨member, _⟩, inside⟩
      exact ⟨r, member, inside⟩
    · rintro ⟨r, member, inside⟩
      exact ⟨r, ⟨member, Nat.le_trans inside.1 inside.2⟩, inside⟩
  simp only [ofRanges, ← same]
  split
  next nothing =>
    rw [nothing]
    exact ⟨⟨by simp [empty], by simp [empty]⟩, fun _ => Iff.rfl⟩
  next first others found =>
    rw [found] at sorted ⊢
    have inhabited : ∀ r ∈ first :: others, r.1 ≤ r.2 :=
      fun r member => ((members r).mp (found ▸ member)).2
    exact ⟨separated_mergeRanges sorted inhabited, fun _ => covers_mergeRanges sorted inhabited⟩

/-! Searching. -/

/-- In separated ranges, what lies below a range does not lie in or behind it. -/
theorem Separated.before {ranges : List (Nat × Nat)} (separated : Separated ranges) {i j : Nat}
    (before : i < j) {a b : Nat × Nat} (first : ranges[i]? = some a) (second : ranges[j]? = some b) :
    a.2 < b.1 := by
  obtain ⟨inFirst, rfl⟩ := List.getElem?_eq_some_iff.mp first
  obtain ⟨inSecond, rfl⟩ := List.getElem?_eq_some_iff.mp second
  exact List.pairwise_iff_getElem.mp separated.ascending i j inFirst inSecond before

/-- A search between two indices finds a code point if and only if a range there holds it: a range
that lies above the code point rules out all that follow, and one below it all before. -/
theorem searchRange_iff {ranges : Array (Nat × Nat)} (separated : Separated ranges.toList)
    {low high : Nat} (within : high ≤ ranges.size) :
    searchRange ranges code low high = true ↔
      ∃ i, low ≤ i ∧ i < high ∧ ∃ r, ranges.toList[i]? = some r ∧ r.1 ≤ code ∧ code ≤ r.2 := by
  fun_induction searchRange ranges code low high with
  | case1 low high inside middle missing =>
    have bound : middle < ranges.size := by omega
    rw [Array.getElem?_eq_getElem bound] at missing
    cases missing
  | case2 low high inside middle first last found below ih =>
    rw [ih (by omega)]
    rw [← Array.getElem?_toList] at found
    constructor
    · rintro ⟨i, lower, upper, held⟩
      exact ⟨i, lower, by omega, held⟩
    · rintro ⟨i, lower, upper, r, at_, holds⟩
      refine ⟨i, lower, Nat.lt_of_not_le fun beyond => ?_, r, at_, holds⟩
      rcases Nat.lt_or_eq_of_le beyond with after | rfl
      · have apart := separated.before after found at_
        have inhabited := separated.inhabited _ (List.mem_of_getElem? found)
        simp only at apart inhabited
        omega
      · cases found.symm.trans at_
        omega
  | case3 low high inside middle first last found notBelow above ih =>
    rw [ih within]
    rw [← Array.getElem?_toList] at found
    constructor
    · rintro ⟨i, lower, upper, held⟩
      exact ⟨i, by omega, upper, held⟩
    · rintro ⟨i, lower, upper, r, at_, holds⟩
      refine ⟨i, Nat.lt_of_not_le fun beyond => ?_, upper, r, at_, holds⟩
      rcases Nat.lt_or_eq_of_le beyond with earlier | rfl
      · have apart := separated.before earlier at_ found
        simp only at apart
        omega
      · cases found.symm.trans at_
        omega
  | case4 low high inside middle first last found notBelow notAbove =>
    rw [← Array.getElem?_toList] at found
    exact iff_of_true rfl ⟨middle, by omega, by omega, _, found, by omega, by omega⟩
  | case5 low high outside =>
    refine iff_of_false Bool.false_ne_true ?_
    rintro ⟨i, lower, upper, _⟩
    omega

theorem contains_iff {set : CodeSet} (separated : Separated set.ranges.toList) :
    set.contains code = true ↔ Covers set.ranges.toList code := by
  rw [contains, searchRange_iff separated (Nat.le_refl _)]
  constructor
  · rintro ⟨_, _, _, r, at_, holds⟩
    exact ⟨r, List.mem_of_getElem? at_, holds⟩
  · rintro ⟨r, member, holds⟩
    obtain ⟨i, at_⟩ := List.mem_iff_getElem?.mp member
    obtain ⟨bound, _⟩ := List.getElem?_eq_some_iff.mp at_
    exact ⟨i, Nat.zero_le i, bound, r, at_, holds⟩

/-- The set of some ranges holds what they hold. -/
theorem contains_ofRanges (ranges : List (Nat × Nat)) :
    (ofRanges ranges).contains code = true ↔ Covers ranges code := by
  rw [contains_iff (ofRanges_spec ranges).1, (ofRanges_spec ranges).2]

/-! Property tables. -/

theorem contains_union (a b : CodeSet) :
    (a.union b).contains code = true ↔
      Covers a.ranges.toList code ∨ Covers b.ranges.toList code := by
  rw [union, contains_ofRanges, covers_append]

/-- A set made of categories and of a further table holds what the tables hold. -/
theorem contains_extended (categories : List Category) (further : String) :
    (Property.extended categories further).contains code = true ↔
      (∃ category ∈ categories, (ofText category.table).contains code = true) ∨
        (ofText further).contains code = true := by
  rw [Property.extended, contains_union, Category.unionOf, (ofRanges_spec _).2]
  simp only [ofText, contains_ofRanges, (ofRanges_spec _).2]
  refine or_congr_left ?_
  constructor
  · rintro ⟨r, member, holds⟩
    obtain ⟨category, inside, member⟩ := List.mem_flatMap.mp member
    exact ⟨category, inside, ((ofRanges_spec _).2 _).mp ⟨r, member, holds⟩⟩
  · rintro ⟨category, inside, covered⟩
    obtain ⟨r, member, holds⟩ := ((ofRanges_spec _).2 _).mpr covered
    exact ⟨r, List.mem_flatMap.mpr ⟨category, inside, member⟩, holds⟩

-- The table is one literal of some thousand characters, and only its start is looked at.
set_option maxRecDepth 40000 in
theorem uppercase_table : ∃ rest, (Category.table .uppercaseLetter).toList =
    '4' :: '1' :: '-' :: '5' :: 'A' :: ' ' :: rest :=
  ⟨_, String.toList_ofList⟩

/-- The capital letters of the basic alphabet are uppercase. -/
theorem isUppercase_of_basic {c : Char} (lower : 0x41 ≤ c.toNat) (upper : c.toNat ≤ 0x5A) :
    Property.isUppercase c = true := by
  obtain ⟨rest, table⟩ := uppercase_table
  have starts : entries [] ('4' :: '1' :: '-' :: '5' :: 'A' :: ' ' :: rest) =
      ['4', '1', '-', '5', 'A'] :: entries [] rest := rfl
  have first : entryRanges ['4', '1', '-', '5', 'A'] = [(0x41, 0x5A)] := by decide
  rw [Property.isUppercase, Property.uppercaseSet, containsChar, Property.uppercase,
    contains_extended]
  refine .inl ⟨.uppercaseLetter, List.mem_singleton_self _, ?_⟩
  rw [ofText, contains_ofRanges, table, starts, List.flatMap_cons, first]
  exact ⟨(0x41, 0x5A), List.mem_cons_self, lower, upper⟩

-- The tables are taken apart as literals first; reading them as texts does not end in reasonable time.
set_option maxRecDepth 40000 in
theorem uppercase_ranges : ∃ text further, (Category.table .uppercaseLetter).toList = text ∧
    Property.otherUppercase.toList = further ∧
      ((entries [] text).flatMap entryRanges ++ (entries [] further).flatMap entryRanges).all
        (fun r => Nat.ble 0x41 r.1) = true :=
  ⟨_, _, String.toList_ofList, String.toList_ofList, by decide +kernel⟩

/-- Nothing before the capital letters of the basic alphabet is uppercase. -/
theorem le_of_isUppercase {c : Char} (capital : Property.isUppercase c = true) : 0x41 ≤ c.toNat := by
  obtain ⟨text, further, table, furtherTable, above⟩ := uppercase_ranges
  rw [Property.isUppercase, Property.uppercaseSet, containsChar, Property.uppercase,
    contains_extended] at capital
  have listed : Covers ((entries [] text).flatMap entryRanges ++
      (entries [] further).flatMap entryRanges) c.toNat := by
    rw [covers_append]
    rcases capital with ⟨category, single, listed⟩ | listed
    · rw [List.mem_singleton.mp single, ofText, contains_ofRanges, table] at listed
      exact .inl listed
    · rw [ofText, contains_ofRanges, furtherTable] at listed
      exact .inr listed
  obtain ⟨r, member, first, -⟩ := listed
  exact Nat.le_trans (Nat.le_of_ble_eq_true (List.all_eq_true.mp above r member)) first

end SoundChange.CodeSets
