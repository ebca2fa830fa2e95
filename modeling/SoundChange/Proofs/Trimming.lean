import SoundChange.Text.Blank

/-! Trimming. What trimming leaves of a line is the one part of it that neither begins nor ends with a
blank character and has only blank characters around it. -/
namespace SoundChange.Trimming
open Text

/-- A text of blank characters only. -/
def Blanks (text : List Char) : Prop :=
  ∀ c ∈ text, isBlank c = true

/-- A text that neither begins nor ends with a blank character. -/
structure Bare (text : List Char) : Prop where
  first : ∀ c ∈ text.head?, isBlank c = false
  last : ∀ c ∈ text.getLast?, isBlank c = false

/-- A line is a word with blank characters around it. -/
structure Strips (line word : List Char) : Prop where
  around : ∃ before after, line = before ++ (word ++ after) ∧ Blanks before ∧ Blanks after
  bare : Bare word

variable {line word before after : List Char}

theorem Blanks.nil : Blanks [] :=
  fun _ inside => nomatch inside

theorem Blanks.reverse (blank : Blanks word) : Blanks word.reverse :=
  fun c inside => blank c (List.mem_reverse.mp inside)

/-- Blanks in front of a text change nothing about its start. -/
theorem trimStart_append (blank : Blanks before) (rest : List Char) :
    trimStart (before ++ rest) = trimStart rest :=
  List.dropWhile_append_of_pos blank

/-- A text that starts with no blank keeps its start. -/
theorem trimStart_eq_self (first : ∀ c ∈ word.head?, isBlank c = false) : trimStart word = word := by
  cases word with
  | nil => rfl
  | cons c rest => exact List.dropWhile_cons_of_neg (by simp [first c rfl])

/-- The blank characters at the start of a line are all that is removed there. -/
theorem trimStart_cuts (line : List Char) :
    ∃ before, line = before ++ trimStart line ∧ Blanks before ∧
      ∀ c ∈ (trimStart line).head?, isBlank c = false := by
  induction line with
  | nil => exact ⟨[], rfl, .nil, fun _ first => nomatch first⟩
  | cons c rest ih =>
    by_cases blank : isBlank c = true
    · obtain ⟨before, parts, blanks, first⟩ := ih
      have dropped : trimStart (c :: rest) = trimStart rest := List.dropWhile_cons_of_pos blank
      refine ⟨c :: before, ?_, List.forall_mem_cons.mpr ⟨blank, blanks⟩, ?_⟩
      · rw [dropped, List.cons_append, ← parts]
      · rwa [dropped]
    · have kept : trimStart (c :: rest) = c :: rest := List.dropWhile_cons_of_neg blank
      rw [kept]
      refine ⟨[], rfl, .nil, fun d first => ?_⟩
      rw [← Option.some.inj first]
      exact Bool.eq_false_iff.mpr blank

/-! Trimming the end is trimming the start of the reversed text. -/

theorem trimEnd_eq (text : List Char) : trimEnd text = (trimStart text.reverse).reverse :=
  rfl

theorem trimEnd_append (blank : Blanks after) (rest : List Char) :
    trimEnd (rest ++ after) = trimEnd rest := by
  rw [trimEnd_eq, trimEnd_eq, List.reverse_append, trimStart_append blank.reverse]

theorem trimEnd_eq_self (last : ∀ c ∈ word.getLast?, isBlank c = false) : trimEnd word = word := by
  have kept : trimStart word.reverse = word.reverse :=
    trimStart_eq_self fun c first => last c (by rwa [List.head?_reverse] at first)
  rw [trimEnd_eq, kept, List.reverse_reverse]

/-- The blank characters at the end of a line are all that is removed there. -/
theorem trimEnd_cuts (line : List Char) :
    ∃ after, line = trimEnd line ++ after ∧ Blanks after ∧
      ∀ c ∈ (trimEnd line).getLast?, isBlank c = false := by
  obtain ⟨before, parts, blank, first⟩ := trimStart_cuts line.reverse
  refine ⟨before.reverse, ?_, blank.reverse, fun c last => first c ?_⟩
  · rw [trimEnd_eq, ← List.reverse_append, ← parts, List.reverse_reverse]
  · rwa [trimEnd_eq, List.getLast?_reverse] at last

/-- Trimming strips a line. -/
theorem strips_trim (line : List Char) : Strips line (trim line) := by
  obtain ⟨before, startParts, beforeBlank, first⟩ := trimStart_cuts line
  obtain ⟨after, endParts, afterBlank, last⟩ := trimEnd_cuts (trimStart line)
  refine ⟨⟨before, after, ?_, beforeBlank, afterBlank⟩, fun c head => first c ?_, last⟩
  · rw [trim, ← endParts, ← startParts]
  · have kept : (trimEnd (trimStart line)).head? = some c := head
    rw [endParts, List.head?_append, kept]
    rfl

/-- What a line is stripped to is what trimming leaves of it. -/
theorem trim_of_strips (strips : Strips line word) : trim line = word := by
  obtain ⟨⟨before, after, rfl, beforeBlank, afterBlank⟩, first, last⟩ := strips
  rw [trim, trimStart_append beforeBlank]
  cases word with
  | nil =>
    have empty : trimStart (after ++ []) = [] := trimStart_append afterBlank []
    rw [List.nil_append, ← List.append_nil after, empty]
    rfl
  | cons c rest =>
    have kept : trimStart (c :: rest ++ after) = c :: rest ++ after := trimStart_eq_self first
    rw [kept, trimEnd_append afterBlank, trimEnd_eq_self last]

theorem strips_iff : Strips line word ↔ trim line = word :=
  ⟨trim_of_strips, fun left => left ▸ strips_trim line⟩

theorem Bare.strips (bare : Bare word) : Strips word word :=
  ⟨⟨[], [], (List.append_nil word).symm, .nil, .nil⟩, bare⟩

/-- Blanks behind a line change nothing; such is the carriage return before a newline. -/
theorem trim_append (blank : Blanks after) (line : List Char) : trim (line ++ after) = trim line := by
  obtain ⟨⟨before, behind, parts, beforeBlank, behindBlank⟩, bare⟩ := strips_trim line
  refine trim_of_strips ⟨⟨before, behind ++ after, ?_, beforeBlank, ?_⟩, bare⟩
  · conv => lhs; rw [parts]
    simp only [List.append_assoc]
  · exact List.forall_mem_append.mpr ⟨behindBlank, blank⟩

end SoundChange.Trimming
