import SoundChange.SoundSystem.Apply
import SoundChange.Proofs.Reconciliation

/-! What a list of rules makes of each word. The rules run over all words, one rule after the other,
but no word influences another: the forms of a word are those of the rules run over it alone. The run
fails exactly when some rule empties some word, and otherwise its lists line up. -/
namespace SoundChange.RuleCourse
open Reconciliation

/-- The form of a word after some rules have run over it in turn. -/
def formUnder (rules : List Rule) (word : Word) : Word :=
  rules.foldl (fun form rule => rule.apply form) word

/-- No rule empties any of the words. -/
def Survive (rules : List Rule) (words : List Word) : Prop :=
  ∀ word ∈ words, ∀ count < rules.length, formUnder (rules.take (count + 1)) word ≠ ""

/-- The transformation of words by rules that empty none of them. -/
def course : List Rule → List Word → Transformation
  | [], words => .untouched words
  | rule :: rules, words =>
    let rest := course rules (words.map rule.apply)
    ⟨⟨rule.name, words.map rule.apply⟩ :: rest.history, rest.output⟩

theorem survive_cons (rule : Rule) (rules : List Rule) (words : List Word) :
    Survive (rule :: rules) words ↔
      (∀ word ∈ words, rule.apply word ≠ "") ∧ Survive rules (words.map rule.apply) := by
  constructor
  · intro survive
    refine ⟨fun word member => survive word member 0 (Nat.succ_pos _), ?_⟩
    intro form member count bound
    obtain ⟨word, inside, rfl⟩ := List.mem_map.mp member
    exact survive word inside (count + 1) (Nat.succ_lt_succ bound)
  · rintro ⟨first, rest⟩ word member count bound
    cases count with
    | zero => exact first word member
    | succ count =>
      exact rest (rule.apply word) (List.mem_map_of_mem member) count (Nat.lt_of_succ_lt_succ bound)

theorem firstErased?_eq_none_iff (rule : Rule) (words : List Word) :
    firstErased? words (words.map rule.apply) = none ↔ ∀ word ∈ words, rule.apply word ≠ "" := by
  induction words with
  | nil => simp [firstErased?]
  | cons word words ih =>
    rw [List.map_cons, firstErased?]
    by_cases erased : rule.apply word = ""
    · simp [erased]
    · simp [erased, ih]

/-- Running rules succeeds exactly when they empty no word. -/
theorem applyRules_ok_iff (rules : List Rule) (words : List Word) (result : Transformation) :
    applyRules rules words = .ok result ↔ Survive rules words ∧ result = course rules words := by
  induction rules generalizing words result with
  | nil =>
    have nothing : Survive [] words := fun word _ count bound => absurd bound (Nat.not_lt_zero count)
    simp [applyRules, nothing, course, eq_comm (a := result)]
  | cons rule rules ih =>
    rw [survive_cons, ← firstErased?_eq_none_iff, applyRules]
    cases firstErased? words (words.map rule.apply) with
    | some word => simp
    | none =>
      cases rest : applyRules rules (words.map rule.apply) with
      | error fault =>
        have stops : ¬ Survive rules (words.map rule.apply) := by
          intro survive
          rw [(ih _ _).mpr ⟨survive, rfl⟩] at rest
          cases rest
        simp [stops]
      | ok later =>
        obtain ⟨survive, rfl⟩ := (ih _ _).mp rest
        simp [survive, course, eq_comm (a := result)]

/-- The step of each rule holds the form of every word under the rules up to it. -/
theorem getElem?_history_course (rules : List Rule) (words : List Word) (step : Nat) :
    (course rules words).history[step]? =
      rules[step]?.map fun rule =>
        ⟨rule.name, words.map (formUnder (rules.take (step + 1)))⟩ := by
  induction rules generalizing words step with
  | nil => rfl
  | cons rule rules ih =>
    cases step with
    | zero => rfl
    | succ step =>
      rw [course, List.getElem?_cons_succ, ih, List.getElem?_cons_succ, List.map_map]
      rfl

/-- The final forms are what all the rules make of the words, one by one. -/
theorem output_course (rules : List Rule) (words : List Word) :
    (course rules words).output = words.map (formUnder rules) := by
  induction rules generalizing words with
  | nil => exact (List.map_id words).symm
  | cons rule rules ih =>
    rw [course, ih, List.map_map]
    rfl

theorem length_history_course (rules : List Rule) (words : List Word) :
    (course rules words).history.length = rules.length := by
  induction rules generalizing words with
  | nil => rfl
  | cons rule rules ih => rw [course, List.length_cons, ih, List.length_cons]

theorem rules_course (rules : List Rule) (words : List Word) :
    (course rules words).rules = rules.map Rule.name := by
  induction rules generalizing words with
  | nil => rfl
  | cons rule rules ih =>
    have rest := ih (words.map rule.apply)
    rw [Transformation.rules] at rest
    rw [course, Transformation.rules, List.map_cons, rest, List.map_cons]

theorem course_aligned (rules : List Rule) (words : List Word) :
    Aligned words (course rules words) where
  output := by rw [output_course, List.length_map]
  steps := by
    intro step member
    obtain ⟨index, found⟩ := List.mem_iff_getElem?.mp member
    rw [getElem?_history_course, Option.map_eq_some_iff] at found
    obtain ⟨rule, _, rfl⟩ := found
    exact List.length_map _
  final := by
    intro last ends
    rw [List.getLast?_eq_getElem?, length_history_course, getElem?_history_course,
      Option.map_eq_some_iff] at ends
    obtain ⟨rule, found, rfl⟩ := ends
    have bound := (List.getElem?_eq_some_iff.mp found).1
    rw [output_course, List.take_of_length_le (by omega)]

/-- Each rule runs over the form that the rules before it left. -/
theorem formUnder_take_succ {rules : List Rule} {step : Nat} {rule : Rule}
    (ruleAt : rules[step]? = some rule) (word : Word) :
    formUnder (rules.take (step + 1)) word = rule.apply (formUnder (rules.take step) word) := by
  rw [formUnder, List.take_add_one, ruleAt, List.foldl_append]
  rfl

/-- The forms of a word along the course of a list are those of the word alone. -/
theorem formAfter?_course {rules : List Rule} {words : List Word} {step index : Nat} {rule : Rule}
    {word : Word} (ruleAt : rules[step]? = some rule) (wordAt : words[index]? = some word) :
    formAfter? (course rules words).history step index =
      some (formUnder (rules.take (step + 1)) word) := by
  rw [formAfter?, getElem?_history_course, ruleAt, Option.map_some, Option.bind_some,
    List.getElem?_map, wordAt, Option.map_some]

theorem formBefore?_course {rules : List Rule} {words : List Word} {step index : Nat}
    {rule : Rule} {word : Word} (ruleAt : rules[step]? = some rule)
    (wordAt : words[index]? = some word) :
    formBefore? words (course rules words).history index step =
      some (formUnder (rules.take step) word) := by
  cases step with
  | zero => exact wordAt
  | succ step =>
    have bound := (List.getElem?_eq_some_iff.mp ruleAt).1
    exact formAfter?_course (List.getElem?_eq_getElem (Nat.lt_of_succ_lt bound)) wordAt

end SoundChange.RuleCourse
