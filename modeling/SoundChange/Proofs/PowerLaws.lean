import SoundChange.Proofs.DrawnWords
import SoundChange.Proofs.Fractions

/-! Counts of draws that reach a number. A count stops at the first draw below the number and answers how
many came before it, around the numbers below a bound. The draws that a generation notes down are all
that it makes, for each of them starts where the one before it stopped. No count among them is made with
an empty bound, and a count for the pattern of a syllable ends within the list of patterns. -/
namespace SoundChange.PowerLaws
open Drawings Fractions Sequencing

/-! One count. -/

section Counts
variable {max low result : ℕ} {draws : Random.Draws}

/-- A count goes on through the draws that reach a threshold and stops at the first one below it. -/
theorem powerLawFrom_of_some_low (inside : result < max)
    (some_low : ∃ word ∈ draws.toList, Random.fraction word < low) :
    ∃ high word rest left, draws.toList = high ++ word :: rest ∧
      (∀ reached ∈ high, low ≤ Random.fraction reached) ∧ Random.fraction word < low ∧
      Random.powerLawFrom max low result draws = some ((result + high.length) % max, left) ∧
      left.toList = rest := by
  fun_induction Random.powerLawFrom max low result draws with
  | case1 result draws none_left =>
    obtain ⟨word, member, -⟩ := some_low
    rw [(Random.Draws.next?_eq_none_iff draws).mp none_left] at member
    cases member
  | case2 result draws first rest taken reached ih =>
    rw [Random.Draws.toList_of_next? taken, List.exists_mem_cons_iff,
      or_iff_right (Nat.not_lt.mpr reached)] at some_low
    have wrapped : (result + 1) % max < max := Nat.mod_lt _ (Nat.zero_lt_of_lt inside)
    obtain ⟨high, word, others, left, split, each, below, counted, behind⟩ := ih wrapped some_low
    refine ⟨first :: high, word, others, left, ?_, List.forall_mem_cons.mpr ⟨reached, each⟩, below,
      ?_, behind⟩
    · rw [Random.Draws.toList_of_next? taken, split, List.cons_append]
    · rw [counted, Nat.mod_add_mod, List.length_cons, Nat.add_right_comm, Nat.add_assoc]
  | case3 result draws word rest taken below =>
    refine ⟨[], word, rest.toList, rest, Random.Draws.toList_of_next? taken, ?_,
      Nat.not_le.mp below, ?_, rfl⟩
    · exact List.forall_mem_nil _
    · rw [List.length_nil, Nat.add_zero, Nat.mod_eq_of_lt inside]

/-- A count of draws against a number stops at the first draw that does not reach the number. -/
theorem powerLaw_of_some_low {percentage : Float32} (bounded : 0 < max)
    (some_low : ∃ word ∈ draws.toList, ¬ Reaches word percentage) :
    ∃ high word rest left, draws.toList = high ++ word :: rest ∧
      (∀ reached ∈ high, Reaches reached percentage) ∧ ¬ Reaches word percentage ∧
      Random.powerLaw max (Random.threshold percentage) draws = some (high.length % max, left) ∧
      left.toList = rest ∧ high.length % max < max := by
  simp only [← threshold_le_iff, Nat.not_le] at some_low ⊢
  obtain ⟨high, word, rest, left, split, each, below, counted, behind⟩ :=
    powerLawFrom_of_some_low bounded some_low
  rw [Nat.zero_add] at counted
  exact ⟨high, word, rest, left, split, each, below, counted, behind, Nat.mod_lt _ bounded⟩

end Counts

/-! The draws of a computation. -/

/-- The draws that a draw of some kind leaves, which are all of them if it fails. -/
def leftBy (kind : DrawKind) (draws : Random.Draws) : Random.Draws :=
  let left? : Option Random.Draws := match kind with
    | .coin => draws.next?.map Prod.snd
    | .fraction => draws.next?.map Prod.snd
    | .pair => draws.nextPair?.map Prod.snd
    | .count _ max percentage =>
      (Random.powerLaw max (Random.threshold percentage) draws).map Prod.snd
  left?.getD draws

/-- All draws that lead from some words to others: each of them starts where the one before it
stopped. -/
inductive Leads : Random.Draws → List Draw → Random.Draws → Prop
  | nil (draws : Random.Draws) : Leads draws [] draws
  | cons {kind : DrawKind} {draws left : Random.Draws} {made : List Draw}
      (later : Leads (leftBy kind draws) made left) : Leads draws (⟨kind, draws⟩ :: made) left

/-- Draws that lead on from where others led to, lead there from their start. -/
theorem Leads.append {draws between left : Random.Draws} {made others : List Draw}
    (first : Leads draws made between) (second : Leads between others left) :
    Leads draws (made ++ others) left := by
  induction first with
  | nil draws => exact second
  | cons later ih => exact .cons (ih second)

/-- A count that is made. -/
structure Count where
  purpose : Purpose
  max : ℕ
  percentage : Float32
  draws : Random.Draws

def Count.outcome (count : Count) : Option (ℕ × Random.Draws) :=
  Random.powerLaw count.max (Random.threshold count.percentage) count.draws

/-- The count that a draw is, if it is one. -/
def count? : Draw → Option Count
  | ⟨.count purpose max percentage, draws⟩ => some ⟨purpose, max, percentage, draws⟩
  | _ => none

def counts (made : List Draw) : List Count :=
  made.filterMap count?

/-- A computation that notes down all its draws, and whose counts have a property. -/
def Notes {α : Type} (computation : Drawing α) (noted : Count → Prop) : Prop :=
  ∀ draws, Leads draws (computation draws).events (computation draws).state ∧
    ∀ count ∈ counts (computation draws).events, noted count

section Notes
variable {α β : Type} {noted : Count → Prop}

theorem notes_pure (a : α) : Notes (pure a : Drawing α) noted :=
  fun draws => ⟨.nil draws, List.forall_mem_nil _⟩

theorem notes_fail (fault : GenerationFault) : Notes (Traced.fail fault : Drawing α) noted :=
  fun draws => ⟨.nil draws, List.forall_mem_nil _⟩

/-- A sequence notes down what its parts do, and its counts are those of the parts. -/
theorem notes_bind {first : Drawing α} {second : α → Drawing β} (start : Notes first noted)
    (next : ∀ a, Notes (second a) noted) : Notes (first >>= second) noted := by
  intro draws
  obtain ⟨leads, each⟩ := start draws
  cases answered : (first draws).answer with
  | error fault =>
    rw [run_bind_error answered]
    exact ⟨leads, each⟩
  | ok a =>
    obtain ⟨leads', each'⟩ := next a (first draws).state
    rw [run_bind_ok answered]
    refine ⟨leads.append leads', ?_⟩
    simp only [counts, List.filterMap_append, List.forall_mem_append]
    exact ⟨each, each'⟩

/-- A single draw leads to what it leaves. -/
theorem notes_ofDraw {kind : DrawKind} {draw : Random.Draws → Option (α × Random.Draws)}
    (leaves : ∀ draws, leftBy kind draws = ((draw draws).map Prod.snd).getD draws)
    (proper : ∀ draws, ∀ count ∈ count? ⟨kind, draws⟩, noted count) :
    Notes (Drawing.ofDraw kind draw) noted := by
  intro draws
  have each : ∀ count ∈ counts [⟨kind, draws⟩], noted count := by
    intro count member
    obtain ⟨made, listed, counted⟩ := List.mem_filterMap.mp member
    obtain rfl := List.mem_singleton.mp listed
    exact proper draws count counted
  have left := leaves draws
  rw [Drawing.ofDraw]
  cases drawn : draw draws with
  | none =>
    rw [drawn] at left
    exact ⟨.cons (left ▸ .nil _), each⟩
  | some result =>
    rw [drawn] at left
    exact ⟨.cons (left ▸ .nil _), each⟩

theorem notes_coin : Notes Drawing.coin noted :=
  notes_ofDraw (fun draws => by rw [leftBy]; cases draws.next? <;> rfl) fun _ _ none => by cases none

theorem notes_fraction : Notes Drawing.fraction noted :=
  notes_ofDraw (fun draws => by rw [leftBy]; cases draws.next? <;> rfl) fun _ _ none => by cases none

theorem notes_pair : Notes Drawing.pair noted :=
  notes_ofDraw (fun _ => rfl) fun _ _ none => by cases none

/-- A count notes down itself. -/
theorem notes_powerLaw {purpose : Purpose} {max : ℕ} {percentage : Float32}
    (proper : ∀ draws, noted ⟨purpose, max, percentage, draws⟩) :
    Notes (Drawing.powerLaw purpose max percentage) noted :=
  notes_ofDraw (fun _ => rfl) fun draws _ same => Option.some.inj same ▸ proper draws

end Notes

/-! The counts of a generation. -/

/-- A proper count, among some patterns: its bound is not zero and its answer stays below it, and the
answer that chooses a pattern chooses one that exists. -/
structure Proper (syllables : List (List Slot)) (count : Count) : Prop where
  bounded : 0 < count.max
  below : ∀ answer left, count.outcome = some (answer, left) → answer < count.max
  chosen : count.purpose = .pattern → ∀ answer left, count.outcome = some (answer, left) →
    ∃ slots, syllables[answer]? = some slots

section Proper
variable {classes : List (Char × List Letter)} {syllables : List (List Slot)}

theorem proper_pattern (inhabited : syllables ≠ []) (percentage : Float32) (draws : Random.Draws) :
    Proper syllables ⟨.pattern, syllables.length, percentage, draws⟩ where
  bounded := List.length_pos_of_ne_nil inhabited
  below _ _ counted := powerLawFrom_lt (List.length_pos_of_ne_nil inhabited) counted
  chosen _ answer _ counted :=
    have inside := powerLawFrom_lt (List.length_pos_of_ne_nil inhabited) counted
    ⟨syllables[answer], List.getElem?_eq_getElem inside⟩

theorem extraSyllables_pos : 0 < SoundSystem.extraSyllables := by
  decide

/-- The count of further syllables is proper. -/
theorem proper_extra (percentage : Float32) (draws : Random.Draws) :
    Proper syllables ⟨.extra, SoundSystem.extraSyllables, percentage, draws⟩ where
  bounded := extraSyllables_pos
  below _ _ counted := powerLawFrom_lt extraSyllables_pos counted
  chosen other := by cases other

theorem notes_drawLetter {noted : Count → Prop} (letterClass : Char) (letters : List Letter) :
    Notes (SoundSystem.drawLetter letterClass letters) noted := by
  rw [SoundSystem.drawLetter]
  cases Random.Weights.ofList (letters.map Letter.weight) with
  | error fault => exact notes_fail _
  | ok weights =>
    refine notes_bind notes_pair fun draw => ?_
    cases letters[weights.index draw]? with
    | some letter => exact notes_pure _
    | none => exact notes_fail _

theorem notes_drawSlot {noted : Count → Prop} (slot : Slot) :
    Notes (SoundSystem.drawSlot classes slot) noted := by
  -- The coin of an optional slot only decides whether there is a letter.
  have tossed {filled : Drawing String} (notes : Notes filled noted) :
      Notes (Drawing.coin >>= fun fill => if fill then filled else pure "") noted := by
    refine notes_bind notes_coin fun fill => ?_
    split
    · exact notes
    · exact notes_pure _
  simp only [SoundSystem.drawSlot]
  cases classes.find? (·.1 == slot.letterClass) with
  | some entry =>
    split
    · exact tossed (notes_drawLetter _ _)
    · exact notes_drawLetter _ _
  | none =>
    split
    · exact tossed (notes_fail _)
    · exact notes_fail _

/-- Filling slots draws, but counts nothing. -/
theorem notes_drawSlots {noted : Count → Prop} (slots : List Slot) :
    Notes (SoundSystem.drawSlots classes slots) noted := by
  induction slots with
  | nil => exact notes_pure _
  | cons slot slots ih =>
    exact notes_bind (notes_drawSlot slot) fun first => notes_bind ih fun _ => notes_pure _

/-- The number of syllables is found with proper counts only. -/
theorem notes_drawSyllableCount (share : Float32) :
    Notes (SoundSystem.drawSyllableCount share) (Proper syllables) := by
  simp only [SoundSystem.drawSyllableCount]
  split
  · refine notes_bind notes_fraction fun fraction => ?_
    split
    · exact notes_bind (notes_powerLaw (proper_extra _)) fun extra => notes_pure _
    · exact notes_pure _
  · exact notes_pure _

variable (inhabited : syllables ≠ [])
include inhabited

theorem notes_drawSyllable :
    Notes (SoundSystem.drawSyllable classes syllables) (Proper syllables) := by
  refine notes_bind (notes_powerLaw (proper_pattern inhabited _)) fun index => ?_
  cases syllables[index]? with
  | some slots => exact notes_drawSlots slots
  | none => exact notes_fail _

theorem notes_drawSyllables (count : ℕ) :
    Notes (SoundSystem.drawSyllables classes syllables count) (Proper syllables) := by
  induction count with
  | zero => exact notes_pure _
  | succ count ih =>
    exact notes_bind (notes_drawSyllable inhabited) fun first => notes_bind ih fun _ => notes_pure _

theorem notes_drawWord (share : Float32) :
    Notes (SoundSystem.drawWord classes syllables share) (Proper syllables) :=
  notes_bind (notes_drawSyllableCount share) (notes_drawSyllables inhabited)

theorem notes_drawWords (share : Float32) (count : ℕ) :
    Notes (SoundSystem.drawWords classes syllables share count) (Proper syllables) := by
  induction count with
  | zero => exact notes_pure _
  | succ count ih =>
    exact notes_bind (notes_drawWord inhabited share) fun first => notes_bind ih fun _ => notes_pure _

end Proper

/-- Whatever the state of a system, the draws that are noted down lead from its draws to those that are
left, and all counts among them are proper. -/
theorem notes_invent (system : SoundSystem) (count : ℕ) (repartition : Repartition) :
    Notes (system.invent count repartition) (Proper system.syllables) := by
  rw [SoundSystem.invent]
  split
  · exact notes_fail _
  · split
    · exact notes_fail _
    · rename_i some_patterns
      have inhabited : system.syllables ≠ [] := by simpa using some_patterns
      refine notes_bind (notes_drawWords inhabited _ count) fun drawn => ?_
      dsimp only
      split
      · exact notes_fail _
      · exact notes_pure _

example :
    (counts (SoundSystem.drawWords RuleFiles.voicedClasses [[⟨'C', false⟩, ⟨'V', false⟩]]
      Repartition.never.share 1 (.ofList (List.replicate 16 0))).events).map
        (fun count => (count.purpose, count.max)) = [(.extra, 4), (.pattern, 1), (.pattern, 1)] := by
  decide +kernel

/-- Whenever some draw is below the number, a count stops at the first such draw, uses up the draws
before it and that one and no more, and answers how many came before it, around the bound. A generation
notes down every draw that it makes, from every state of a system and whether it ends well or not. Each
count among them has a bound that is not zero, and one for a syllable answers the place of a pattern. -/
theorem counts_stop_at_first_low_draw :
    (∀ (max : ℕ) (percentage : Float32) (draws : Random.Draws), 0 < max →
      (∃ word ∈ draws.toList, ¬ Reaches word percentage) →
      ∃ high word rest left, draws.toList = high ++ word :: rest ∧
        (∀ reached ∈ high, Reaches reached percentage) ∧ ¬ Reaches word percentage ∧
        Random.powerLaw max (Random.threshold percentage) draws = some (high.length % max, left) ∧
        left.toList = rest ∧ high.length % max < max) ∧
    ∀ (system : SoundSystem) (count : ℕ) (repartition : Repartition),
      let made := system.invent count repartition system.draws
      system.generate count repartition = (made.answer, { system with draws := made.state }) ∧
        Leads system.draws made.events made.state ∧
        ∀ counted ∈ counts made.events, Proper system.syllables counted :=
  ⟨fun _ _ _ => powerLaw_of_some_low, fun system count repartition =>
    ⟨rfl, notes_invent system count repartition system.draws⟩⟩

/-- Of three draws the first one reaches a half, and the last one is left. -/
theorem count_stops_at_second_draw :
    (∃ word ∈ (Random.Draws.ofList [0xFFFFFFFF, 0, 7]).toList, ¬ Reaches word 0.5) ∧
      ∃ left, Random.powerLaw 4 (Random.threshold 0.5) (.ofList [0xFFFFFFFF, 0, 7]) =
        some (1, left) ∧ left.toList = [7] := by
  have reached : Reaches 0xFFFFFFFF 0.5 := (threshold_le_iff _ _).mp (by decide +kernel)
  have low : ¬ Reaches 0 0.5 := fun reached =>
    absurd ((threshold_le_iff _ _).mpr reached) (by decide +kernel)
  have some_low : ∃ word ∈ (Random.Draws.ofList [0xFFFFFFFF, 0, 7]).toList, ¬ Reaches word 0.5 := by
    rw [Random.Draws.toList_ofList]
    exact ⟨0, by simp, low⟩
  refine ⟨some_low, ?_⟩
  obtain ⟨high, word, rest, left, split, each, below, counted, behind, -⟩ :=
    counts_stop_at_first_low_draw.1 4 0.5 _ (by decide) some_low
  rw [Random.Draws.toList_ofList] at split
  cases high with
  | nil =>
    cases split
    exact absurd reached below
  | cons first high =>
    cases high with
    | nil =>
      cases split
      exact ⟨left, counted, behind⟩
    | cons second high =>
      obtain ⟨-, rfl, -⟩ := by simpa using split
      exact absurd (each 0 (by simp)) low

end SoundChange.PowerLaws
