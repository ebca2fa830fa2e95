import SoundChange.SoundSystem.Generate
import SoundChange.Proofs.Sequencing

/-! What draws can lead to. Counts stay below their bound, the index of a weighted choice is the index
of a weight, and a draw only fails where the words to come do not suffice for it. A computation that
makes draws is described by what it may answer and by the faults that it may end with, and such
descriptions are put together in the order of its steps. -/
namespace SoundChange.Drawings
open Sequencing

/-! Single draws. -/

section Draws
variable {max low : Nat} {draws : Random.Draws}

/-- A count stays below its bound. -/
theorem powerLawFrom_lt {result n : Nat} {left : Random.Draws} (inside : result < max)
    (drawn : Random.powerLawFrom max low result draws = some (n, left)) : n < max := by
  fun_induction Random.powerLawFrom max low result draws with
  | case1 => cases drawn
  | case2 result draws word rest taken high ih =>
    exact ih (Nat.mod_lt _ (Nat.zero_lt_of_lt inside)) drawn
  | case3 result draws word rest taken below =>
    cases drawn
    exact inside

/-- A count only fails if no word to come is below its threshold. -/
theorem powerLawFrom_eq_none_iff (result : Nat) :
    Random.powerLawFrom max low result draws = none ↔
      ∀ word ∈ draws.toList, low ≤ Random.fraction word := by
  fun_induction Random.powerLawFrom max low result draws with
  | case1 result draws none_left => simp [(Random.Draws.next?_eq_none_iff draws).mp none_left]
  | case2 result draws word rest taken high ih =>
    rw [ih, Random.Draws.toList_of_next? taken, List.forall_mem_cons]
    exact (and_iff_right high).symm
  | case3 result draws word rest taken below =>
    simp [Random.Draws.toList_of_next? taken, below]

/-- A count is over at once if the next word is below its threshold. -/
theorem powerLaw_of_low {word : UInt32} {left : Random.Draws}
    (drawn : draws.next? = some (word, left)) (below : Random.fraction word < low) :
    Random.powerLaw max low draws = some (0, left) := by
  rw [Random.powerLaw, Random.powerLawFrom]
  split
  · rename_i none_left
    rw [drawn] at none_left
    cases none_left
  · rename_i word' left' taken
    cases drawn.symm.trans taken
    exact if_neg (Nat.not_le_of_lt below)

/-- The next word of draws that have used up their block is the first one of the next block. -/
theorem next?_of_block {word : UInt32} {words : List UInt32} (read : draws.unread = [])
    (more : draws.number < draws.bound) (block : draws.block draws.number = word :: words) :
    draws.next? = some (word, { draws with unread := words, number := draws.number + 1 }) := by
  rw [Random.Draws.next?, read]
  simp only [more, ↓reduceDIte, block]
  rw [Random.Draws.next?]

theorem size_of_next?_eq_none (failed : draws.next? = none) : draws.size < 2 := by
  simp [Random.Draws.size, (Random.Draws.next?_eq_none_iff draws).mp failed]

theorem size_of_nextPair?_eq_none (failed : draws.nextPair? = none) : draws.size < 2 := by
  rw [Random.Draws.nextPair?] at failed
  cases first : draws.next? with
  | none => exact size_of_next?_eq_none first
  | some drawn =>
    obtain ⟨low, rest⟩ := drawn
    simp only [first] at failed
    cases second : rest.next? with
    | some drawn => simp [second] at failed
    | none =>
      rw [Random.Draws.size_of_next? first, Random.Draws.size,
        (Random.Draws.next?_eq_none_iff rest).mp second]
      decide

end Draws

/-! Weighted choices. -/

/-- The sum of weights, added up from the first. -/
def total : List Float → Float
  | [] => 0
  | first :: others => others.foldl (· + ·) first

/-- Weights that are in order one by one. -/
def InOrder (weights : List Float) : Prop :=
  ∀ weight ∈ weights, weight ≥ 0

instance (weights : List Float) : Decidable (InOrder weights) :=
  inferInstanceAs (Decidable (∀ weight ∈ weights, weight ≥ 0))

/-- Weights that are in order one by one, but have no finite sum. -/
def Unbounded (weights : List Float) : Prop :=
  InOrder weights ∧ (total weights).isFinite = false

section Weights
open Random.Weights
variable {weights : List Float}

theorem inOrder_cons {weight : Float} :
    InOrder (weight :: weights) ↔ weight ≥ 0 ∧ InOrder weights :=
  List.forall_mem_cons

theorem addUp_eq (sum : Float) (weights : List Float) :
    addUp sum weights =
      if InOrder weights then
        some ((weights.scanl (· + ·) sum).dropLast, weights.foldl (· + ·) sum)
      else none := by
  induction weights generalizing sum with
  | nil => simp [addUp, InOrder]
  | cons weight weights ih =>
    rw [addUp, ih]
    by_cases valid : weight ≥ 0
    · by_cases others : InOrder weights
      · rw [if_pos valid, if_pos others, if_pos (inOrder_cons.mpr ⟨valid, others⟩),
          List.scanl_cons, List.dropLast_cons_of_ne_nil (by simp)]
        rfl
      · rw [if_pos valid, if_neg others, if_neg fun all => others (inOrder_cons.mp all).2]
        rfl
    · rw [if_neg valid, if_neg fun all => valid (inOrder_cons.mp all).1]

/-- Weights are refused because one of them is not in order, or because of their sum. -/
theorem ofList_eq (first : Float) (others : List Float) :
    ofList (first :: others) =
      if InOrder (first :: others) then
        if total (first :: others) == 0 then .error .allZero
        else if (total (first :: others)).isFinite then
          .ok ⟨total (first :: others), (others.scanl (· + ·) first).dropLast⟩
        else .error .unbounded
      else .error .invalid := by
  rw [ofList, addUp_eq]
  by_cases valid : first ≥ 0
  · rw [if_pos valid]
    by_cases rest : InOrder others
    · rw [if_pos rest, if_pos (inOrder_cons.mpr ⟨valid, rest⟩)]
      rfl
    · rw [if_neg rest, if_neg fun all => rest (inOrder_cons.mp all).2]
  · rw [if_neg valid, if_neg fun all => valid (inOrder_cons.mp all).1]

/-- A number that is not finite is not zero. -/
private theorem beq_zero_of_infinite {x : Float} (infinite : x.isFinite = false) :
    (x == 0) = false := by
  have zero : (0 : Float).toModel.unpack = .zero .positive := rfl
  have compared : (x == 0) = x.toModel.unpack.beq (0 : Float).toModel.unpack := rfl
  have finite : x.isFinite = x.toModel.unpack.isFinite := rfl
  rw [finite] at infinite
  rw [compared, zero]
  cases unpacked : x.toModel.unpack with
  | notANumber => rfl
  | infinity sign => cases sign <;> rfl
  | zero sign => rw [unpacked] at infinite; cases infinite
  | finite sign mantissa exponent positive => rw [unpacked] at infinite; cases infinite

theorem ofList_eq_unbounded_iff : ofList weights = .error .unbounded ↔ Unbounded weights := by
  cases weights with
  | nil => simp [ofList, Unbounded, total]; decide
  | cons first others =>
    rw [ofList_eq, Unbounded]
    by_cases valid : InOrder (first :: others)
    · rw [if_pos valid, and_iff_right valid]
      cases finite : (total (first :: others)).isFinite with
      | true => split <;> simp
      | false => simp [beq_zero_of_infinite finite]
    · simp [valid]

/-- The index that is chosen is the index of a weight. -/
theorem index_lt {made : Random.Weights} (accepted : ofList weights = .ok made) (draw : UInt64) :
    made.index draw < weights.length := by
  cases weights with
  | nil => cases accepted
  | cons first others =>
    rw [ofList_eq] at accepted
    split at accepted
    · split at accepted
      · cases accepted
      · split at accepted
        · cases accepted
          refine Nat.lt_succ_of_le (Nat.le_trans (List.length_filter_le _ _) ?_)
          simp
        · cases accepted
    · cases accepted

end Weights

/-! Computations. -/

/-- Draws that do not suffice for the next step: no two words are left, or all that are left are too
high to end a count. -/
def Dry (left : Random.Draws) : Prop :=
  left.size < 2 ∨ ∀ word ∈ left.toList, Random.threshold 0.12 ≤ Random.fraction word

/-- Whatever the draws, a computation answers in one way, or ends with some fault and the draws that
are left then. -/
def Ends {α : Type} (computation : Drawing α) (answers : α → Prop)
    (faults : GenerationFault → Random.Draws → Prop) : Prop :=
  ∀ draws, match (computation draws).answer with
    | .ok a => answers a
    | .error fault => faults fault (computation draws).state

section Ends
variable {α β : Type} {answers : α → Prop} {answers' : β → Prop}
  {faults : GenerationFault → Random.Draws → Prop}

theorem ends_pure {a : α} (answered : answers a) : Ends (pure a) answers faults :=
  fun _ => answered

theorem ends_fail {fault : GenerationFault} (failed : ∀ left, faults fault left) :
    Ends (Traced.fail fault) answers faults :=
  fun left => failed left

/-- A fault of the first computation is the end of the whole. -/
theorem fault_of_bind {first : Drawing α} {draws : Random.Draws} {fault : GenerationFault}
    (failed : (first draws).answer = .error fault) (second : α → Drawing β) :
    ((first >>= second) draws).answer = .error fault := by
  rw [run_bind_error failed]

/-- The second computation only has to end well on what the first may answer. -/
theorem ends_bind {first : Drawing α} {second : α → Drawing β} (start : Ends first answers faults)
    (next : ∀ a, answers a → Ends (second a) answers' faults) :
    Ends (first >>= second) answers' faults := by
  intro draws
  have ended := start draws
  cases outcome : (first draws).answer with
  | error fault =>
    rw [outcome] at ended
    rw [run_bind_error outcome]
    exact ended
  | ok a =>
    rw [outcome] at ended
    rw [run_bind_ok outcome]
    exact next a ended (first draws).state

/-- A computation that ends in one way ends in every way that follows from it. -/
theorem Ends.imp {computation : Drawing α} {answers' : α → Prop}
    {faults' : GenerationFault → Random.Draws → Prop} (ends : Ends computation answers faults)
    (answer : ∀ a, answers a → answers' a)
    (fault : ∀ fault left, faults fault left → faults' fault left) :
    Ends computation answers' faults' := by
  intro draws
  have ended := ends draws
  cases outcome : (computation draws).answer with
  | error f =>
    rw [outcome] at ended
    exact fault f _ ended
  | ok a =>
    rw [outcome] at ended
    exact answer a ended

theorem ends_ofDraw {kind : DrawKind} {draw : Random.Draws → Option (α × Random.Draws)}
    (drawn : ∀ draws a left, draw draws = some (a, left) → answers a)
    (failed : ∀ draws, draw draws = none → faults .exhausted draws) :
    Ends (Drawing.ofDraw kind draw) answers faults := by
  intro draws
  rw [Drawing.ofDraw]
  cases outcome : draw draws with
  | none => exact failed draws outcome
  | some result =>
    obtain ⟨a, left⟩ := result
    exact drawn draws a left outcome

variable (dry : ∀ left, Dry left → faults .exhausted left)
include dry

theorem ends_coin : Ends Drawing.coin (fun _ => True) faults :=
  ends_ofDraw (fun _ _ _ _ => trivial) fun draws failed =>
    dry draws (.inl (size_of_next?_eq_none (Option.map_eq_none_iff.mp failed)))

theorem ends_fraction : Ends Drawing.fraction (fun _ => True) faults :=
  ends_ofDraw (fun _ _ _ _ => trivial) fun draws failed =>
    dry draws (.inl (size_of_next?_eq_none (Option.map_eq_none_iff.mp failed)))

theorem ends_pair : Ends Drawing.pair (fun _ => True) faults :=
  ends_ofDraw (fun _ _ _ _ => trivial) fun draws failed =>
    dry draws (.inl (size_of_nextPair?_eq_none failed))

theorem ends_powerLaw {purpose : Purpose} {max : Nat} {percentage : Float32} (positive : 0 < max)
    (reachable : Random.threshold 0.12 ≤ Random.threshold percentage) :
    Ends (Drawing.powerLaw purpose max percentage) (fun n => n < max) faults :=
  ends_ofDraw (fun _ _ _ drawn => powerLawFrom_lt positive drawn) fun draws failed =>
    dry draws (.inr fun word member =>
      Nat.le_trans reachable ((powerLawFrom_eq_none_iff 0).mp failed word member))

end Ends

end SoundChange.Drawings
