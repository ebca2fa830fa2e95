/-!
Random draws. All randomness comes from a finite sequence of words of thirty-two bits, which is made
block by block when it is needed. `Draws.toList` lists the words still to come; every draw takes its
words from the front of that list, and a draw fails only when the list is too short.
-/
namespace SoundChange.Random

/-- Words still to be drawn: those left of the current block, and the blocks from `number` up to,
but not including, `bound`. -/
structure Draws where
  block : Nat → List UInt32
  number : Nat
  bound : Nat
  unread : List UInt32

namespace Draws

/-- The words still to come. -/
def toList (draws : Draws) : List UInt32 :=
  draws.unread ++ (List.range' draws.number (draws.bound - draws.number)).flatMap draws.block

/-- The draws that are exactly the words of a list. -/
def ofList (words : List UInt32) : Draws :=
  ⟨fun _ => [], 0, 0, words⟩

/-- The next word, and the draws after it. -/
def next? (draws : Draws) : Option (UInt32 × Draws) :=
  match draws.unread with
  | word :: rest => some (word, { draws with unread := rest })
  | [] =>
    if _more : draws.number < draws.bound then
      next? { draws with unread := draws.block draws.number, number := draws.number + 1 }
    else none
termination_by draws.bound - draws.number

theorem toList_ofList (words : List UInt32) : (ofList words).toList = words := by
  simp [ofList, toList]

/-- What is drawn is the front of the list of the words to come. -/
theorem toList_of_next? {draws after : Draws} {word : UInt32}
    (drawn : draws.next? = some (word, after)) : draws.toList = word :: after.toList := by
  fun_induction next? draws with
  | case1 draws first rest unread =>
    simp only [Option.some.injEq, Prod.mk.injEq] at drawn
    obtain ⟨rfl, rfl⟩ := drawn
    simp [toList, unread]
  | case2 draws unread more same =>
    rw [← same drawn]
    have split : draws.bound - draws.number = (draws.bound - (draws.number + 1)) + 1 := by omega
    simp [toList, unread, split, List.range'_succ]
  | case3 => simp at drawn

/-- No word can be drawn exactly when there are none to come. -/
theorem next?_eq_none_iff (draws : Draws) : draws.next? = none ↔ draws.toList = [] := by
  fun_induction next? draws with
  | case1 draws first rest unread => simp [toList, unread]
  | case2 draws unread more same =>
    rw [same]
    have split : draws.bound - draws.number = (draws.bound - (draws.number + 1)) + 1 := by omega
    simp [toList, unread, split, List.range'_succ]
  | case3 draws unread done =>
    have none_left : draws.bound - draws.number = 0 := by omega
    simp [toList, unread, none_left]

/-- The number of words still to come. -/
def size (draws : Draws) : Nat := draws.toList.length

theorem size_of_next? {draws after : Draws} {word : UInt32}
    (drawn : draws.next? = some (word, after)) : draws.size = after.size + 1 := by
  simp [size, toList_of_next? drawn]

/-- The next two words as one number, the first word the lower half. -/
def nextPair? (draws : Draws) : Option (UInt64 × Draws) :=
  match draws.next? with
  | none => none
  | some (low, draws) =>
    match draws.next? with
    | none => none
    | some (high, draws) => some (low.toUInt64 ||| (high.toUInt64 <<< 32), draws)

end Draws

/-- The upper twenty-four bits of a word: a fraction of one, in units of `2 ^ -24`. -/
def fraction (word : UInt32) : Nat := (word >>> 8).toNat

/-- The fractions below one. -/
def fractions : Nat := Nat.pow 2 24

/-- A coin: the top bit of a word. -/
def coin (word : UInt32) : Bool := word >>> 31 == 1

end SoundChange.Random
