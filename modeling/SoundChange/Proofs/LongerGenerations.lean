import SoundChange.Proofs.DrawnWords

/-! Longer generations. A generation of more words goes on where a shorter one stopped: it makes the
same draws, whether a word is kept or not, and what was kept before only decides which of the later
words are new. So asking for more words extends the list and never changes what is in it. -/
namespace SoundChange.LongerGenerations
open Drawings DrawnWords Footprints Sequencing

/-- Drawing words in two goes is drawing them in one. -/
theorem drawWords_add (classes : List (Char × List Letter)) (syllables : List (List Slot))
    (share : Float32) (n m : Nat) :
    SoundSystem.drawWords classes syllables share (n + m) = (do
      let earlier ← SoundSystem.drawWords classes syllables share n
      let later ← SoundSystem.drawWords classes syllables share m
      return earlier ++ later) := by
  induction n with
  | zero => simp [SoundSystem.drawWords]
  | succ n ih =>
    rw [Nat.succ_add]
    simp only [SoundSystem.drawWords, ih, bind_assoc, pure_bind, List.cons_append]

/-! What is kept. -/

/-- Words that were seen before are left out, and have no other effect. -/
theorem distinctFrom_of_more {seen more : Std.HashSet Word}
    (wider : ∀ word, seen.contains word = true → more.contains word = true) (words : List Word) :
    SoundSystem.distinctFrom more words =
      (SoundSystem.distinctFrom seen words).filter fun word => !more.contains word := by
  induction words generalizing seen more with
  | nil => rfl
  | cons word words ih =>
    rw [SoundSystem.distinctFrom, SoundSystem.distinctFrom]
    by_cases dropped : (word.isEmpty || seen.contains word) = true
    · have alsoDropped : (word.isEmpty || more.contains word) = true := by
        rw [Bool.or_eq_true] at dropped ⊢
        exact dropped.imp_right (wider word)
      rw [if_pos dropped, if_pos alsoDropped, ih wider]
    · rw [if_neg dropped]
      have inhabited : word.isEmpty = false := by simp_all
      have withWord (other : Word) (among : (seen.insert word).contains other = true) :
          (more.insert word).contains other = true := by
        rw [Std.HashSet.contains_insert, Bool.or_eq_true] at among ⊢
        exact among.imp_right (wider other)
      cases known : more.contains word with
      | true =>
        have here (other : Word) (among : (seen.insert word).contains other = true) :
            more.contains other = true := by
          rw [Std.HashSet.contains_insert, Bool.or_eq_true, beq_iff_eq] at among
          rcases among with rfl | among
          · exact known
          · exact wider other among
        simp [known, ih here]
      | false =>
        rw [ih withWord, if_neg (by simp [inhabited]), List.filter_cons_of_pos (by simp [known])]
        congr 1
        refine List.filter_congr fun other member => ?_
        have new := (of_mem_distinctFrom member).2
        rw [Std.HashSet.contains_insert, Bool.or_eq_false_iff] at new
        rw [Std.HashSet.contains_insert, new.1, Bool.false_or]

/-- Of two lists of words in a row, the first is kept as it would be alone, and the second adds what
is new in it. -/
theorem distinctFrom_append (seen : Std.HashSet Word) (words others : List Word) :
    SoundSystem.distinctFrom seen (words ++ others) =
      SoundSystem.distinctFrom seen words ++
        (SoundSystem.distinctFrom seen others).filter
          fun word => word ∉ SoundSystem.distinctFrom seen words := by
  induction words generalizing seen with
  | nil => simp [SoundSystem.distinctFrom]
  | cons word words ih =>
    rw [List.cons_append, SoundSystem.distinctFrom, SoundSystem.distinctFrom]
    by_cases dropped : (word.isEmpty || seen.contains word) = true
    · rw [if_pos dropped, if_pos dropped, ih]
    · rw [if_neg dropped, if_neg dropped, ih, List.cons_append]
      have grows (other : Word) (among : seen.contains other = true) :
          (seen.insert word).contains other = true := by simp [among]
      rw [distinctFrom_of_more grows others, List.filter_filter]
      congr 2
      refine List.filter_congr fun other member => ?_
      have new := (of_mem_distinctFrom member).2
      rw [Std.HashSet.contains_insert, new, Bool.or_false]
      by_cases same : word = other
      · simp [same]
      · simp [same, Ne.symm same]

theorem distinct_append (words others : List Word) :
    SoundSystem.distinct (words ++ others) =
      SoundSystem.distinct words ++
        (SoundSystem.distinct others).filter fun word => word ∉ SoundSystem.distinct words :=
  distinctFrom_append ∅ words others

/-! Generations in a row. -/

variable {system after : SoundSystem} {repartition : Repartition} {n : Nat} {words : List Word}

/-- The draws of a longer generation are those of a shorter one and those of one that follows it. -/
theorem drawing_add {system after : SoundSystem} {words : List Word}
    (drawn : (drawing system repartition n).answer = .ok words)
    (left : after = { system with draws := (drawing system repartition n).state }) (m : Nat) :
    (drawing system repartition (n + m)).answer =
        (drawing after repartition m).answer.map (words ++ ·) ∧
      (drawing system repartition (n + m)).state = (drawing after repartition m).state := by
  subst left
  rw [drawing] at drawn
  simp only [drawing, drawWords_add, run_bind_ok drawn]
  cases later : (SoundSystem.drawWords system.classes system.syllables repartition.share m
      (SoundSystem.drawWords system.classes system.syllables repartition.share n
        system.draws).state).answer with
  | ok others => simp [run_bind_ok later, run_pure, Except.map]
  | error fault => simp [run_bind_error later, Except.map]

/-- A generation that follows another one goes on with its draws. Run in one, the two answer the words
of the first, and behind them those words of the second that are new, and they leave the same system.
Whatever happens to the further words, a longer generation that answers begins with the words of the
shorter one. -/
theorem longer_generation_extends {earlier : List Word}
    (first : system.generate n repartition = (.ok earlier, after)) :
    (∀ m later last, after.generate m repartition = (.ok later, last) →
      system.generate (n + m) repartition =
        (.ok (earlier ++ later.filter fun word => word ∉ earlier), last)) ∧
    ∀ m longer last, system.generate (n + m) repartition = (.ok longer, last) →
      earlier <+: longer := by
  obtain ⟨live, inhabited, some_, words, drawn, rfl, left⟩ := generate_eq_ok_iff.mp first
  constructor
  · intro m later last second
    obtain ⟨-, -, -, others, drawn', rfl, rfl⟩ := generate_eq_ok_iff.mp second
    obtain ⟨answer, state⟩ := drawing_add drawn left m
    refine generate_eq_ok_iff.mpr ⟨live, inhabited, by simp [some_], words ++ others, ?_, ?_, ?_⟩
    · rw [answer, drawn']
      rfl
    · rw [distinct_append]
    · rw [state, left]
  · intro m longer last whole
    obtain ⟨-, -, -, drawn', ran, rfl, -⟩ := generate_eq_ok_iff.mp whole
    rw [(drawing_add drawn left m).1] at ran
    cases rest : (drawing after repartition m).answer with
    | error fault => rw [rest] at ran; cases ran
    | ok others =>
      rw [rest] at ran
      cases ran
      exact ⟨_, (distinct_append words others).symm⟩

/-- Draws for three words of the small file, of which the third has one more syllable. -/
def risingDraws : Random.Draws :=
  .ofList (List.replicate 25 0 ++ 0xFFFFFFFF :: List.replicate 16 0)

/-- The draws that the small file makes of given ones, without monosyllables. -/
def voicedDrawing (n : Nat) (draws : Random.Draws) :
    Traced.Result Draw Random.Draws GenerationFault (List Word) :=
  SoundSystem.drawWords RuleFiles.voicedClasses [[⟨'C', false⟩, ⟨'V', false⟩]]
    Repartition.never.share n draws

/-- The second generation makes the word of the first once more, and a new one. -/
theorem longer_generation_adds_word :
    ∃ system after last, SoundSystem.ofFile RuleFiles.voicedFile risingDraws = .ok system ∧
      system.generate 1 .never = (.ok ["tata"], after) ∧
      after.generate 2 .never = (.ok ["tata", "tatata"], last) ∧
      system.generate (1 + 2) .never =
        (.ok (["tata"] ++ ["tata", "tatata"].filter fun word => word ∉ ["tata"]), last) := by
  obtain ⟨rule, compiled⟩ := RuleFiles.voicedFile_compiled
  have kept_both : SoundSystem.distinct ["tata"] = ["tata"] ∧
      SoundSystem.distinct ["tata", "tatata"] = ["tata", "tatata"] := by
    have short : "tata".isEmpty = false := rfl
    have long : "tatata".isEmpty = false := rfl
    simp [SoundSystem.distinct, SoundSystem.distinctFrom, short, long]
  have drawn : (voicedDrawing 1 risingDraws).answer = .ok ["tata"] := by decide +kernel
  have drawn' : (voicedDrawing 2 (voicedDrawing 1 risingDraws).state).answer =
      .ok ["tata", "tatata"] := by decide +kernel
  have first : (RuleFiles.voicedSystem rule risingDraws).generate 1 .never =
      (.ok ["tata"], RuleFiles.voicedSystem rule (voicedDrawing 1 risingDraws).state) :=
    generate_eq_ok_iff.mpr ⟨rfl, List.cons_ne_nil _ _, List.cons_ne_nil _ _, ["tata"], drawn,
      kept_both.1.symm, rfl⟩
  have second : (RuleFiles.voicedSystem rule (voicedDrawing 1 risingDraws).state).generate 2 .never =
      (.ok ["tata", "tatata"],
        RuleFiles.voicedSystem rule (voicedDrawing 2 (voicedDrawing 1 risingDraws).state).state) :=
    generate_eq_ok_iff.mpr ⟨rfl, List.cons_ne_nil _ _, List.cons_ne_nil _ _, ["tata", "tatata"],
      drawn', kept_both.2.symm, rfl⟩
  exact ⟨_, _, _, compiled risingDraws, first, second,
    (longer_generation_extends first).1 2 _ _ second⟩

end SoundChange.LongerGenerations
