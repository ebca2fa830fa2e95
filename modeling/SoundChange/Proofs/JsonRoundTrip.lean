import SoundChange.Json.Printer
import SoundChange.Json.Reader

/-! Written JSON is read back. A value without numbers is written as a text that has exactly the
tokens of the value, whatever blanks stand between them, and these tokens are read as the value if
its containers are not nested too deeply. -/
namespace SoundChange.JsonRoundTrip
open Json

/-- A value without numbers that is nested in at most so many containers. -/
inductive Plain : Nat → Value → Prop where
  | null (room : Nat) : Plain room .null
  | boolean (room : Nat) (b : Bool) : Plain room (.boolean b)
  | text (room : Nat) (s : String) : Plain room (.text s)
  | list {room : Nat} {items : List Value} (each : ∀ item ∈ items, Plain room item) :
    Plain (room + 1) (.list items)
  | record {room : Nat} {fields : List (String × Value)}
    (each : ∀ field ∈ fields, Plain room field.2) : Plain (room + 1) (.record fields)

mutual

/-- The tokens of a value without numbers. -/
def tokensOf : Value → List Token
  | .null => [.null]
  | .boolean b => [.boolean b]
  | .integer _ => []
  | .real _ => []
  | .text s => [.text (some s)]
  | .list [] => [.openList, .closeList]
  | .list (item :: items) => .openList :: (tokensOf item ++ tokensOfItems items)
  | .record [] => [.openRecord, .closeRecord]
  | .record ((key, v) :: fields) =>
    .openRecord :: .text (some key) :: .colon :: (tokensOf v ++ tokensOfFields fields)

/-- The tokens behind the first item of a list. -/
def tokensOfItems : List Value → List Token
  | [] => [.closeList]
  | item :: items => .comma :: (tokensOf item ++ tokensOfItems items)

/-- The tokens behind the first field of a record. -/
def tokensOfFields : List (String × Value) → List Token
  | [] => [.closeRecord]
  | (key, v) :: fields =>
    .comma :: .text (some key) :: .colon :: (tokensOf v ++ tokensOfFields fields)

end

/-! Texts. -/

theorem hexDigit?_hexNibble {n : Nat} (bound : n < 16) : hexDigit? (hexNibble n) = some n := by
  revert n
  decide

theorem hex4?_control {code : Nat} (control : code < 0x20) :
    hex4? '0' '0' (hexNibble (code / 16)) (hexNibble (code % 16)) = some code := by
  have zero : hexDigit? '0' = some 0 := by decide
  rw [hex4?, zero, hexDigit?_hexNibble (by omega), hexDigit?_hexNibble (by omega)]
  simp only [Option.some.injEq]
  omega

/-- A written character is scanned as one unit. -/
theorem scanText_writeChar_append (c : Char) (rest : List Char) :
    scanText (writeChar c ++ rest) = consPiece (.char c) (scanText rest) := by
  rw [writeChar]
  split
  · next same => subst same; rfl
  split
  · next same => subst same; rfl
  split
  · next same => subst same; rfl
  split
  · next same => subst same; rfl
  split
  · next same => subst same; rfl
  split
  · next same => subst same; rfl
  split
  · next same => subst same; rfl
  split
  · next control =>
    have piece : pieceOfCode c.toNat = .char c := by
      have notHigh : isHighHalf c.toNat = false := by simp [isHighHalf]; omega
      have notLow : isLowHalf c.toNat = false := by simp [isLowHalf]; omega
      rw [pieceOfCode, notHigh, notLow, Char.ofNat_toNat]
      rfl
    rw [List.cons_append, List.cons_append, List.cons_append, List.cons_append, List.cons_append,
      List.cons_append, List.nil_append, scanText, hex4?_control control]
    simp only [piece]
  · next notQuote notBackslash _ _ _ _ _ printable =>
    rw [List.cons_append, List.nil_append, scanText, if_neg printable]
    · exact notQuote
    · intro _ _ _ _ _ same
      exact absurd same notBackslash
    · intro _ _ same
      exact absurd same notBackslash

/-- A written text is scanned up to its closing quote, one unit for each character. -/
theorem scanText_writeText (s rest : List Char) :
    scanText (s.flatMap writeChar ++ '"' :: rest) = some (s.map .char, rest) := by
  induction s with
  | nil => rw [List.flatMap_nil, List.nil_append, scanText]; rfl
  | cons c s ih =>
    rw [List.flatMap_cons, List.append_assoc, scanText_writeChar_append, ih]
    rfl

theorem joinPieces_chars (s : List Char) : joinPieces (s.map .char) = some s := by
  induction s with
  | nil => rfl
  | cons c s ih => rw [List.map_cons, joinPieces, ih, Option.map_some]

/-! Lexing. -/

/-- A text starts with some tokens, and behind them comes the rest; every token takes up a
character. -/
structure Lexes (text : List Char) (tokens : List Token) (rest : List Char) : Prop where
  scans : ∀ fuel, lexUpTo (tokens.length + fuel) text = tokens ++ lexUpTo fuel rest
  fits : tokens.length + rest.length ≤ text.length

theorem Lexes.refl (text : List Char) : Lexes text [] text where
  scans fuel := by rw [List.length_nil, Nat.zero_add, List.nil_append]
  fits := Nat.le_of_eq (Nat.zero_add _)

/-- Tokens that come one after the other are the tokens of the whole. -/
theorem Lexes.trans {text middle rest : List Char} {tokens more : List Token}
    (first : Lexes text tokens middle) (second : Lexes middle more rest) :
    Lexes text (tokens ++ more) rest where
  scans fuel := by
    rw [List.length_append, Nat.add_assoc, first.scans, second.scans, List.append_assoc]
  fits := by
    have firstFits := first.fits
    have secondFits := second.fits
    rw [List.length_append]
    omega

/-- A text that starts with a token goes on with the tokens behind it. -/
theorem Lexes.cons {c : Char} {text middle rest : List Char} {token : Token} {more : List Token}
    (scanned : scanToken (c :: text) = some (token, middle)) (visible : isSpace c = false)
    (shorter : middle.length ≤ text.length) (second : Lexes middle more rest) :
    Lexes (c :: text) (token :: more) rest where
  scans fuel := by
    have steps : (token :: more).length + fuel = more.length + fuel + 1 := by
      rw [List.length_cons]
      omega
    rw [steps, lexUpTo, List.dropWhile_cons, visible]
    simp only [Bool.false_eq_true, ↓reduceIte, scanned, second.scans, List.cons_append]
  fits := by
    have secondFits := second.fits
    rw [List.length_cons, List.length_cons]
    omega

theorem lexUpTo_blanks {blanks : List Char} (blank : ∀ c ∈ blanks, isSpace c = true) (fuel : Nat)
    (text : List Char) : lexUpTo fuel (blanks ++ text) = lexUpTo fuel text := by
  have skipped : (blanks ++ text).dropWhile isSpace = text.dropWhile isSpace := by
    induction blanks with
    | nil => rfl
    | cons c blanks ih =>
      rw [List.cons_append, List.dropWhile_cons, if_pos (blank c List.mem_cons_self)]
      exact ih fun c member => blank c (List.mem_cons_of_mem _ member)
  cases fuel with
  | zero => rfl
  | succ fuel => rw [lexUpTo, lexUpTo, skipped]

/-- Blanks in front of a text are passed over. -/
theorem Lexes.blanks {blanks text rest : List Char} {tokens : List Token}
    (blank : ∀ c ∈ blanks, isSpace c = true) (lexes : Lexes text tokens rest) :
    Lexes (blanks ++ text) tokens rest where
  scans fuel := by rw [lexUpTo_blanks blank, lexes.scans]
  fits := by
    have fits := lexes.fits
    rw [List.length_append]
    omega

theorem isSpace_newLine (depth : Nat) : ∀ c ∈ newLine depth, isSpace c = true := by
  intro c member
  rcases List.mem_cons.mp member with rfl | member
  · rfl
  · rw [List.eq_of_mem_replicate member]
    rfl

/-- A text with nothing but blanks behind its tokens has just these tokens. -/
theorem lex_of_lexes {text blanks : List Char} {tokens : List Token}
    (lexes : Lexes text tokens blanks) (blank : ∀ c ∈ blanks, isSpace c = true) :
    lex text = tokens := by
  have enough : text.length + 1 = tokens.length + (text.length + 1 - tokens.length) := by
    have fits := lexes.fits
    omega
  have nothing (fuel : Nat) : lexUpTo fuel blanks = [] := by
    rw [← List.append_nil blanks, lexUpTo_blanks blank]
    cases fuel <;> rfl
  rw [lex, enough, lexes.scans, nothing, List.append_nil]

theorem lexes_writeText {s rest : List Char} {tokens : List Token} {behind : List Char}
    (lexes : Lexes behind tokens rest) :
    Lexes (writeText s ++ behind) (.text (some (String.ofList s)) :: tokens) rest := by
  have scanned : scanToken ('"' :: (s.flatMap writeChar ++ '"' :: behind)) =
      some (.text (some (String.ofList s)), behind) := by
    rw [scanToken, scanText_writeText]
    simp only [Option.map_some, joinPieces_chars]
  have text : writeText s ++ behind = '"' :: (s.flatMap writeChar ++ '"' :: behind) := by
    simp [writeText]
  have shorter : behind.length ≤ (s.flatMap writeChar ++ '"' :: behind).length := by
    rw [List.length_append, List.length_cons]
    omega
  rw [text]
  exact .cons scanned rfl shorter lexes

/-- Before anything else, a written value has its own tokens. -/
def Written (v : Value) : Prop :=
  ∀ depth {behind rest : List Char} {tokens : List Token}, Lexes behind tokens rest →
    Lexes (write depth v ++ behind) (tokensOf v ++ tokens) rest

/-- A written list has the tokens of its items, up to the bracket that ends it. -/
theorem lexes_writeItems {items : List Value} (each : ∀ item ∈ items, Written item)
    (inner outer : Nat) {behind rest : List Char} {tokens : List Token}
    (lexes : Lexes behind tokens rest) :
    Lexes (writeItems inner items ++ (newLine outer ++ ']' :: behind))
      (tokensOfItems items ++ tokens) rest := by
  induction items with
  | nil =>
    rw [writeItems, List.nil_append, tokensOfItems]
    exact .blanks (isSpace_newLine outer) (.cons rfl rfl (Nat.le_refl _) lexes)
  | cons item items ih =>
    have others := ih fun item member => each item (List.mem_cons_of_mem _ member)
    have first := each item List.mem_cons_self inner others
    rw [writeItems, tokensOfItems]
    simp only [List.cons_append, List.append_assoc]
    exact .cons rfl rfl (Nat.le_refl _) (.blanks (isSpace_newLine inner) first)

theorem lexes_writeField (key : String) {v : Value} (written : Written v) (depth : Nat)
    {behind rest : List Char} {tokens : List Token} (lexes : Lexes behind tokens rest) :
    Lexes (newLine depth ++ (writeText key.toList ++ ':' :: ' ' :: (write depth v ++ behind)))
      (.text (some key) :: .colon :: (tokensOf v ++ tokens)) rest := by
  have blank : ∀ c ∈ [' '], isSpace c = true := by simp [isSpace]
  have value : Lexes (' ' :: (write depth v ++ behind)) (tokensOf v ++ tokens) rest :=
    .blanks blank (written depth lexes)
  have colon : Lexes (':' :: ' ' :: (write depth v ++ behind))
      (.colon :: (tokensOf v ++ tokens)) rest := .cons rfl rfl (Nat.le_refl _) value
  have named := lexes_writeText (s := key.toList) colon
  rw [String.ofList_toList] at named
  exact .blanks (isSpace_newLine depth) named

theorem lexes_writeFields {fields : List (String × Value)}
    (each : ∀ field ∈ fields, Written field.2) (inner outer : Nat) {behind rest : List Char}
    {tokens : List Token} (lexes : Lexes behind tokens rest) :
    Lexes (writeFields inner fields ++ (newLine outer ++ '}' :: behind))
      (tokensOfFields fields ++ tokens) rest := by
  induction fields with
  | nil =>
    rw [writeFields, List.nil_append, tokensOfFields]
    exact .blanks (isSpace_newLine outer) (.cons rfl rfl (Nat.le_refl _) lexes)
  | cons field fields ih =>
    have others := ih fun field member => each field (List.mem_cons_of_mem _ member)
    have first := lexes_writeField field.1 (each field List.mem_cons_self) inner others
    rw [writeFields, tokensOfFields]
    simp only [List.cons_append, List.append_assoc]
    exact .cons rfl rfl (Nat.le_refl _) first

/-- The tokens of a written value are those of the value. -/
theorem Plain.written {room : Nat} {v : Value} (plain : Plain room v) : Written v := by
  induction plain with
  | null room =>
    intro depth behind rest tokens lexes
    exact .cons rfl rfl (Nat.le_add_right _ 3) lexes
  | boolean room b =>
    intro depth behind rest tokens lexes
    cases b with
    | true => exact .cons rfl rfl (Nat.le_add_right _ 3) lexes
    | false => exact .cons rfl rfl (Nat.le_add_right _ 4) lexes
  | text room s =>
    intro depth behind rest tokens lexes
    have written := lexes_writeText (s := s.toList) lexes
    rw [String.ofList_toList] at written
    exact written
  | @list room items each ih =>
    intro depth behind rest tokens lexes
    cases items with
    | nil => exact .cons rfl rfl (Nat.le_refl _) (.cons rfl rfl (Nat.le_refl _) lexes)
    | cons item items =>
      have others := lexes_writeItems (fun item member => ih item (List.mem_cons_of_mem _ member))
        (depth + 1) depth lexes
      have first := ih item List.mem_cons_self (depth + 1) others
      rw [write, tokensOf]
      simp only [List.cons_append, List.append_assoc, List.nil_append]
      exact .cons rfl rfl (Nat.le_refl _) (.blanks (isSpace_newLine _) first)
  | @record room fields each ih =>
    intro depth behind rest tokens lexes
    cases fields with
    | nil => exact .cons rfl rfl (Nat.le_refl _) (.cons rfl rfl (Nat.le_refl _) lexes)
    | cons field fields =>
      have others := lexes_writeFields
        (fun field member => ih field (List.mem_cons_of_mem _ member)) (depth + 1) depth lexes
      have first := lexes_writeField field.1 (ih field List.mem_cons_self) (depth + 1)
        others
      rw [write, tokensOf]
      simp only [List.cons_append, List.append_assoc, List.nil_append]
      exact .cons rfl rfl (Nat.le_refl _) first

/-! Reading. -/

variable {outer : Nat}

/-- A reader that is not done takes one token at a time. -/
theorem run_cons {care : Care} {mode mode' : Mode} {frames frames' : List Frame} {token : Token}
    (tokens : List Token) (pending : frames ≠ [] ∨ ∀ v, mode ≠ .done v)
    (stepped : step care mode frames token = some (mode', frames')) :
    run care mode frames (token :: tokens) = run care mode' frames' tokens := by
  rw [run, stepped]
  intro v done none_open
  rcases pending with opened | undone
  · exact opened none_open
  · exact undone v done

theorem mayOpen_of_room {frames : List Frame} {room : Nat}
    (fits : outer + frames.length + (room + 1) ≤ depthLimit) :
    mayOpen (.kept outer) frames = true := by
  simp only [mayOpen, decide_eq_true_eq]
  omega

/-- Whether a value may come next. -/
def Expecting (mode : Mode) : Prop :=
  mode = .value ∨ mode = .itemOrClose

/-- A token that starts a value is taken as such, also where a list could end. -/
theorem run_value_cons {care : Care} {mode mode' : Mode} {frames frames' : List Frame}
    {token : Token} (tokens : List Token) (expecting : Expecting mode)
    (starts : token ≠ .closeList)
    (stepped : stepValue care frames token = some (mode', frames')) :
    run care mode frames (token :: tokens) = run care mode' frames' tokens := by
  rcases expecting with rfl | rfl
  · exact run_cons tokens (.inr fun _ => Mode.noConfusion) stepped
  · refine run_cons tokens (.inr fun _ => Mode.noConfusion) ?_
    rw [step, stepped]
    intro _ _ _ ends
    exact absurd ends starts

/-- The tokens of a value are read as the value wherever a value may come next. -/
def ReadsBack (outer room : Nat) (v : Value) : Prop :=
  ∀ {mode : Mode} {frames : List Frame} (tokens : List Token), Expecting mode →
    outer + frames.length + room ≤ depthLimit →
      run (.kept outer) mode frames (tokensOf v ++ tokens) =
        run (.kept outer) (.done v) frames tokens

/-- The tokens of further items add them to the list that is being read. -/
theorem run_items {room : Nat} {items : List Value}
    (each : ∀ item ∈ items, ReadsBack outer room item) (v : Value) (before : List Value)
    (frames : List Frame) (tokens : List Token)
    (fits : outer + frames.length + (room + 1) ≤ depthLimit) :
    run (.kept outer) (.done v) (.list before :: frames) (tokensOfItems items ++ tokens) =
      run (.kept outer) (.done (.list (before.reverse ++ v :: items))) frames tokens := by
  have opened : Frame.list before :: frames ≠ [] := List.cons_ne_nil _ _
  induction items generalizing v before with
  | nil =>
    rw [tokensOfItems, List.singleton_append, ← List.reverse_cons]
    exact run_cons tokens (.inl opened) rfl
  | cons item items ih =>
    have inside : outer + (Frame.list (v :: before) :: frames).length + room ≤ depthLimit := by
      rw [List.length_cons]
      omega
    have first := each item List.mem_cons_self (tokensOfItems items ++ tokens) (.inl rfl) inside
    have others := ih (fun item member => each item (List.mem_cons_of_mem _ member)) item
      (v :: before) (List.cons_ne_nil _ _)
    rw [tokensOfItems, List.cons_append, run_cons _ (.inl opened) rfl, List.append_assoc, first,
      others, List.reverse_cons, List.append_assoc, List.singleton_append]

theorem run_fields {room : Nat} {fields : List (String × Value)}
    (each : ∀ field ∈ fields, ReadsBack outer room field.2) (key : String) (v : Value)
    (before : List (String × Value)) (frames : List Frame) (tokens : List Token)
    (fits : outer + frames.length + (room + 1) ≤ depthLimit) :
    run (.kept outer) (.done v) (.field before key :: frames) (tokensOfFields fields ++ tokens) =
      run (.kept outer) (.done (.record (before.reverse ++ (key, v) :: fields))) frames tokens := by
  have opened : Frame.field before key :: frames ≠ [] := List.cons_ne_nil _ _
  induction fields generalizing key v before with
  | nil =>
    rw [tokensOfFields, List.singleton_append, ← List.reverse_cons]
    exact run_cons tokens (.inl opened) rfl
  | cons field fields ih =>
    have inside : outer + (Frame.field ((key, v) :: before) field.1 :: frames).length + room ≤
        depthLimit := by
      rw [List.length_cons]
      omega
    have first := each field List.mem_cons_self (tokensOfFields fields ++ tokens) (.inl rfl) inside
    have others := ih (fun field member => each field (List.mem_cons_of_mem _ member)) field.1
      field.2 ((key, v) :: before) (List.cons_ne_nil _ _)
    rw [tokensOfFields, List.cons_append, run_cons _ (.inl opened) rfl, List.cons_append,
      run_cons _ (.inl (List.cons_ne_nil _ _)) rfl, List.cons_append,
      run_cons _ (.inl (List.cons_ne_nil _ _)) rfl, List.append_assoc, first, others,
      List.reverse_cons, List.append_assoc, List.singleton_append]

theorem Plain.readsBack {room : Nat} {v : Value} (plain : Plain room v) :
    ReadsBack outer room v := by
  induction plain with
  | null room =>
    intro mode frames tokens expecting _
    exact run_value_cons tokens expecting Token.noConfusion rfl
  | boolean room b =>
    intro mode frames tokens expecting _
    exact run_value_cons tokens expecting Token.noConfusion rfl
  | text room s =>
    intro mode frames tokens expecting _
    exact run_value_cons tokens expecting Token.noConfusion rfl
  | @list room items each ih =>
    intro mode frames tokens expecting fits
    have opens : stepValue (.kept outer) frames .openList =
        some (.itemOrClose, .list [] :: frames) := by
      rw [stepValue, mayOpen_of_room fits, if_pos rfl]
    cases items with
    | nil =>
      rw [tokensOf, List.cons_append, run_value_cons _ expecting Token.noConfusion opens]
      exact run_cons tokens (.inl (List.cons_ne_nil _ _)) rfl
    | cons item items =>
      have inside : outer + (Frame.list [] :: frames).length + room ≤ depthLimit := by
        rw [List.length_cons]
        omega
      have first := ih item List.mem_cons_self (tokensOfItems items ++ tokens) (.inr rfl) inside
      have others := run_items (fun item member => ih item (List.mem_cons_of_mem _ member)) item []
        frames tokens fits
      rw [tokensOf, List.cons_append, run_value_cons _ expecting Token.noConfusion opens,
        List.append_assoc, first, others]
      rfl
  | @record room fields each ih =>
    intro mode frames tokens expecting fits
    have opens : stepValue (.kept outer) frames .openRecord =
        some (.keyOrClose, .record [] :: frames) := by
      rw [stepValue, mayOpen_of_room fits, if_pos rfl]
    cases fields with
    | nil =>
      rw [tokensOf, List.cons_append, run_value_cons _ expecting Token.noConfusion opens]
      exact run_cons tokens (.inl (List.cons_ne_nil _ _)) rfl
    | cons field fields =>
      have inside : outer + (Frame.field [] field.1 :: frames).length + room ≤ depthLimit := by
        rw [List.length_cons]
        omega
      have first := ih field List.mem_cons_self (tokensOfFields fields ++ tokens) (.inl rfl) inside
      have others := run_fields (fun field member => ih field (List.mem_cons_of_mem _ member))
        field.1 field.2 [] frames tokens fits
      rw [tokensOf, List.cons_append, run_value_cons _ expecting Token.noConfusion opens,
        List.cons_append, run_cons _ (.inl (List.cons_ne_nil _ _)) rfl, List.cons_append,
        run_cons _ (.inl (List.cons_ne_nil _ _)) rfl, List.append_assoc, first, others]
      rfl

/-- A written value, with nothing but blanks behind it, is read as the value with its fields in
order. -/
theorem parse?_write {v : Value} (plain : Plain depthLimit v) {blanks : List Char}
    (blank : ∀ c ∈ blanks, isSpace c = true) : parse? (write 0 v ++ blanks) = some v.tidy := by
  have tokens := lex_of_lexes (plain.written 0 (.refl blanks)) blank
  have read : run (.kept 0) .value [] (tokensOf v ++ []) = run (.kept 0) (.done v) [] [] :=
    plain.readsBack [] (.inl rfl) (by simp)
  have value : readValue (.kept 0) (tokensOf v ++ []) = some (v, []) := by
    rw [readValue, read, run]
  rw [parse?, tokens, value]

end SoundChange.JsonRoundTrip
