import SoundChange.Host

/-! UTF-8 loses nothing: the bytes of a text are read as this text, and no other bytes are. So a byte
sequence is read as a text exactly when it is well-formed, and the text is the one it encodes. -/
namespace SoundChange.Utf8Coding
open Text.Utf8

variable {lead first second third : Nat} (bytes : List UInt8)

theorem scalar?_toNat (c : Char) : scalar? c.toNat = some c := by
  have valid : c.toNat.isValidChar := c.valid
  rw [scalar?, dif_pos valid]
  rfl

theorem toNat_toUInt8 {n : Nat} (bound : n < 256) : n.toUInt8.toNat = n := by
  rw [Nat.toUInt8_eq, UInt8.toNat_ofNat', Nat.mod_eq_of_lt bound]

theorem continuation?_toUInt8 {payload : Nat} (bound : payload < 64) :
    continuation? (0x80 + payload).toUInt8 = some payload := by
  have byte : (0x80 + payload).toUInt8.toNat = 0x80 + payload := toNat_toUInt8 (by omega)
  rw [continuation?, byte, if_pos ⟨by omega, by omega⟩, Nat.add_sub_cancel_left]

/-! One lemma for each length of a byte sequence; the payload of its bytes is the code point. -/

/-- A byte of seven bits is a character of its own. -/
theorem decode_one (bound : lead < 0x80) :
    decode (lead.toUInt8 :: bytes) = consChar (scalar? lead) (decode bytes) := by
  have byte : lead.toUInt8.toNat = lead := toNat_toUInt8 (by omega)
  rw [decode.eq_def]
  simp only [byte, if_pos bound]

/-- Two bytes are read as one code point, which must not fit into a single byte. -/
theorem decode_two (shortest : 0x02 ≤ lead) (bound : lead < 0x20) (firstBound : first < 64) :
    decode ((0xC0 + lead).toUInt8 :: (0x80 + first).toUInt8 :: bytes) =
      consChar (scalar? (lead * 64 + first)) (decode bytes) := by
  have byte : (0xC0 + lead).toUInt8.toNat = 0xC0 + lead := toNat_toUInt8 (by omega)
  rw [decode, byte, if_neg (by omega), if_neg (by omega), if_pos (by omega)]
  simp only [continuation?_toUInt8 firstBound, Nat.add_sub_cancel_left]

theorem decode_three (bound : lead < 0x10) (firstBound : first < 64) (secondBound : second < 64)
    (shortest : 0x800 ≤ (lead * 64 + first) * 64 + second) :
    decode ((0xE0 + lead).toUInt8 :: (0x80 + first).toUInt8 :: (0x80 + second).toUInt8 :: bytes) =
      consChar (scalar? ((lead * 64 + first) * 64 + second)) (decode bytes) := by
  have byte : (0xE0 + lead).toUInt8.toNat = 0xE0 + lead := toNat_toUInt8 (by omega)
  rw [decode, byte, if_neg (by omega), if_neg (by omega), if_neg (by omega), if_pos (by omega)]
  simp only [continuation?_toUInt8 firstBound, continuation?_toUInt8 secondBound,
    Nat.add_sub_cancel_left]
  rw [if_neg (by omega)]

theorem decode_four (bound : lead < 0x05) (firstBound : first < 64) (secondBound : second < 64)
    (thirdBound : third < 64)
    (shortest : 0x10000 ≤ ((lead * 64 + first) * 64 + second) * 64 + third) :
    decode ((0xF0 + lead).toUInt8 :: (0x80 + first).toUInt8 :: (0x80 + second).toUInt8 ::
        (0x80 + third).toUInt8 :: bytes) =
      consChar (scalar? (((lead * 64 + first) * 64 + second) * 64 + third)) (decode bytes) := by
  have byte : (0xF0 + lead).toUInt8.toNat = 0xF0 + lead := toNat_toUInt8 (by omega)
  rw [decode, byte, if_neg (by omega), if_neg (by omega), if_neg (by omega), if_neg (by omega),
    if_pos (by omega)]
  simp only [continuation?_toUInt8 firstBound, continuation?_toUInt8 secondBound,
    continuation?_toUInt8 thirdBound, Nat.add_sub_cancel_left]
  rw [if_neg (by omega)]

/-- No character is beyond the largest code point. -/
theorem code_bound (c : Char) : c.toNat < 0x110000 := by
  rcases c.valid with low | ⟨_, high⟩
  · exact Nat.lt_trans low (by decide)
  · exact high

/-- The bytes of a character are read as this character, whatever follows them. -/
theorem decode_encodeChar_append (c : Char) :
    decode (encodeChar c ++ bytes) = (decode bytes).map (c :: ·) := by
  have bound := code_bound c
  have read : decode (encodeChar c ++ bytes) = consChar (scalar? c.toNat) (decode bytes) := by
    generalize h : c.toNat = code at bound
    simp only [encodeChar, h]
    split
    · next short => exact decode_one bytes short
    split
    · rw [List.cons_append, List.cons_append, List.nil_append,
        decode_two bytes (by omega) (by omega) (by omega)]
      congr 2
      omega
    split
    · rw [List.cons_append, List.cons_append, List.cons_append, List.nil_append,
        decode_three bytes (by omega) (by omega) (by omega) (by omega)]
      congr 2
      omega
    · rw [List.cons_append, List.cons_append, List.cons_append, List.cons_append, List.nil_append,
        decode_four bytes (by omega) (by omega) (by omega) (by omega) (by omega)]
      congr 2
      omega
  rw [read, scalar?_toNat]
  cases decode bytes <;> rfl

/-- Reading undoes writing. -/
theorem decode_encode (text : List Char) : decode (encode text) = some text := by
  induction text with
  | nil => rfl
  | cons c text ih =>
    have bytes : encode (c :: text) = encodeChar c ++ encode text := rfl
    rw [bytes, decode_encodeChar_append, ih, Option.map_some]

/-- What was written as UTF-8 is read as the same text. -/
theorem textOfBytes_encode (text : String) : textOfBytes (encode text.toList) = .ok text := by
  rw [textOfBytes, text?, decode_encode, Option.map_some, String.ofList_toList]

theorem toUInt8_toNat (byte : UInt8) : byte.toNat.toUInt8 = byte := by
  rw [Nat.toUInt8_eq, UInt8.ofNat_toNat]

theorem continuation?_eq_some {byte : UInt8} {payload : Nat} (read : continuation? byte = some payload) :
    byte = (0x80 + payload).toUInt8 ∧ payload < 64 := by
  rw [continuation?] at read
  split at read
  · next inside =>
    have rest : byte.toNat - 0x80 = payload := Option.some.inj read
    have whole : 0x80 + payload = byte.toNat := by omega
    exact ⟨by rw [whole, toUInt8_toNat], by omega⟩
  · cases read

theorem toNat_of_scalar? {code : Nat} {c : Char} (read : scalar? code = some c) : c.toNat = code := by
  by_cases valid : code.isValidChar
  · rw [scalar?, dif_pos valid] at read
    rw [← Option.some.inj read]
    exact BitVec.toNat_ofNatLT code _
  · rw [scalar?, dif_neg valid] at read
    cases read

/-- A text that was put together has a first character and a rest, both of them read. -/
theorem consChar_eq_some {first : Option Char} {rest : Option (List Char)} {text : List Char}
    (read : consChar first rest = some text) :
    ∃ c others, first = some c ∧ rest = some others ∧ text = c :: others := by
  cases first with
  | none => cases read
  | some c =>
    cases rest with
    | none => cases read
    | some others => exact ⟨c, others, rfl, rfl, (Option.some.inj read).symm⟩

/-! One lemma for each length again, for writing a character: the code point makes the payload. -/

/-- A character of seven bits is written as one byte. -/
theorem encodeChar_one {c : Char} (code : c.toNat = lead) (bound : lead < 0x80) :
    encodeChar c = [lead.toUInt8] := by
  simp only [encodeChar, code, if_pos bound]

theorem encodeChar_two {c : Char} (code : c.toNat = lead * 64 + first) (shortest : 0x02 ≤ lead)
    (bound : lead < 0x20) (firstBound : first < 64) :
    encodeChar c = [(0xC0 + lead).toUInt8, (0x80 + first).toUInt8] := by
  have high : c.toNat / 64 = lead := by omega
  have low : c.toNat % 64 = first := by omega
  simp only [encodeChar]
  rw [if_neg (by omega), if_pos (by omega), high, low]

theorem encodeChar_three {c : Char} (code : c.toNat = (lead * 64 + first) * 64 + second)
    (bound : lead < 0x10) (firstBound : first < 64) (secondBound : second < 64)
    (shortest : 0x800 ≤ (lead * 64 + first) * 64 + second) :
    encodeChar c = [(0xE0 + lead).toUInt8, (0x80 + first).toUInt8, (0x80 + second).toUInt8] := by
  have high : c.toNat / 4096 = lead := by omega
  have middle : c.toNat / 64 % 64 = first := by omega
  have low : c.toNat % 64 = second := by omega
  simp only [encodeChar]
  rw [if_neg (by omega), if_neg (by omega), if_pos (by omega), high, middle, low]

theorem encodeChar_four {c : Char}
    (code : c.toNat = ((lead * 64 + first) * 64 + second) * 64 + third)
    (firstBound : first < 64) (secondBound : second < 64) (thirdBound : third < 64)
    (shortest : 0x10000 ≤ ((lead * 64 + first) * 64 + second) * 64 + third) :
    encodeChar c = [(0xF0 + lead).toUInt8, (0x80 + first).toUInt8, (0x80 + second).toUInt8,
      (0x80 + third).toUInt8] := by
  have high : c.toNat / 262144 = lead := by omega
  have upper : c.toNat / 4096 % 64 = first := by omega
  have middle : c.toNat / 64 % 64 = second := by omega
  have low : c.toNat % 64 = third := by omega
  simp only [encodeChar]
  rw [if_neg (by omega), if_neg (by omega), if_neg (by omega), high, upper, middle, low]

/-- What is left to show when a character and a rest were read off bytes that begin with `bytes`. -/
theorem encode_of_consChar {code : Nat} (lead : List UInt8) {rest : List UInt8} {text : List Char}
    (read : consChar (scalar? code) (decode rest) = some text)
    (one : ∀ {c : Char}, c.toNat = code → encodeChar c = lead)
    (others : ∀ {text : List Char}, decode rest = some text → encode text = rest) :
    encode text = lead ++ rest := by
  obtain ⟨c, after, first, tail, rfl⟩ := consChar_eq_some read
  have bytes : encode (c :: after) = encodeChar c ++ encode after := rfl
  rw [bytes, one (toNat_of_scalar? first), others tail]

/-- Bytes that are read as a text are the bytes of this text: no text has a second spelling. -/
theorem encode_of_decode {bytes : List UInt8} {text : List Char} (read : decode bytes = some text) :
    encode text = bytes := by
  fun_induction decode bytes generalizing text with
  | case1 =>
    cases read
    rfl
  | case2 a rest bound ih =>
    refine encode_of_consChar [a] read (fun code => ?_) ih
    rw [encodeChar_one code bound, toUInt8_toNat]
  | case4 a _ above bound b rest first firstRead ih =>
    refine encode_of_consChar [a, b] read (fun code => ?_) ih
    obtain ⟨rfl, firstBound⟩ := continuation?_eq_some firstRead
    have leadByte : (0xC0 + (a.toNat - 0xC0)).toUInt8 = a := by
      rw [Nat.add_sub_cancel' (by omega), toUInt8_toNat]
    rw [encodeChar_two code (by omega) (by omega) firstBound, leadByte]
  | case8 a _ _ above bound b c rest first second secondRead firstRead value shortest =>
    rename_i ih
    refine encode_of_consChar [a, b, c] read (fun code => ?_) ih
    obtain ⟨rfl, firstBound⟩ := continuation?_eq_some firstRead
    obtain ⟨rfl, secondBound⟩ := continuation?_eq_some secondRead
    have leadByte : (0xE0 + (a.toNat - 0xE0)).toUInt8 = a := by
      rw [Nat.add_sub_cancel' (by omega), toUInt8_toNat]
    rw [encodeChar_three code (by omega) firstBound secondBound (by omega), leadByte]
  | case12 a _ _ _ above bound b c d rest first second third thirdRead secondRead firstRead
      value shortest =>
    rename_i ih
    refine encode_of_consChar [a, b, c, d] read (fun code => ?_) ih
    obtain ⟨rfl, firstBound⟩ := continuation?_eq_some firstRead
    obtain ⟨rfl, secondBound⟩ := continuation?_eq_some secondRead
    obtain ⟨rfl, thirdBound⟩ := continuation?_eq_some thirdRead
    have leadByte : (0xF0 + (a.toNat - 0xF0)).toUInt8 = a := by
      rw [Nat.add_sub_cancel' (by omega), toUInt8_toNat]
    rw [encodeChar_four code firstBound secondBound thirdBound (by omega), leadByte]
  | _ => cases read

/-- Bytes and texts belong to each other one to one. -/
theorem decode_eq_some_iff {bytes : List UInt8} {text : List Char} :
    decode bytes = some text ↔ encode text = bytes :=
  ⟨encode_of_decode, fun written => by rw [← written, decode_encode]⟩

/-- A character has the bytes that the standard library gives it. -/
theorem encodeChar_eq (c : Char) : encodeChar c = String.utf8EncodeChar c := by
  have bound := code_bound c
  have code : c.val.toNat = c.toNat := rfl
  simp only [encodeChar, String.utf8EncodeChar, code, Nat.toUInt8_eq]
  generalize c.toNat = n at bound
  split
  · rw [if_pos (by omega)]
  split
  · rw [if_neg (by omega), if_pos (by omega), Nat.mod_eq_of_lt (a := n / 64) (by omega),
      Nat.add_comm 0xC0, Nat.add_comm 0x80]
  split
  · rw [if_neg (by omega), if_neg (by omega), if_pos (by omega),
      Nat.mod_eq_of_lt (a := n / 4096) (by omega), Nat.add_comm 0xE0]
    simp only [Nat.add_comm 0x80]
  · rw [if_neg (by omega), if_neg (by omega), if_neg (by omega),
      Nat.mod_eq_of_lt (a := n / 262144) (by omega), Nat.add_comm 0xF0]
    simp only [Nat.add_comm 0x80]

theorem encode_toByteArray (text : List Char) : (encode text).toByteArray = text.utf8Encode := by
  rw [List.utf8Encode, encode, funext encodeChar_eq]

/-- A text is read off bytes exactly when they are well-formed UTF-8, and it is the text they encode. -/
theorem text?_eq_fromUTF8? (bytes : List UInt8) : text? bytes = String.fromUTF8? bytes.toByteArray := by
  by_cases valid : bytes.toByteArray.IsValidUTF8
  · obtain ⟨text, encoded⟩ := valid
    rw [← encode_toByteArray, List.toByteArray_inj] at encoded
    subst encoded
    rw [text?, decode_encode, Option.map_some, String.fromUTF8?, dif_pos ⟨text, encode_toByteArray text⟩]
    congr 1
    apply String.toByteArray_inj.mp
    rw [String.toByteArray_ofList, ← encode_toByteArray]
    rfl
  · have unread : decode bytes = none := by
      cases read : decode bytes with
      | none => rfl
      | some text =>
        rw [← encode_of_decode read, encode_toByteArray] at valid
        exact absurd ByteArray.isValidUTF8_utf8Encode valid
    rw [text?, unread, Option.map_none, String.fromUTF8?, dif_neg valid]

/-- Every byte of a longer sequence is above the ASCII ones. -/
theorem encodeChar_above {c : Char} (long : 0x80 ≤ c.toNat) : ∀ byte ∈ encodeChar c, 0x80 ≤ byte.toNat := by
  have bound := code_bound c
  have above : ∀ n, 0x80 ≤ n → n < 256 → 0x80 ≤ n.toUInt8.toNat := fun n low high => by
    rwa [toNat_toUInt8 high]
  simp only [encodeChar]
  generalize c.toNat = code at long bound
  rw [if_neg (by omega)]
  split
  · simp only [List.forall_mem_cons]
    exact ⟨above _ (by omega) (by omega), above _ (by omega) (by omega), fun _ inside => nomatch inside⟩
  split
  · simp only [List.forall_mem_cons]
    exact ⟨above _ (by omega) (by omega), above _ (by omega) (by omega), above _ (by omega) (by omega),
      fun _ inside => nomatch inside⟩
  · simp only [List.forall_mem_cons]
    exact ⟨above _ (by omega) (by omega), above _ (by omega) (by omega), above _ (by omega) (by omega),
      above _ (by omega) (by omega), fun _ inside => nomatch inside⟩

theorem encode_append (first second : List Char) :
    encode (first ++ second) = encode first ++ encode second :=
  List.flatMap_append

end SoundChange.Utf8Coding
