/-!
UTF-8. `decode` reads a list of bytes as characters and refuses every byte sequence that is not the
shortest form of a Unicode scalar value. `encode` writes characters as bytes.
-/
namespace SoundChange.Text.Utf8

/-- The six payload bits of a continuation byte. -/
def continuation? (byte : UInt8) : Option Nat :=
  if 0x80 ≤ byte.toNat ∧ byte.toNat ≤ 0xBF then some (byte.toNat - 0x80) else none

/-- The character with a code point, if the code point is a scalar value. -/
def scalar? (code : Nat) : Option Char :=
  if valid : code.isValidChar then some (Char.ofNatAux code valid) else none

/-- Adds one decoded character in front of a decoded rest. -/
def consChar (first : Option Char) (rest : Option (List Char)) : Option (List Char) :=
  match first, rest with
  | some c, some cs => some (c :: cs)
  | _, _ => none

/-- The characters that a byte sequence encodes, if it is well formed. -/
def decode : List UInt8 → Option (List Char)
  | [] => some []
  | a :: rest =>
    if a.toNat < 0x80 then consChar (scalar? a.toNat) (decode rest)
    else if a.toNat < 0xC2 then none
    else if a.toNat < 0xE0 then
      match rest with
      | b :: rest =>
        match continuation? b with
        | some b => consChar (scalar? ((a.toNat - 0xC0) * 64 + b)) (decode rest)
        | none => none
      | [] => none
    else if a.toNat < 0xF0 then
      match rest with
      | b :: c :: rest =>
        match continuation? b, continuation? c with
        | some b, some c =>
          let code := ((a.toNat - 0xE0) * 64 + b) * 64 + c
          if code < 0x800 then none else consChar (scalar? code) (decode rest)
        | _, _ => none
      | _ => none
    else if a.toNat < 0xF5 then
      match rest with
      | b :: c :: d :: rest =>
        match continuation? b, continuation? c, continuation? d with
        | some b, some c, some d =>
          let code := (((a.toNat - 0xF0) * 64 + b) * 64 + c) * 64 + d
          if code < 0x10000 then none else consChar (scalar? code) (decode rest)
        | _, _, _ => none
      | _ => none
    else none

/-- The bytes of one character. -/
def encodeChar (c : Char) : List UInt8 :=
  let code := c.toNat
  if code < 0x80 then [code.toUInt8]
  else if code < 0x800 then [(0xC0 + code / 64).toUInt8, (0x80 + code % 64).toUInt8]
  else if code < 0x10000 then
    [(0xE0 + code / 4096).toUInt8, (0x80 + code / 64 % 64).toUInt8, (0x80 + code % 64).toUInt8]
  else
    [(0xF0 + code / 262144).toUInt8, (0x80 + code / 4096 % 64).toUInt8,
      (0x80 + code / 64 % 64).toUInt8, (0x80 + code % 64).toUInt8]

def encode (text : List Char) : List UInt8 :=
  text.flatMap encodeChar

/-- The text that a byte sequence encodes, if it is well formed. -/
def text? (bytes : List UInt8) : Option String :=
  (decode bytes).map String.ofList

end SoundChange.Text.Utf8
