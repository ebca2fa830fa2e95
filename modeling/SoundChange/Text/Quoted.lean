import SoundChange.Unicode.Property

/-!
Quoted text for messages. A text is put between double quotes; quotes, backslashes and the common
control characters are escaped with a letter, and characters that cannot be seen, or that combine
with the character before them, by their code point.
-/
namespace SoundChange.Text

open Unicode

/-- Characters that are shown by their code point: separators other than the blank, controls, format
characters, private and unassigned code points, and combining characters. -/
def unseen : CodeSet :=
  (((Category.unionOf (.lineSeparator :: .paragraphSeparator :: .spaceSeparator ::
      [.control, .format, .surrogate, .privateUse])).union (Category.set .unassigned)).union
    Property.graphemeExtend).difference (CodeSet.single 0x20)

/-- The digits of a number in lower-case hexadecimal. -/
def hexDigits (n : Nat) : List Char :=
  Nat.toDigits 16 n

/-- How one character is written between quotes. -/
def quoteChar (c : Char) : List Char :=
  if c = '"' then ['\\', '"']
  else if c = '\\' then ['\\', '\\']
  else if c = '\n' then ['\\', 'n']
  else if c = '\r' then ['\\', 'r']
  else if c = '\t' then ['\\', 't']
  else if c.toNat = 0 then ['\\', '0']
  else if unseen.containsChar c then ['\\', 'u', '\x7b'] ++ hexDigits c.toNat ++ ['\x7d']
  else [c]

/-- A text between double quotes. -/
def quoted (text : String) : String :=
  String.ofList ('"' :: (text.toList.flatMap quoteChar ++ ['"']))

end SoundChange.Text
