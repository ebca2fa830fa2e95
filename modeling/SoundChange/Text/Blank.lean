/-!
Blank characters and trimming. A character is blank when it has the White_Space property; trimming
removes blank characters from both ends of a text and touches nothing between them.
-/
namespace SoundChange.Text

/-- The twenty-five characters with the White_Space property. -/
def isBlank (c : Char) : Bool :=
  let code := c.toNat
  (9 ≤ code && code ≤ 13) || code == 0x20 || code == 0x85 || code == 0xA0 || code == 0x1680 ||
    (0x2000 ≤ code && code ≤ 0x200A) || code == 0x2028 || code == 0x2029 || code == 0x202F ||
    code == 0x205F || code == 0x3000

def trimStart (text : List Char) : List Char :=
  text.dropWhile isBlank

def trimEnd (text : List Char) : List Char :=
  (text.reverse.dropWhile isBlank).reverse

def trim (text : List Char) : List Char :=
  trimEnd (trimStart text)

/-- A text without the blank characters at its two ends. -/
def trimmed (text : String) : String :=
  String.ofList (trim text.toList)

theorem trimmed_toList (text : String) : (trimmed text).toList = trim text.toList := by
  simp [trimmed]

end SoundChange.Text
