import SoundChange.Unicode.Property
import SoundChange.Unicode.Script

/-!
Breaks. Code points are told apart by how they may be broken into grapheme clusters, words and
sentences. Most of these classes follow from categories, properties and scripts, and from tables of
what is added or left out. The code points of no class have no name here.
-/
namespace SoundChange.Unicode.Break

open Category Property

/-- Marks that go with the character before them without being joined to it. -/
def looseMarks : String :=
  "102B-102C 1038 1062-1064 1067-106D 1083 1087-108C 108F 109A-109C 1A61 1A63-1A64 AA7B AA7D
    11720-11721"

def prepended : String :=
  "600-605 6DD 70F 890-891 8E2 D4E 110BD 110CD 111C2-111C3 1193F 11941 11A3A 11A84-11A89 11D46
    11F02"

/-- The syllables without a final consonant, and all syllables. -/
def openSyllables : String := "AC00-D788/1C"

def syllables : String := "AC00-D7A3"

def middleOfNumbers : String :=
  "2C 3B 37E 589 60C-60D 66C 7F8 2044 FE10 FE14 FE50 FE54 FF0C FF1B"

def middleOfLetters : String :=
  "3A B7 387 55F 5F4 2027 FE13 FE55 FF1A"

def middleOfBoth : String :=
  "2E 2018-2019 2024 FE52 FF07 FF0E"

/-- Signs that count as letters of words. -/
def letterSigns : String :=
  "2C2-2C5 2D2-2D7 2DE-2DF 2E5-2EB 2ED 2EF-2FF 55A-55C 55E 58A 5F3 A708-A716 A720-A721 A789-A78A
    AB5B"

/-- The scripts whose words are not parted by blanks. -/
def unpartedScripts : List String :=
  ["thai", "laoo", "mymr", "khmr", "tale", "talu", "lana", "tavt", "ahom", "hira"]

def continuing : String :=
  "2C-2D 3A 55D 60C-60D 7F8 1802 1808 2013-2014 3001 FE10-FE11 FE13 FE31-FE32 FE50-FE51 FE55 FE58
    FE63 FF0C-FF0D FF1A FF64"

def fullStops : String := "2E 2024 FE52 FF0E"

def quotesBeside : String := "22 27 275B-2760 1F676-1F678 2E00-2E01 2E06-2E08 2E0B"

/-- Capitals and small letters that no sentence starts or goes on with. -/
def caselessSmall : String := "10D0-10FA 10FD-10FF"

def caselessCapital : String := "1C90-1CBA 1CBD-1CBF"

/-! Classes that several kinds of breaks share. -/

def scripts (names : List String) : CodeSet :=
  names.foldl (fun set name => set.union ((Script.setNamed? name).getD .empty)) .empty

/-- The class of a name that means the same everywhere. -/
def shared? (name : String) : Option CodeSet :=
  match name with
  | "cr" => some (.ofText "D")
  | "lf" => some (.ofText "A")
  | "regionalindicator" | "ri" => some (.ofText regionalIndicator)
  | "zwj" => some (.ofText "200D")
  | _ => none

/-- Format characters without those that extend others, and without some more. -/
def formatBut (others : String) : CodeSet :=
  ((set format).difference graphemeExtend).difference (.ofText others)

/-! Grapheme clusters. -/

def clusterExtend : CodeSet :=
  graphemeExtend.union (.ofText emojiModifier)

def clusterControl : CodeSet :=
  let unseen := (set unassigned).intersect (.ofText defaultIgnorableCodePoint)
  let controls := (unionOf [control, format, lineSeparator, paragraphSeparator]).union unseen
  ((controls.difference graphemeExtend).difference (.ofText prependedConcatenationMark)).difference
    (.ofText "A D 200C-200D")

def clusterMark : CodeSet :=
  ((extended [spacingMark] "E33 EB3").difference graphemeExtend).difference (.ofText looseMarks)

/-- The code points that stand in grapheme clusters as a name says. -/
def clusterNamed? (name : String) : Option CodeSet :=
  match name with
  | "control" | "cn" => some clusterControl
  | "extend" | "ex" => some clusterExtend
  | "prepend" | "pp" => some (.ofText prepended)
  | "spacingmark" | "sm" => some clusterMark
  | "l" => some (.ofText "1100-115F A960-A97C")
  | "v" => some (.ofText "1160-11A7 D7B0-D7C6")
  | "t" => some (.ofText "11A8-11FF D7CB-D7FB")
  | "lv" => some (.ofText openSyllables)
  | "lvt" => some ((CodeSet.ofText syllables).difference (.ofText openSyllables))
  | _ => shared? name

/-! Words. -/

def wordExtend : CodeSet :=
  clusterExtend.union (set spacingMark)

def katakana : CodeSet :=
  (scripts ["kana"]).union (.ofText "3031-3035 309B-309C 30A0 30FC FF70")

def hebrewLetter : CodeSet :=
  (scripts ["hebr"]).intersect (set otherLetter)

def wordLetter : CodeSet :=
  let others := ((((CodeSet.ofText ideographic).union katakana).union hebrewLetter).union
    wordExtend).union (scripts unpartedScripts)
  (alphabetic.union (.ofText letterSigns)).difference others

/-- The code points that stand in words as a name says. -/
def wordNamed? (name : String) : Option CodeSet :=
  match name with
  | "aletter" | "le" => some wordLetter
  | "doublequote" | "dq" => some (.ofText "22")
  | "singlequote" | "sq" => some (.ofText "27")
  | "extend" => some wordExtend
  | "extendnumlet" | "ex" => some (extended [connectorPunctuation] "202F")
  | "format" | "fo" => some (formatBut "200B-200D")
  | "hebrewletter" | "hl" => some hebrewLetter
  | "katakana" | "ka" => some katakana
  | "midletter" | "ml" => some (.ofText middleOfLetters)
  | "midnum" | "mn" => some (.ofText middleOfNumbers)
  | "midnumlet" | "mb" => some (.ofText middleOfBoth)
  | "newline" | "nl" => some (.ofText "B-C 85 2028-2029")
  | "numeric" | "nu" => some (extended [decimalNumber] "66B")
  | "wsegspace" => some (.ofText "20 1680 2000-2006 2008-200A 205F 3000")
  | _ => shared? name

/-! Sentences. -/

def sentenceExtend : CodeSet :=
  (graphemeExtend.union (set spacingMark)).union (.ofText "200D")

def sentenceLower : CodeSet :=
  (lowercase.difference graphemeExtend).difference (.ofText caselessSmall)

def sentenceUpper : CodeSet :=
  (uppercase.union (set titlecaseLetter)).difference (.ofText caselessCapital)

def sentenceLetter : CodeSet :=
  (alphabetic.union (.ofText "5F3")).difference
    ((sentenceLower.union sentenceUpper).union sentenceExtend)

/-- The code points that stand in sentences as a name says. -/
def sentenceNamed? (name : String) : Option CodeSet :=
  match name with
  | "aterm" | "at" => some (.ofText fullStops)
  | "close" | "cl" =>
    some (extended [openPunctuation, closePunctuation, initialPunctuation, finalPunctuation]
      quotesBeside)
  | "cr" | "lf" => shared? name
  | "extend" | "ex" => some sentenceExtend
  | "format" | "fo" => some (formatBut "200C-200D")
  | "lower" | "lo" => some sentenceLower
  | "numeric" | "nu" => some (extended [decimalNumber] "66B-66C")
  | "oletter" | "le" => some sentenceLetter
  | "scontinue" | "sc" => some (.ofText continuing)
  | "sep" | "se" => some (.ofText "85 2028-2029")
  | "sp" => some ((CodeSet.ofText whiteSpace).difference (.ofText "A D 85 2028-2029"))
  | "sterm" | "st" => some ((CodeSet.ofText sentenceTerminal).difference (.ofText fullStops))
  | "upper" | "up" => some sentenceUpper
  | _ => none

end SoundChange.Unicode.Break
