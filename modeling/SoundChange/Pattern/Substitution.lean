import SoundChange.Pattern.Search

/-!
Replacing matches. Matches are found from left to right and do not overlap; an empty match right at
the end of the match before it is passed over. A template stands for the text put in the place of a
match: `$name` and `${name}` name a group by number or by name, and `$$` is a dollar sign.
-/
namespace SoundChange.Pattern

/-- A part of a template. -/
inductive TemplatePart where
  | literal (c : Char)
  | group (index : Nat)
  | named (name : String)
  deriving DecidableEq, Repr

/-- The largest group number; larger ones are taken for names. -/
def groupNumberLimit : Int := Int.ofNat (Nat.pow 2 64)

/-- A reference to a group: a number, with or without a plus sign, or a name. -/
def TemplatePart.ofReference (reference : List Char) : TemplatePart :=
  match Number.wholeWithin? 0 groupNumberLimit reference with
  | some index =>
    if reference.head? = some '-' then named (String.ofList reference) else group index.toNat
  | none => named (String.ofList reference)

/-- The characters of references that are written without braces. -/
def isReferenceCharacter (c : Char) : Bool :=
  c.isAlphanum || c == '_'

/-- The parts of a template; `budget` bounds the number of its characters. -/
def templateParts : Nat → List Char → List TemplatePart
  | 0, _ => []
  | _ + 1, [] => []
  | budget + 1, '$' :: '$' :: rest => .literal '$' :: templateParts budget rest
  | budget + 1, '$' :: '{' :: rest =>
    match rest.span (· != '}') with
    | (reference, _ :: after) => .ofReference reference :: templateParts budget after
    | (_, []) => .literal '$' :: templateParts budget ('{' :: rest)
  | budget + 1, '$' :: rest =>
    match rest.span isReferenceCharacter with
    | ([], _) => .literal '$' :: templateParts budget rest
    | (reference, after) => .ofReference reference :: templateParts budget after
  | budget + 1, c :: rest => .literal c :: templateParts budget rest

/-- A compiled pattern together with the template for its matches. -/
structure Substitution where
  program : Program
  template : List TemplatePart

namespace Substitution

/-- The substitution of a pattern and a template, if the pattern is one. -/
def ofTexts? (pattern template : String) : Option Substitution :=
  let characters := template.toList
  (Program.ofText? pattern).map fun program =>
    ⟨program, templateParts (characters.length + 1) characters⟩

/-- What a part of the template becomes for one match. Unknown groups are empty. -/
def partText (s : Substitution) (text : Array Char) (m : Match) : TemplatePart → List Char
  | .literal c => [c]
  | .group index => m.groupText text index
  | .named name =>
    match s.program.groupNamed? name with
    | some index => m.groupText text index
    | none => []

/-- The template filled in for one match. -/
def replacement (s : Substitution) (text : Array Char) (m : Match) : List Char :=
  s.template.flatMap (s.partText text m)

/-- The first match from a place on that is not an empty one at the end of the match before it. -/
def nextMatch? (s : Substitution) (text : Array Char) (previous : Option Nat) (place : Nat) :
    Option (Match × Nat × Nat) := do
  let m ← s.program.search? text place
  let (first, last) ← m.bounds? 0
  if first = last && previous = some last then
    let m ← s.program.search? text (place + 1)
    let (first, last) ← m.bounds? 0
    return (m, first, last)
  else return (m, first, last)

/-- Replaces the matches of the text from a place on; `budget` bounds the number of matches. -/
def runFrom (s : Substitution) (text : Array Char) : Nat → Option Nat → Nat → List Char
  | 0, _, place => (text.extract place text.size).toList
  | budget + 1, previous, place =>
    match s.nextMatch? text previous place with
    | none => (text.extract place text.size).toList
    | some (m, first, last) =>
      (text.extract place first).toList ++ s.replacement text m ++
        runFrom s text budget (some last) last

/-- The text with every match replaced. -/
def run (s : Substitution) (text : String) : String :=
  let characters := text.toList.toArray
  String.ofList (s.runFrom characters (characters.size + 2) none 0)

end Substitution

end SoundChange.Pattern
