import SoundChange.Pattern.Reader

/-!
Patterns as programs. A program is an array of instructions, each of which names the instructions
that may come next; `compile` writes an expression in front of the instruction that follows it, so
that every instruction but those of open-ended repetitions points backwards into the array.
-/
namespace SoundChange.Pattern

open Unicode (CodeSet)

inductive Instruction where
  /-- One character of a set. -/
  | step (set : CodeSet) (next : Nat)
  | check (assertion : Assertion) (next : Nat)
  /-- Remembers the current place in a slot. -/
  | save (slot next : Nat)
  /-- Two ways to go on, the preferred one first. -/
  | fork (first second : Nat)
  | accept
  deriving Inhabited

/-- Code under construction. -/
abbrev Code : Type := Array Instruction

/-- Adds an instruction; answers its place. -/
def Code.emit (code : Code) (instruction : Instruction) : Nat × Code :=
  (code.size, code.push instruction)

/-- A fork between going into a repeated expression and leaving it. -/
def forkOf (greedy : Bool) (inside outside : Nat) : Instruction :=
  if greedy then .fork inside outside else .fork outside inside

/-- What writes an expression in front of the instruction at `next`, and answers its own start. -/
abbrev Writer : Type := Nat → Code → Nat × Code

/-- The expression written `count` times in a row. -/
def exactly (write : Writer) : Nat → Writer
  | 0, next, code => (next, code)
  | count + 1, next, code =>
    let (start, code) := exactly write count next code
    write start code

/-- The expression up to `count` times; before each copy there is a way out to `finish`. -/
def upTo (write : Writer) (greedy : Bool) (finish : Nat) : Nat → Code → Nat × Code
  | 0, code => (finish, code)
  | count + 1, code =>
    let (start, code) := upTo write greedy finish count code
    let (inside, code) := write start code
    code.emit (forkOf greedy inside finish)

/-- The expression once or more. -/
def onceOrMore (write : Writer) (greedy : Bool) : Writer := fun next code =>
  let (loop, code) := code.emit .accept
  let (inside, code) := write loop code
  (inside, code.setIfInBounds loop (forkOf greedy inside next))

/-- The expression any number of times. If it always advances, the loop can start at its fork; else
it is written as an optional repetition of once or more. -/
def anyNumber (write : Writer) (advances greedy : Bool) : Writer := fun next code =>
  if advances then
    let (loop, code) := code.emit .accept
    let (inside, code) := write loop code
    (loop, code.setIfInBounds loop (forkOf greedy inside next))
  else
    let (inside, code) := onceOrMore write greedy next code
    code.emit (forkOf greedy inside next)

/-- The characters of a literal in a row. -/
def writeLiteral : List Char → Writer
  | [], next, code => (next, code)
  | c :: rest, next, code =>
    let (start, code) := writeLiteral rest next code
    code.emit (.step (.single c.toNat) start)

/-- The slot for the start of a group; the one for its end comes next. -/
def startSlot (group : Nat) : Nat := 2 * group

/-- Writes an expression. -/
def compile : Expression → Writer
  | .empty, next, code => (next, code)
  | .literal text, next, code => writeLiteral text next code
  | .one set, next, code => code.emit (.step set next)
  | .check assertion, next, code => code.emit (.check assertion next)
  | .group index inner, next, code =>
    let (finish, code) := code.emit (.save (startSlot index + 1) next)
    let (inside, code) := compile inner finish code
    code.emit (.save (startSlot index) inside)
  | .sequence first second, next, code =>
    let (start, code) := compile second next code
    compile first start code
  | .either first second, next, code =>
    let (second, code) := compile second next code
    let (first, code) := compile first next code
    code.emit (.fork first second)
  | .repeated inner low high greedy, next, code =>
    match high with
    | some high =>
      let (start, code) := upTo (compile inner) greedy next (high - low) code
      exactly (compile inner) low start code
    | none =>
      if low = 0 then anyNumber (compile inner) inner.alwaysAdvances greedy next code
      else
        let (start, code) := onceOrMore (compile inner) greedy next code
        exactly (compile inner) (low - 1) start code

/-- A compiled pattern. -/
structure Program where
  code : Code
  start : Nat
  groups : Nat
  names : List (String × Nat)

namespace Program

/-- The program of a whole pattern, whose match is kept as group zero. -/
def ofParsed (parsed : Parsed) : Program :=
  let (accept, code) := Code.emit #[] .accept
  let (start, code) := compile (.group 0 parsed.expression) accept code
  ⟨code, start, parsed.groups, parsed.names⟩

/-- The pattern of a text, if the text is one. -/
def ofText? (text : String) : Option Program :=
  (readPattern? text).map ofParsed

/-- The number of a named group. -/
def groupNamed? (program : Program) (name : String) : Option Nat :=
  (program.names.find? (·.1 == name)).map (·.2)

end Program

end SoundChange.Pattern
