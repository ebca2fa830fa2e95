import SoundChange.Batch
import SoundChange.Settings

/-!
Command lines. A command line is a list of options and operands; the first operand is the name of a
command, and what follows belongs to that command. An option is long, with its value behind an
equals sign or in the next argument, or short, where letters may be run together and a value may
follow its letter at once. Two hyphens end the options. Every option is given at most once at one
level, only the two counting ones may be repeated, but not both of them used together.
-/
namespace SoundChange

/-- The level of a command line: before a command is named, or inside a command. -/
inductive ArgumentLevel where
  | top
  | words
  | sounds
  | render
  deriving DecidableEq, Repr

inductive OptionName where
  | config
  | verbose
  | quiet
  | help
  | numbers
  | repartition
  | skipRules
  | format
  | output
  deriving DecidableEq, Repr

/-- Why a command line is not carried out. -/
inductive ArgumentFault where
  /-- The usage is asked for; this is no failure. -/
  | help
  | unknownCommand (text : String)
  | unknownOption (text : String)
  | unexpectedOperand (text : String)
  | missingValue (option : OptionName)
  | unexpectedValue (option : OptionName)
  | badValue (text : String)
  | repeated (option : OptionName)
  | conflict
  | missingOperand
  deriving DecidableEq, Repr

/-- A well-formed command line. -/
structure Arguments where
  settingsFile : String
  /-- The job to run; without one, the window is opened. -/
  job : Option Job
  deriving DecidableEq, Repr

namespace OptionName

def takesValue : OptionName → Bool
  | config | numbers | repartition | format | output => true
  | verbose | quiet | help | skipRules => false

/-- Whether an option may be given several times. -/
def counts : OptionName → Bool
  | verbose | quiet => true
  | _ => false

def long : OptionName → String
  | config => "config"
  | verbose => "verbose"
  | quiet => "quiet"
  | help => "help"
  | numbers => "numbers"
  | repartition => "repartition"
  | skipRules => "no-sound-transformations"
  | format => "format"
  | output => "output"

def short? : OptionName → Option Char
  | verbose => some 'v'
  | quiet => some 'q'
  | help => some 'h'
  | numbers => some 'n'
  | repartition => some 'r'
  | format => some 'f'
  | output => some 'o'
  | config | skipRules => none

end OptionName

namespace ArgumentLevel

/-- The options that are known at a level. -/
def options : ArgumentLevel → List OptionName
  | top => [.config, .verbose, .quiet, .help]
  | words =>
    [.config, .verbose, .quiet, .help, .numbers, .repartition, .skipRules, .format, .output]
  | sounds | render => [.config, .verbose, .quiet, .help, .format, .output]

/-- The command with a name. -/
def named? (text : String) : Option ArgumentLevel :=
  match text with
  | "words" => some words
  | "sounds" => some sounds
  | "render" => some render
  | _ => none

/-- The least and the largest number of operands. -/
def operandBounds : ArgumentLevel → Nat × Nat
  | top => (0, 0)
  | words => (1, 1)
  | sounds => (1, 2)
  | render => (2, 2)

def long? (level : ArgumentLevel) (text : String) : Option OptionName :=
  level.options.find? fun option => option.long == text

def short? (level : ArgumentLevel) (letter : Char) : Option OptionName :=
  level.options.find? fun option => option.short? == some letter

end ArgumentLevel

/-- One thing given on a command line. -/
inductive Given where
  | flag (option : OptionName)
  | valued (option : OptionName) (value : String)
  | operand (text : String)
  deriving DecidableEq, Repr

namespace Given

def isOperand : Given → Bool
  | operand _ => true
  | _ => false

/-- The option that is given. -/
def option? : Given → Option OptionName
  | flag option => some option
  | valued option _ => some option
  | operand _ => none

/-- The value given for an option. -/
def valueOf? (option : OptionName) : Given → Option String
  | valued option' value => if option' = option then some value else none
  | _ => none

def operand? : Given → Option String
  | operand text => some text
  | _ => none

end Given

namespace Arguments

/-- Whether the value behind an option is accepted; texts are checked where they are read. -/
def acceptsValue (option : OptionName) (value : String) : Bool :=
  match option with
  | .config | .output => !value.isEmpty
  | .numbers => (readWordCount value).isOk
  | .repartition => (readRepartition value).isOk
  | .format => (OutputFormat.ofName? value).isSome
  | _ => false

/-- An option with its value. -/
def valued (option : OptionName) (value : String) : Except ArgumentFault Given :=
  if acceptsValue option value then .ok (.valued option value) else .error (.badValue value)

/-- What a run of short options gives, and the option that still waits for its value. -/
def readShort (level : ArgumentLevel) : List Char →
    Except ArgumentFault (List Given × Option OptionName)
  | [] => .ok ([], none)
  | letter :: rest =>
    match level.short? letter with
    | none => .error (.unknownOption (String.ofList ['-', letter]))
    | some .help => .error .help
    | some option =>
      if option.takesValue then
        match rest with
        | [] => .ok ([], some option)
        | '=' :: value => (valued option (String.ofList value)).map fun given => ([given], none)
        | value => (valued option (String.ofList value)).map fun given => ([given], none)
      else
        match readShort level rest with
        | .error fault => .error fault
        | .ok (others, waiting) => .ok (.flag option :: others, waiting)

/-- What a long option gives, or the option that still waits for its value. -/
def readLong (level : ArgumentLevel) (text : List Char) :
    Except ArgumentFault (List Given × Option OptionName) :=
  let (name, rest) := text.span (· != '=')
  match level.long? (String.ofList name), rest with
  | none, _ => .error (.unknownOption (String.ofList name))
  | some .help, [] => .error .help
  | some option, [] => .ok (if option.takesValue then ([], some option) else ([.flag option], none))
  | some option, _ :: value =>
    if option.takesValue then
      (valued option (String.ofList value)).map fun given => ([given], none)
    else .error (.unexpectedValue option)

/-- Whether an argument is an option rather than a value or operand. -/
def isOption (argument : String) : Bool :=
  match argument.toList with
  | '-' :: _ :: _ => true
  | _ => false

/-- What one argument that is an option gives. -/
def readOption (level : ArgumentLevel) (argument : String) :
    Except ArgumentFault (List Given × Option OptionName) :=
  match argument.toList with
  | '-' :: '-' :: name => readLong level name
  | _ :: letters => readShort level letters
  | [] => .error (.unknownOption argument)

/-- Adds what is given next to what was given before at the same level, the latest first. Options
are not repeated unless they count, operands are not empty, and there is a limit to their number. -/
def add (level : ArgumentLevel) (before : List Given) (given : Given) :
    Except ArgumentFault (List Given) :=
  match given with
  | .operand text =>
    if level.operandBounds.2 ≤ (before.filter Given.isOperand).length then
      .error (.unexpectedOperand text)
    else if text.isEmpty then .error (.badValue text)
    else .ok (given :: before)
  | .flag option | .valued option _ =>
    if !option.counts && (before.filterMap Given.option?).contains option then
      .error (.repeated option)
    else .ok (given :: before)

/-- What an argument that names no option gives before a command is named. -/
def readCommand (argument : String) (rest : List String) :
    Except ArgumentFault (ArgumentLevel × List String) :=
  match ArgumentLevel.named? argument with
  | some level => .ok (level, rest)
  | none =>
    if argument = "help" then
      match rest with
      | [] => .error .help
      | name :: _ =>
        if (ArgumentLevel.named? name).isSome || name = "help" then .error .help
        else .error (.unknownCommand name)
    else .error (.unknownCommand argument)

/-- What a level holds: what is given at it, and the command that follows with its arguments. -/
abbrev LevelContent : Type := List Given × Option (ArgumentLevel × List String)

/-- Reads the arguments of one level. -/
def readLevel (level : ArgumentLevel) (before : List Given) :
    List String → Except ArgumentFault LevelContent
  | [] => .ok (before, none)
  | "--" :: operands => do
    let given ← operands.foldlM (fun before text => add level before (.operand text)) before
    return (given, none)
  | argument :: rest =>
    if isOption argument then
      match readOption level argument with
      | .error fault => .error fault
      | .ok (given, waiting) =>
        match given.foldlM (add level) before with
        | .error fault => .error fault
        | .ok before =>
          match waiting, rest with
          | none, rest => readLevel level before rest
          | some option, [] => .error (.missingValue option)
          | some option, value :: rest =>
            if isOption value then .error (.missingValue option)
            else
              match (valued option value).bind (add level before) with
              | .error fault => .error fault
              | .ok before => readLevel level before rest
    else if level = .top then
      (readCommand argument rest).map fun command => (before, some command)
    else
      match add level before (.operand argument) with
      | .error fault => .error fault
      | .ok before => readLevel level before rest

/-- What must hold of a level as a whole: the two counting options exclude each other, and no
operand is missing. -/
def checkLevel (level : ArgumentLevel) (given : List Given) : Except ArgumentFault Unit :=
  if given.contains (.flag .verbose) && given.contains (.flag .quiet) then .error .conflict
  else if (given.filter Given.isOperand).length < level.operandBounds.1 then
    .error .missingOperand
  else .ok ()

/-- The value given for an option. -/
def value? (option : OptionName) (given : List Given) : Option String :=
  given.findSome? (Given.valueOf? option)

/-- The number of words that is generated unless another one is given. -/
def usualCount : Nat := 10

def usualRepartition : Repartition := .lessFrequent

/-- The value of an option as `read?` reads it, or the usual value. -/
def valueOr {α : Type} (read? : String → Option α) (usual : α) (option : OptionName)
    (given : List Given) : α :=
  ((value? option given).bind read?).getD usual

/-- The job of a command, whose operands were counted before. -/
def jobOf (level : ArgumentLevel) (given : List Given) : Option Job :=
  let operands := (given.filterMap Given.operand?).reverse
  let format := valueOr OutputFormat.ofName? .text .format given
  let job (rules : String) (task : Task) : Option Job :=
    some ⟨rules, task, format, value? .output given⟩
  match level, operands with
  | .words, [rules] =>
    let count := valueOr (fun text => (readWordCount text).toOption) usualCount .numbers given
    let repartition :=
      valueOr (fun text => (readRepartition text).toOption) usualRepartition .repartition given
    job rules (.words count repartition (given.contains (.flag .skipRules)))
  | .sounds, [rules] => job rules (.sounds none)
  | .sounds, [rules, source] => job rules (.sounds (some source))
  | .render, [rules, transcript] => job rules (.render transcript)
  | _, _ => none

/-- Reads a whole command line, without the name of the program. An option that is known at every
level counts where it is given last. -/
def read (arguments : List String) : Except ArgumentFault Arguments := do
  let (outer, command) ← readLevel .top [] arguments
  match command with
  | none =>
    checkLevel .top outer
    return ⟨(value? .config outer).getD Settings.usualFile, none⟩
  | some (level, rest) =>
    let (inner, _) ← readLevel level [] rest
    checkLevel level inner
    checkLevel .top outer
    let file := (value? .config inner <|> value? .config outer).getD Settings.usualFile
    return ⟨file, jobOf level inner⟩

end Arguments

end SoundChange
