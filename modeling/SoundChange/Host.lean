import SoundChange.Text.Utf8

/-!
What a run needs from the machine it runs on: files that can be read and written, an input, an
output, and seeds for random draws. A `Host` gives these in some monad; a pure host is in
`SoundChange.Files`. Faults carry one message each.
-/
namespace SoundChange

/-- Why reading or writing failed. -/
inductive IoFault where
  | notFound
  | notDirectory
  | isDirectory
  | nameTooLong
  /-- A path that holds the character with code zero. -/
  | zeroInPath
  | invalidText
  | other (report : String)
  deriving DecidableEq, Repr

def IoFault.message : IoFault → String
  | notFound => "No such file or directory (os error 2)"
  | notDirectory => "Not a directory (os error 20)"
  | isDirectory => "Is a directory (os error 21)"
  | nameTooLong => "File name too long (os error 36)"
  | zeroInPath => "file name contained an unexpected NUL byte"
  | invalidText => "stream did not contain valid UTF-8"
  | other report => report

/-- A machine, as far as a run can see it. -/
structure Host (m : Type → Type) where
  /-- All bytes of a file. -/
  read : String → m (Except IoFault (List UInt8))
  /-- Replaces a file, or makes a new one. -/
  write : String → String → m (Except IoFault Unit)
  /-- Makes a file empty, or makes a new one. -/
  create : String → m (Except IoFault Unit)
  /-- Fills a file that was created, by way of a buffer. What is left in the buffer at the end is
  written without a report, so a fault is one that came before. -/
  fill : String → String → m (Except IoFault Unit)
  /-- All bytes of the input. -/
  input : m (Except IoFault (List UInt8))
  /-- Adds to the output. -/
  print : String → m (Except IoFault Unit)
  /-- A fresh seed for random draws. -/
  seed : m UInt64

/-- The text that some bytes encode. -/
def textOfBytes (bytes : List UInt8) : Except IoFault String :=
  match Text.Utf8.text? bytes with
  | some text => .ok text
  | none => .error .invalidText

/-- The text of a file. -/
def Host.readText {m : Type → Type} [Monad m] (host : Host m) (path : String) :
    m (Except IoFault String) := do
  match ← host.read path with
  | .error fault => return .error fault
  | .ok bytes => return textOfBytes bytes

end SoundChange
