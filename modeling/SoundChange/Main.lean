import SoundChange.CommandLine

/-!
The program: its arguments are read, and the job they name is run on the real machine.
-/
namespace SoundChange

/-- The fault that a failed system call stands for. -/
def IoFault.ofError : IO.Error → IoFault
  | .noFileOrDirectory .. => .notFound
  | .inappropriateType _ _ details =>
    if details = "Is a directory" then .isDirectory else .notDirectory
  | error => .other (toString error)

/-- An action of the machine, its failures as faults. -/
def attempt {α : Type} (action : IO α) : IO (Except IoFault α) := do
  try
    return .ok (← action)
  catch error => return .error (IoFault.ofError error)

/-- A number made of random bytes. -/
def seedOfBytes (bytes : List UInt8) : UInt64 :=
  bytes.foldl (fun seed byte => seed * 256 + byte.toUInt64) 0

/-- The real machine. -/
def machine : Host IO where
  read path := attempt do return (← IO.FS.readBinFile path).toList
  write path text := attempt (IO.FS.writeFile path text)
  create path := attempt (IO.FS.writeFile path "")
  fill path text := attempt (IO.FS.writeFile path text)
  input := attempt do return (← (← IO.getStdin).readBinToEnd).toList
  print text := attempt do
    let output ← IO.getStdout
    output.putStr text
    output.flush
  seed := do return seedOfBytes (← IO.getRandomBytes 8).toList

/-- How the program is called. -/
def usage : String :=
  "Generate words and follow them through sound transformations\n\n" ++
    "Usage: soundshift [OPTIONS] [COMMAND]\n\n" ++
    "Commands:\n" ++
    "  words <RULES> [-n COUNT] [-r REPARTITION] [--no-sound-transformations]\n" ++
    "  sounds <RULES> [INPUT]\n" ++
    "  render <RULES> <TRANSCRIPT>\n\n" ++
    "Options of every command: [-f FORMAT] [-o OUTPUT]\n" ++
    "Options: [--config PATH] [-v]... [-q]... [-h]\n"

/-- Reports how a run ended. -/
def finish (exit : Exit) : IO UInt32 := do
  match exit.report with
  | some report => IO.eprintln report
  | none => pure ()
  return exit.code.toUInt32

/-- Carries out a command line. -/
def runArguments (arguments : List String) : IO UInt32 := do
  match Arguments.read arguments with
  | .error .help =>
    IO.print usage
    return 0
  | .error _ =>
    IO.eprint usage
    return 2
  | .ok ⟨settingsFile, some job⟩ => finish (← CommandLine.runFreshly machine settingsFile job)
  | .ok ⟨_, none⟩ => finish (.failure "No window can be opened")

end SoundChange

/-- The program. -/
def main (arguments : List String) : IO UInt32 :=
  SoundChange.runArguments arguments
