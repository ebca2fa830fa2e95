import SoundChange.Host

/-!
A machine as a value: a tree of files, an input and a seed that were given in advance, and an output
that has been written so far. Paths are followed part by part, from the top of the tree if they start
with a slash and otherwise from the directory that the machine works in. Nothing is above the top, so
a step up leads from there to the top again.
-/
namespace SoundChange

/-- What stands under a path. -/
inductive Entry where
  | file (content : List UInt8)
  | directory
  deriving DecidableEq, Repr

/-- Files and directories by the parts of their paths; the top itself is a directory. -/
structure Files where
  entries : List (List String × Entry)
  /-- The place that the machine works in. -/
  here : List String
  deriving DecidableEq, Repr, Inhabited

namespace Files

/-- Nothing but the top. -/
def empty : Files := ⟨[], []⟩

def lookup? (place : List String) : List (List String × Entry) → Option Entry
  | [] => none
  | (place', entry) :: others => if place' = place then some entry else lookup? place others

/-- What stands at a place. -/
def at? (files : Files) (place : List String) : Option Entry :=
  if place = [] then some .directory else lookup? place files.entries

def putEntry (place : List String) (entry : Entry) :
    List (List String × Entry) → List (List String × Entry)
  | [] => [(place, entry)]
  | (place', entry') :: others =>
    if place' = place then (place, entry) :: others
    else (place', entry') :: putEntry place entry others

/-- Puts a file or directory at a place. -/
def put (files : Files) (place : List String) (entry : Entry) : Files :=
  { files with entries := putEntry place entry files.entries }

/-- The parts of a path between its slashes. -/
def parts (path : String) : List String :=
  (path.toList.splitOn '/').map String.ofList

/-- The parts on the way to the last one, slashes at the end left out. -/
def wayTo (path : String) : List String :=
  ((parts path).reverse.dropWhile (· == "")).reverse.dropLast

/-- The place that a path starts from. -/
def start (files : Files) (path : String) : List String :=
  if path.toList.head? = some '/' then [] else files.here

/-- The longest name of one part, and of a whole path, in bytes. -/
def nameLimit : Nat := 255
def pathLimit : Nat := 4095

/-- One step from a place: up, nowhere, or down to an entry of the directory there. -/
def enter (files : Files) (place : List String) (part : String) :
    Except IoFault (List String) :=
  match files.at? place with
  | none => .error .notFound
  | some (.file _) => .error .notDirectory
  | some .directory =>
    if part = "" ∨ part = "." then .ok place
    else if part = ".." then .ok place.dropLast
    else if nameLimit < part.utf8ByteSize then .error .nameTooLong
    else
      match files.at? (place ++ [part]) with
      | some _ => .ok (place ++ [part])
      | none => .error .notFound

/-- Follows the parts of a path from a place. -/
def follow (files : Files) (place : List String) : List String → Except IoFault (List String)
  | [] => .ok place
  | part :: others =>
    match files.enter place part with
    | .ok place => files.follow place others
    | .error fault => .error fault

/-- A reason to refuse a path before following it. -/
def pathFault? (path : String) : Option IoFault :=
  if path.toList.contains '\x00' then some .zeroInPath
  else if path = "" then some .notFound
  else if pathLimit < path.utf8ByteSize then some .nameTooLong
  else none

/-- All bytes of a file. -/
def read (files : Files) (path : String) : Except IoFault (List UInt8) :=
  match pathFault? path with
  | some fault => .error fault
  | none =>
    match files.follow (files.start path) (parts path) with
    | .error fault => .error fault
    | .ok place =>
      match files.at? place with
      | some (.file content) => .ok content
      | some .directory => .error .isDirectory
      | none => .error .notFound

/-- The place of a file that is to be written. A slash at the end asks for a directory. -/
def placeToWrite (files : Files) (path : String) : Except IoFault (List String) :=
  match pathFault? path with
  | some fault => .error fault
  | none =>
    match files.follow (files.start path) (wayTo path) with
    | .error fault => .error fault
    | .ok place =>
      let name := (parts path).getLast?.getD ""
      match files.at? place with
      | some .directory =>
        if name = "" ∨ name = "." ∨ name = ".." then .error .isDirectory
        else if nameLimit < name.utf8ByteSize then .error .nameTooLong
        else if files.at? (place ++ [name]) = some .directory then .error .isDirectory
        else .ok (place ++ [name])
      | some (.file _) => .error .notDirectory
      | none => .error .notFound

/-- Replaces a file, or makes a new one. -/
def write (files : Files) (path : String) (text : String) : Except IoFault Files :=
  match files.placeToWrite path with
  | .error fault => .error fault
  | .ok place => .ok (files.put place (.file (Text.Utf8.encode text.toList)))

/-- Every place on the way to a place, the place itself left out. -/
def placesAbove (place : List String) : List (List String) :=
  (List.range (place.length - 1)).map fun count => place.take (count + 1)

/-- Puts an entry at a place and makes the directories on the way. -/
def putDeep (files : Files) (place : List String) (entry : Entry) : Files :=
  let files := (placesAbove place).foldl
    (fun files above =>
      match files.at? above with
      | some _ => files
      | none => files.put above .directory)
    files
  files.put place entry

/-- The tree with some files, given by their paths; a path that ends in a slash is a directory. -/
def ofList (contents : List (String × List UInt8)) : Files :=
  contents.foldl
    (fun files (path, content) =>
      let place := (parts path).filter (· != "")
      if path.toList.getLast? = some '/' then files.putDeep place .directory
      else files.putDeep place (.file content))
    empty

end Files

/-- A machine as a value. -/
structure World where
  files : Files
  input : List UInt8
  output : String
  seed : UInt64
  deriving DecidableEq, Repr, Inhabited

namespace World

def read (path : String) : StateM World (Except IoFault (List UInt8)) :=
  fun world => (world.files.read path, world)

def write (path : String) (text : String) : StateM World (Except IoFault Unit) :=
  fun world =>
    match world.files.write path text with
    | .ok files => (.ok (), { world with files := files })
    | .error fault => (.error fault, world)

def create (path : String) : StateM World (Except IoFault Unit) :=
  write path ""

def takeInput : StateM World (Except IoFault (List UInt8)) :=
  fun world => (.ok world.input, world)

def print (text : String) : StateM World (Except IoFault Unit) :=
  fun world => (.ok (), { world with output := world.output ++ text })

def giveSeed : StateM World UInt64 :=
  fun world => (world.seed, world)

/-- The pure host. -/
def host : Host (StateM World) :=
  ⟨read, write, create, write, takeInput, print, giveSeed⟩

end World

end SoundChange
