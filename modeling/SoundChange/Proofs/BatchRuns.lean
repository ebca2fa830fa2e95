import SoundChange.Batch
import SoundChange.Files

/-! Batch runs on a machine that is a value. Reading leaves the machine as it is, so what a run makes
of its files is decided by the machine that it started on, and only its delivery leaves a trace. -/
namespace SoundChange.BatchRuns

variable {system : Type}

/-! Steps on the machine, one after the other. -/

theorem run_bind {machine α β : Type} (act : StateM machine α) (next : α → StateM machine β)
    (s : machine) : (act >>= next) s = next (act s).1 (act s).2 := rfl

theorem run_pure {machine α : Type} (a : α) (s : machine) :
    (pure a : StateM machine α) s = (a, s) := rfl

theorem read_host (path : String) (world : World) :
    World.host.read path world = (world.files.read path, world) := rfl

theorem write_host (path text : String) (world : World) :
    World.host.write path text world =
      match world.files.write path text with
      | .ok files => (.ok (), { world with files := files })
      | .error fault => (.error fault, world) := rfl

theorem write_of_refused {path text : String} (world : World) {fault : IoFault}
    (refused : world.files.write path text = .error fault) :
    World.host.write path text world = (.error fault, world) := by
  rw [write_host, refused]

theorem write_of_written {path text : String} (world : World) {files : Files}
    (written : world.files.write path text = .ok files) :
    World.host.write path text world = (.ok (), { world with files := files }) := by
  rw [write_host, written]

/-- The text of a file. -/
theorem readText_host (path : String) (world : World) :
    World.host.readText path world = ((world.files.read path).bind textOfBytes, world) := by
  rw [Host.readText, run_bind, read_host]
  cases world.files.read path <;> rfl

/-- The transcript of a file. -/
theorem load_host (path : String) (world : World) :
    Transcript.load World.host path world =
      (match world.files.read path with
        | .error .isDirectory => .error (.content (.json .malformed))
        | .error fault => .error (.access path fault)
        | .ok bytes => (Transcript.ofBytes bytes).mapError .content, world) := by
  rw [Transcript.load, run_bind, read_host]
  cases world.files.read path with
  | ok bytes => rfl
  | error fault => cases fault <;> rfl

/-- A job that renders runs the engine on its rules and its transcript, if it can read both. -/
theorem make_render (engine : Engine system) (world : World) (rules saved : String)
    (format : OutputFormat) (output : Option String) :
    Batch.make World.host engine ⟨rules, .render saved, format, output⟩ world =
      (match (World.host.readText rules world).1 with
        | .error fault => .error (.access rules fault)
        | .ok source =>
          match (Transcript.load World.host saved world).1 with
          | .error fault => .error (.saved fault)
          | .ok transcript => .ok (engine.runOnTranscript source transcript), world) := by
  rw [Batch.make, run_bind, readText_host]
  cases (world.files.read rules).bind textOfBytes with
  | error fault => rfl
  | ok source =>
    have loads : Transcript.load World.host saved world =
        ((Transcript.load World.host saved world).1, world) := by rw [load_host]
    simp only [run_bind, run_pure, Batch.readMaterial]
    rw [loads]
    cases (Transcript.load World.host saved world).1 <;> rfl

/-! Delivering. An aligned table is printed in pieces, and they make up its text. -/

theorem join_alignedPieces (table : Table) :
    String.join table.alignedPieces = table.aligned := by
  apply String.toList_inj.mp
  simp only [Table.alignedPieces, Table.aligned, String.toList_join, List.flatMap_append,
    List.flatMap_cons, List.flatMap_nil, List.flatMap_map, String.toList_ofList, List.append_assoc,
    List.append_nil]

/-- Texts that are printed in turn stand one behind the other. -/
theorem printAll_host (texts : List String) (world : World) :
    Batch.printAll World.host texts world =
      (.ok (), { world with output := world.output ++ String.join texts }) := by
  induction texts generalizing world with
  | nil => simp [Batch.printAll, run_pure]
  | cons text texts ih =>
    have printed : World.host.print text world =
        (.ok (), { world with output := world.output ++ text }) := rfl
    rw [Batch.printAll, run_bind, printed]
    simp only [ih, String.join_cons, String.append_assoc]

/-- Whichever way it takes, a generation is delivered as its text in the format. -/
theorem emit_host (format : OutputFormat) (output : Option String) (generation : Generation)
    (world : World) :
    Batch.emit World.host format output generation world =
      match generation.format format with
      | .error fault => (.error (.render fault), world)
      | .ok text => Batch.deliver World.host output text world := by
  rw [Batch.emit]
  split
  · next direct =>
    obtain ⟨rfl, rfl⟩ := direct
    rw [run_bind, printAll_host, join_alignedPieces]
    rfl
  · cases generation.format format <;> rfl

end SoundChange.BatchRuns
