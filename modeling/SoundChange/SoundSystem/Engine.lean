import SoundChange.Generation
import SoundChange.Random.Stream
import SoundChange.SoundSystem.Apply
import SoundChange.SoundSystem.Compile
import SoundChange.SoundSystem.Generate
import SoundChange.SoundSystem.Pronounce

/-!
The engine of sound systems. It reads rule files, and every system that it makes draws its words
from the same sequence of random draws, most often the one of a seed.
-/
namespace SoundChange

/-- How a generation fails for the one who asked for it. The program stops at faults without a
message. -/
def GenerationFault.asEngineFault (fault : GenerationFault) : EngineFault :=
  match fault.message with
  | some report => .generation report
  | none => .stopped (if fault = .exhausted then .exhausted else .breakdown)

namespace SoundSystem

/-- The engine whose systems start with given draws. -/
def engine (draws : Random.Draws) : Engine SoundSystem where
  parse source := (ofText source draws).mapError fun fault => .parse fault.message
  generate count repartition system :=
    let (outcome, system) := system.generate count repartition
    (outcome.mapError GenerationFault.asEngineFault, system)
  apply words system :=
    ((system.apply words).mapError fun fault => .transformation fault.message, system)
  transcribe word system :=
    ((system.pronounce word).mapError fun fault => .transcription fault.message, system)
  release := release

/-- `with_seed`: the engine whose systems start with the draws of a seed. -/
def seededEngine (seed : UInt64) : Engine SoundSystem :=
  engine (.ofSeed seed)

end SoundSystem

end SoundChange
