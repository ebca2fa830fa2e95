import SoundChange.Main
import SoundChange.Window
import SoundChange.Proofs.Reconciliation
import SoundChange.Proofs.Sequencing
import SoundChange.Proofs.Tabulation
import SoundChange.Proofs.Replay
import SoundChange.Proofs.RuleCourse
import SoundChange.Proofs.ViewHistory
import SoundChange.Proofs.GivenWords
import SoundChange.Proofs.BatchRuns
import SoundChange.Proofs.EngineCalls
import SoundChange.Proofs.Footprints
import SoundChange.Proofs.InventedWords
import SoundChange.Proofs.JsonRoundTrip
import SoundChange.Proofs.TranscriptRoundTrip
import SoundChange.Proofs.FileTree
import SoundChange.Proofs.SavedGeneration
import SoundChange.Proofs.CodeSets
import SoundChange.Proofs.Operations
import SoundChange.Proofs.SyllablePatterns
import SoundChange.Proofs.WellFormedSystems
import SoundChange.Proofs.Drawings
import SoundChange.Proofs.DrawnWords
import SoundChange.Proofs.EngineReports
import SoundChange.Proofs.Stages
import SoundChange.Proofs.BatchStages
import SoundChange.Proofs.TableShape
import SoundChange.Proofs.Encodings
import SoundChange.Proofs.JsonReading
import SoundChange.Proofs.DistinctKeys
import SoundChange.Proofs.ReadingOrder
import SoundChange.Proofs.TranscriptFiles
import SoundChange.Proofs.EnumerationOrder
import SoundChange.Proofs.FaultMessages
import SoundChange.Proofs.FileFootprints
import SoundChange.Proofs.WindowRuns
import SoundChange.Proofs.RuleRuns
import SoundChange.Proofs.TableBuilding
import SoundChange.Proofs.WindowFrames
import SoundChange.Proofs.ChangedFiles
import SoundChange.Proofs.SettingsGate
import SoundChange.Proofs.LongestSpellings
import SoundChange.Proofs.LongerGenerations
import SoundChange.Proofs.MarkupReading
import SoundChange.Proofs.Pages
import SoundChange.Proofs.RecordReading
import SoundChange.Proofs.LineBreaks
import SoundChange.Proofs.MessageDisplays
import SoundChange.Proofs.RepartitionSpellings
import SoundChange.Proofs.WrittenNumbers
import SoundChange.Proofs.WordCounts
import SoundChange.Proofs.Trimming
import SoundChange.Proofs.WordLists
import SoundChange.Proofs.PatternReading
import SoundChange.Proofs.Fractions
import SoundChange.Proofs.PowerLaws
import SoundChange.Proofs.SettingsOverlay
import SoundChange.Proofs.LineFilter
