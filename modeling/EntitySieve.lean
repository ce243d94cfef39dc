import EntitySieve.Embedding
import EntitySieve.Main
import EntitySieve.Source.FileTree
import EntitySieve.Proofs.Closure
import EntitySieve.Proofs.Document
import EntitySieve.Proofs.Orphans
import EntitySieve.Proofs.Sequence
import EntitySieve.Proofs.Influence
import EntitySieve.Proofs.HeldInput
import EntitySieve.Proofs.JsonGrammar
import EntitySieve.Proofs.RunOutcome
import EntitySieve.Proofs.SettingsJson
import EntitySieve.Proofs.Occurrence
import EntitySieve.Proofs.ScriptLiteral
import EntitySieve.Proofs.PageReading
import EntitySieve.Proofs.ScriptElement
import EntitySieve.Proofs.Stability
import EntitySieve.Proofs.Accounts
import EntitySieve.Proofs.Indentation
import EntitySieve.Proofs.FileWrites
import EntitySieve.Proofs.Options
import EntitySieve.Proofs.Delivery
import EntitySieve.Proofs.Names
import EntitySieve.Proofs.JoinedSources
import EntitySieve.Proofs.Detection
import EntitySieve.Proofs.Monotonicity
import EntitySieve.Proofs.JsonRecords
import EntitySieve.Proofs.SettingsTexts
import EntitySieve.Proofs.ListingJson
import EntitySieve.Proofs.ExclusionLists
import EntitySieve.Proofs.Replay
