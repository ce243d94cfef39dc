import EntitySieve.Diagram.Listing
import EntitySieve.Diagram.Trace
import EntitySieve.Render.Settings

/-! The operations for a caller that has only texts, numbers and truth values to give. -/
namespace EntitySieve.Embedding

def filterDiagram (text exclude : Text) (pruneOrphans : Bool) : Logged Text := do
  let mode := if pruneOrphans then Mode.pruneOrphans else Mode.exclusionOnly
  let sieved ← sieveLogged mode (NameSet.ofCommaList exclude) text
  return sieved.text

def listEntities (text : Text) : Text := (Summary.ofText text).toJson.compact

def renderSettings (startOnLoad : Bool) (level : Text) (padding : UInt32) :
    Except Failure Text := do
  return Settings.text ⟨startOnLoad, ← SecurityLevel.parse level, padding⟩

end EntitySieve.Embedding
