import EntitySieve.Source.FileStore

/-! The files of one run as they were found, and the one that it writes. -/
namespace EntitySieve

/-- What was found at the paths that were read, and what is to be written or why it cannot be. -/
structure Snapshot where
  contents : List (Text × Except IoCause ByteArray)
  refusal : Option IoCause
  written : Option (Text × ByteArray)

namespace Snapshot

def empty : Snapshot := ⟨[], none, none⟩

def add (s : Snapshot) (path : Text) (found : Except IoCause ByteArray) : Snapshot :=
  { s with contents := (path, found) :: s.contents }

def read (s : Snapshot) (path : Text) : Except IoCause ByteArray :=
  (s.contents.lookup path).getD (.error .notFound)

def write (s : Snapshot) (path : Text) (content : ByteArray) : Except IoCause Snapshot :=
  match s.refusal with
  | some cause => .error cause
  | none => .ok { s.add path (.ok content) with written := some (path, content) }

instance : FileStore Snapshot := ⟨read, write⟩

end Snapshot
end EntitySieve
