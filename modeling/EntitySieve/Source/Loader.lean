import EntitySieve.Log.Record
import EntitySieve.Source.FileStore
import EntitySieve.Source.Path

/-! Loading sources by name and joining them into one text. -/
namespace EntitySieve

/-- Loads a source by its name. The state is what a loader remembers from one load to the next. -/
structure Loader (σ : Type) where
  load : Text → σ → Logged (Except Failure Text × σ)

/-- Drops one byte order mark at the start; the mark is not blank, so it would cling to the first
line. -/
def stripMark : Text → Text
  | [] => []
  | c :: t => if c = Char.ofNat 0xFEFF then t else c :: t

/-- Loads a file below a directory, or below the working directory. -/
def loadFile {φ : Type} [FileStore φ] (files : φ) (root : Option Text) (id : Text) :
    Except Failure Text :=
  match FileStore.readText files (Path.below root id) with
  | .ok t => .ok (stripMark t)
  | .error cause => .error (.source id cause)

namespace Loader

variable {σ : Type}

/-- A loader that remembers nothing and logs nothing. -/
def ofFunction (load : Text → Except Failure Text) : Loader Unit where
  load id s := pure (load id, s)

/-- Loads one source after the other up to the first failure. A line feed follows each text. -/
def loadAll (l : Loader σ) : List Text → σ → Logged (Except Failure Text × σ)
  | [], s => pure (.ok [], s)
  | id :: ids, s => do
    match ← l.load id s with
    | (.ok t, s) =>
      Logged.emit ⟨"Loaded diagram source", .debug,
        [("file", .text id), ("bytes", .count (Text.byteLength t))]⟩
      let (rest, s) ← l.loadAll ids s
      return (rest.map fun u => t ++ '\n' :: u, s)
    | (.error f, s) =>
      Logged.emit ⟨"Error loading diagram file", .error,
        [("file", .text id), ("error", .text f.message)]⟩
      return (.error f, s)

def combine (l : Loader σ) (ids : List Text) (s : σ) : Logged (Except Failure Text × σ) :=
  Logged.within ⟨"combine_sources", .debug, [("file_count", .count ids.length)]⟩ (l.loadAll ids s)

end Loader
end EntitySieve
