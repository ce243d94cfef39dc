import EntitySieve.Failure

/-! Files by path, as far as a program sees them: reading a file, and writing one whole. -/
namespace EntitySieve

class FileStore (φ : Type) where
  read : φ → Text → Except IoCause ByteArray
  /-- The files after a file was written. -/
  write : φ → Text → ByteArray → Except IoCause φ

namespace FileStore

variable {φ κ : Type} [FileStore φ]

/-- The text of a file that holds one. -/
def readText (files : φ) (path : Text) : Except IoCause Text := do
  match Text.ofUtf8? (← read files path) with
  | some t => .ok t
  | none => .error .invalidUtf8

/-- The laws of files, where it is known which file a path leads to, be it there or not. -/
structure Lawful (file : φ → Text → κ) : Prop where
  /-- What is written is read by every path that leads there. -/
  read_written : ∀ {files after : φ} {path other : Text} {content : ByteArray},
    write files path content = .ok after → file files other = file files path →
      read after other = .ok content
  /-- A path that leads elsewhere reads what it did. If it read nothing, the cause may be another. -/
  read_other : ∀ {files after : φ} {path other : Text} {content : ByteArray},
    write files path content = .ok after → file files other ≠ file files path →
      (read after other).toOption = (read files other).toOption

end FileStore
end EntitySieve
