import EntitySieve.Source.Path
import EntitySieve.Source.FileStore

/-! A tree of files, and how a path finds its way in it. -/
namespace EntitySieve

/-- The names on the way from the working directory. To a place that does not lie below it the way
starts at the root, for which a solidus stands. -/
abbrev Place := List Text

/-- The files that a program sees from its working directory, to which the names `working` lead from
the root. What is listed as a directory is one, and so is what leads to a file or to the working
directory. -/
structure FileTree (working : List Text := ["tmp", "work"]) where
  files : List (Place × ByteArray)
  directories : List Place

/-- What a name stands for in a directory. -/
inductive Found where
  | directory (place : Place)
  | file (place : Place) (content : ByteArray)
  | absent (place : Place)

namespace Place

def root : Place := ["/"]

/-- The working directory has one place, whichever way leads there. -/
def settle (working : List Text) (place : Place) : Place :=
  if place = root ++ working then [] else place

/-- Where a path starts from. -/
def start (working : List Text) (p : Path) : Place :=
  if p.absolute then settle working root else []

/-- Above the root lies the root. -/
def parent (working : List Text) (place : Place) : Place :=
  if place = [] then settle working (root ++ working.dropLast)
  else if place = root then root
  else place.dropLast

end Place

namespace FileTree

variable {working : List Text}

def isDirectory (tree : FileTree working) (place : Place) : Bool :=
  ((Place.root ++ working) :: (tree.directories ++ tree.files.map (·.1.dropLast))).any fun d =>
    place.isPrefixOf d

def content? (tree : FileTree working) (place : Place) : Option ByteArray :=
  tree.files.lookup place

def find (tree : FileTree working) (place : Place) (name : Text) : Except IoCause Found :=
  if name = ['.'] then .ok (.directory place)
  else if name = ['.', '.'] then .ok (.directory (Place.parent working place))
  else if Path.maxNameBytes < Text.byteLength name then .error .nameTooLong
  else
    let there := Place.settle working (place ++ [name])
    if tree.isDirectory there then .ok (.directory there)
    else
      match tree.content? there with
      | some c => .ok (.file there c)
      | none => .ok (.absent there)

def enter (tree : FileTree working) (place : Place) (name : Text) : Except IoCause Place := do
  match ← tree.find place name with
  | .directory p => .ok p
  | .file .. => .error .notDirectory
  | .absent _ => .error .notFound

/-- The directory that holds what a path names. -/
def walk (tree : FileTree working) (p : Path) : Except IoCause Place :=
  p.through.foldlM tree.enter (Place.start working p)

/-- What a path leads to. -/
def locate (tree : FileTree working) (p : Path) : Except IoCause Found := do
  let place ← tree.walk p
  match p.last with
  | some name => tree.find place name
  | none => .ok (.directory place)

def read (tree : FileTree working) (path : Text) : Except IoCause ByteArray := do
  let p ← Path.parse path
  match ← tree.locate p with
  | .directory _ => .error .isDirectory
  | .file _ c => if p.slashed then .error .notDirectory else .ok c
  | .absent _ => .error .notFound

/-- The place of the file that a path leads to, be it there or not. A solidus at the end names a
directory. -/
def target (tree : FileTree working) (path : Text) : Except IoCause Place := do
  let p ← Path.parse path
  let place ← tree.walk p
  match p.last with
  | none => .error .isDirectory
  | some name =>
    if p.slashed then .error .isDirectory
    else
      match ← tree.find place name with
      | .directory _ => .error .isDirectory
      | .file place _ => .ok place
      | .absent place => .ok place

def put (tree : FileTree working) (place : Place) (content : ByteArray) : FileTree working :=
  { tree with files := (place, content) :: tree.files.filter fun f => f.1 ≠ place }

/-- Writes a file that exists or whose directory does. -/
def write (tree : FileTree working) (path : Text) (content : ByteArray) :
    Except IoCause (FileTree working) := do
  return tree.put (← tree.target path) content

/-- The files below the working directory that are new, or hold something else than before. -/
def changes (before after : FileTree working) : List (Place × ByteArray) :=
  after.files.filter fun f =>
    !Place.root.isPrefixOf f.1 &&
      !(before.content? f.1).any fun c => decide (c.data.toList = f.2.data.toList)

instance : FileStore (FileTree working) := ⟨read, write⟩

end FileTree
end EntitySieve
